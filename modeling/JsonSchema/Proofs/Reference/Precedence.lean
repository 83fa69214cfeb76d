import JsonSchema.Proofs.Reference.Optimality

namespace JsonSchema

instance : Std.TransCmp Pointer.compare := by
  have h : Pointer.compare = compareOn Pointer.tokens :=
    funext₂ fun p q => Pointer.compareTokens_eq p.tokens q.tokens
  exact h ▸ inferInstance

instance : Std.TransOrd Pointer := inferInstanceAs (Std.TransCmp Pointer.compare)

namespace Edge

variable {e next : Edge} {edges : List Edge}

instance : Std.TransCmp Edge.compare :=
  inferInstanceAs (Std.TransCmp (compareLex (compareOn source) (compareOn target)))

def Sorted (edges : List Edge) : Prop :=
  edges.Pairwise fun e next => e.compare next = .lt

theorem Sorted.insertSorted (h : Sorted edges) (e : Edge) : Sorted (insertSorted e edges) := by
  induction edges with
  | nil => exact List.pairwise_singleton _ _
  | cons first rest ih =>
    have ⟨hf, hr⟩ := List.pairwise_cons.mp h
    simp only [Edge.insertSorted]
    split
    case h_1 he =>
      refine List.pairwise_cons.mpr ⟨fun next hn => ?_, h⟩
      cases List.mem_cons.mp hn
      case inl hn => exact hn ▸ he
      case inr hn => exact Std.TransCmp.lt_trans he (hf next hn)
    case h_2 => exact h
    case h_3 he =>
      refine List.pairwise_cons.mpr ⟨fun next hn => ?_, ih hr⟩
      cases mem_insertSorted.mp hn
      case inl hn => exact hn ▸ Std.OrientedCmp.gt_iff_lt.mp he
      case inr hn => exact hf next hn

theorem sorted_sort (edges : List Edge) : Sorted (sort edges) := by
  have hf (sorted : List Edge) (h : Sorted sorted) :
      Sorted (edges.foldl (fun sorted e => Edge.insertSorted e sorted) sorted) := by
    induction edges generalizing sorted with
    | nil => exact h
    | cons first rest ih => exact ih _ (h.insertSorted first)
  exact hf [] List.Pairwise.nil

theorem compare_target (h : e.compare next = .lt) (hs : e.source = next.source) :
    e.target.compare next.target = .lt := by
  have hself : e.source.compare e.source = .eq := Std.ReflCmp.compare_self
  rwa [compare, ← hs, hself] at h

end Edge

theorem PointerTable.lookup_pairwise {α : Type} {R : α → α → Prop} {entries : List (Pointer × α)}
    {p : Pointer} {a b : α} (h : entries.Pairwise fun first second => first.1 = second.1 → R first.2 second.2)
    (ha : lookup entries p = some a) (hb : (p, b) ∈ entries) : b = a ∨ R a b := by
  induction entries with
  | nil => simp at hb
  | cons first rest ih =>
    obtain ⟨q, c⟩ := first
    have ⟨hf, hr⟩ := List.pairwise_cons.mp h
    rw [lookup] at ha
    split at ha
    case isTrue hq =>
      cases ha
      cases List.mem_cons.mp hb
      case inl hb => exact .inl (Prod.mk.inj hb).right
      case inr hb => exact .inr (hf _ hb hq)
    case isFalse hq =>
      cases List.mem_cons.mp hb
      case inl hb => exact absurd (Prod.mk.inj hb).left.symm hq
      case inr hb => exact ih hr ha hb

namespace ReferenceMap

variable {edges : List Edge} {source target : Pointer}

-- Of the places to which recursive references at one place lead, this one contains all others; so its pointer
-- is the shortest.
structure OutermostTarget (edges : List Edge) (source target : Pointer) : Prop where
  mem       : ⟨source, target⟩ ∈ edges
  isWithin  : source.isWithin target = true
  outermost : ∀ other, ⟨source, other⟩ ∈ edges → source.isWithin other = true → other.isWithin target = true

theorem outermostTarget_of_seeds (h : Edge.Sorted edges) (hs : (seeds edges).get? source = some target) :
    OutermostTarget edges source target := by
  obtain ⟨hm, hw⟩ := mem_seeds (PointerTable.mem_of_get? hs)
  refine ⟨hm, hw, fun other ho hi => ?_⟩
  rw [seeds, PointerTable.get?_ofList] at hs
  have hp : ((edges.filter (·.isRecursive)).map fun e => (e.source, e.target)).Pairwise
      fun first second => first.1 = second.1 → first.2.compare second.2 = .lt :=
    List.pairwise_map.mpr ((List.Pairwise.filter _ h).imp Edge.compare_target)
  have hmem : (source, other) ∈ (edges.filter (·.isRecursive)).map fun e => (e.source, e.target) :=
    List.mem_map.mpr ⟨⟨source, other⟩, List.mem_filter.mpr ⟨ho, hi⟩, rfl⟩
  -- Both places enclose the source, and an enclosing place comes first.
  cases Pointer.isWithin_total hw hi
  case inr hot => exact hot
  case inl hto =>
    cases PointerTable.lookup_pairwise (R := fun first second => first.compare second = .lt) hp hs hmem
    case inl he  => exact he ▸ Pointer.isWithin_refl target
    case inr hlt => exact absurd hlt (Pointer.not_compare_lt_of_isWithin hto)

theorem get?_ofEdges (hs : (seeds edges).get? source = some target) :
    (ofEdges edges).get? source = some target := by
  have hf := PointerTable.get?_foldl_insert (PointerTable.ordered_ofList _)
    (copies edges (seeds edges).entries) source (t := seeds edges)
  exact hf.trans (by rw [hs, Option.some_or])

theorem exists_outermostTarget (h : Edge.Sorted edges) {e : Edge} (he : e ∈ edges) (hr : e.isRecursive = true) :
    ∃ target, (ofEdges edges).get? e.source = some target ∧ OutermostTarget edges e.source target := by
  have hk : e.source ∈ (seeds edges).keys := mem_keys_seeds.mpr ⟨e.target, he, hr⟩
  obtain ⟨target, hs⟩ := Option.isSome_iff_exists.mp (PointerTable.isSome_get?.mpr hk)
  exact ⟨target, get?_ofEdges hs, outermostTarget_of_seeds h hs⟩

-- The edges of a set may be given in any order, and more than once.
theorem ofEdges_outermost (edges : List Edge) :
    (∀ source target, (source, target) ∈ (ofEdges (Edge.sort edges)).entries →
      source.isWithin target = true) ∧
    ∀ e ∈ edges, e.isRecursive = true → ∃ target,
      (ofEdges (Edge.sort edges)).get? e.source = some target ∧ OutermostTarget edges e.source target := by
  refine ⟨fun _ _ => isWithin_of_mem_ofEdges, fun e he hr => ?_⟩
  obtain ⟨target, ht, ho⟩ := exists_outermostTarget (Edge.sorted_sort edges) (Edge.mem_sort.mpr he) hr
  refine ⟨target, ht, ⟨Edge.mem_sort.mp ho.mem, ho.isWithin, fun other hm => ?_⟩⟩
  exact ho.outermost other (Edge.mem_sort.mpr hm)

-- Two references at a leaf lead to branches that contain it, and the larger branch is seen from another place.
def branches : List Edge := [
  ⟨⟨["trunk", "branch", "leaf"]⟩, ⟨["trunk", "branch"]⟩⟩,
  ⟨⟨["shadow"]⟩, ⟨["trunk"]⟩⟩,
  ⟨⟨["trunk", "branch", "leaf"]⟩, ⟨["trunk"]⟩⟩]

theorem ofEdges_outermost_branches :
    let leaf : Pointer := ⟨["trunk", "branch", "leaf"]⟩
    ⟨leaf, ⟨["trunk", "branch"]⟩⟩ ∈ branches ∧ leaf.isWithin ⟨["trunk", "branch"]⟩ = true ∧
      (∃ target, (ofEdges (Edge.sort branches)).get? leaf = some target ∧ OutermostTarget branches leaf target) ∧
      (⟨["shadow", "branch", "leaf"]⟩, ⟨["shadow"]⟩) ∈ (ofEdges (Edge.sort branches)).entries ∧
      Pointer.isWithin ⟨["shadow", "branch", "leaf"]⟩ ⟨["shadow"]⟩ = true := by
  intro leaf
  have he : ⟨leaf, ⟨["trunk", "branch"]⟩⟩ ∈ branches := List.mem_cons_self
  have hm : (⟨["shadow", "branch", "leaf"]⟩, ⟨["shadow"]⟩) ∈ (ofEdges (Edge.sort branches)).entries := by
    decide +kernel
  exact ⟨he, by decide, (ofEdges_outermost branches).right _ he (by decide), hm,
    (ofEdges_outermost branches).left _ _ hm⟩

end ReferenceMap

end JsonSchema
