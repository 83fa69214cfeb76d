import JsonSchema.Proofs.Reference.Extension
import JsonSchema.Proofs.Reference.Recursion

namespace JsonSchema

namespace ReferenceMap

variable {references : ReferenceMap} {source target p q : Pointer}

theorem Ordered.ofEdges (edges : List Edge) : PointerTable.Ordered (ofEdges edges).entries :=
  PointerTable.Ordered.foldl_insert (PointerTable.ordered_ofList _)

theorem isWithin_of_mem_ofEdges {edges : List Edge} (h : (source, target) ∈ (ofEdges edges).entries) :
    source.isWithin target = true := by
  obtain ⟨place, node, outer, inner, rfl, rfl, _, _, hw⟩ := exists_of_mem_ofEdges h
  simp only [Pointer.isWithin_iff, Pointer.append, List.prefix_append_right_inj] at hw ⊢
  exact hw

-- Replacements of beginnings that have an entry, in any order, lead from a pointer to another one.
inductive Reaches (references : ReferenceMap) (p : Pointer) : Pointer → Prop
  | refl : Reaches references p p
  | step {source target : Pointer} {tokens : List String} :
    Reaches references p (source.append tokens) → (source, target) ∈ references.entries →
      Reaches references p (target.append tokens)

-- Shortening finds the shortest of the pointers that replacements lead to.
def FindsShortest (references : ReferenceMap) : Prop :=
  ∀ p q, references.Reaches p q → (references.shorten .empty p).depth ≤ q.depth

theorem reaches_shorten (references : ReferenceMap) (p : Pointer) :
    references.Reaches p (references.shorten .empty p) :=
  shorten_induct (fun _ _ _ hm _ h => h.step hm) .refl

theorem Reaches.trans {r : Pointer} (hq : references.Reaches p q) (hr : references.Reaches q r) :
    references.Reaches p r := by
  induction hr with
  | refl         => exact hq
  | step _ hm ih => exact ih.step hm

theorem Reaches.of_mem (hm : (p, q) ∈ references.entries) : references.Reaches p q := by
  have h : references.Reaches (p.append []) (q.append []) := .step .refl hm
  rwa [Pointer.append_nil, Pointer.append_nil] at h

theorem depth_shorten_le (references : ReferenceMap) (p : Pointer) :
    (references.shorten .empty p).depth ≤ p.depth := by
  refine shorten_induct (motive := fun q => q.depth ≤ p.depth) (fun source target tokens _ hi h => ?_)
    (Nat.le_refl _)
  have hd := Pointer.depth_lt_of_isInside hi
  simp only [Pointer.depth, Pointer.append, List.length_append] at hd h ⊢
  omega

theorem exists_outermost (hm : (source, target) ∈ references.entries)
    (hi : source.isInside target = true) :
    ∃ outer target' inner, references.Outermost outer target' ∧ source = outer.append inner := by
  induction hd : source.depth using Nat.strongRecOn generalizing source target with
  | ind depth ih =>
    by_cases he : ∃ outer target', (outer, target') ∈ references.entries ∧
        outer.isInside target' = true ∧ source.isInside outer = true
    case pos =>
      obtain ⟨outer, target', hm', hi', hs⟩ := he
      obtain ⟨back, _, rfl⟩ := Pointer.isInside_iff_exists.mp hs
      obtain ⟨first, target'', inner, ho, rfl⟩ :=
        ih _ (hd ▸ Pointer.depth_lt_of_isInside hs) hm' hi' rfl
      exact ⟨first, target'', inner ++ back, ho, Pointer.append_append ..⟩
    case neg =>
      have ho : references.Outermost source target := by
        refine ⟨hm, hi, fun hm' hi' hw => Classical.byContradiction fun hn => ?_⟩
        exact he ⟨_, _, hm', hi', Pointer.isInside_iff.mpr ⟨hw, Ne.symm hn⟩⟩
      exact ⟨source, target, [], ho, (Pointer.append_nil source).symm⟩

-- An outermost entry and one at a place within it replace different beginnings of the same pointers.
-- Whichever is replaced, shortening is to go on from the first one to a pointer that is not longer.
def FavorsOutermost (references : ReferenceMap) : Prop :=
  ∀ outer inner target target' tokens, references.Outermost outer target →
    (outer.append inner, target') ∈ references.entries →
    (references.shorten .empty (target.append (inner ++ tokens))).depth ≤
      (references.shorten .empty (target'.append tokens)).depth

theorem FavorsOutermost.depth_shorten_le_of_reaches (h : PointerTable.Ordered references.entries)
    (hw : ∀ source target, (source, target) ∈ references.entries → source.isWithin target = true)
    (hf : references.FavorsOutermost) (hr : references.Reaches p q) :
    (references.shorten .empty p).depth ≤ (references.shorten .empty q).depth := by
  induction hr with
  | refl => exact Nat.le_refl _
  | @step source target tokens _ hm ih =>
    refine Nat.le_trans ih ?_
    by_cases he : source = target
    case pos => exact he ▸ Nat.le_refl _
    case neg =>
      obtain ⟨outer, target', inner, ho, rfl⟩ :=
        exists_outermost hm (Pointer.isInside_iff.mpr ⟨hw _ _ hm, he⟩)
      have hu : references.Unwinds (outer.append (inner ++ tokens)) (target'.append (inner ++ tokens)) :=
        .step ho (.refl _)
      rw [Pointer.append_append, hu.shorten_eq h]
      exact hf outer inner target' target tokens ho hm

theorem FavorsOutermost.findsShortest (h : PointerTable.Ordered references.entries)
    (hw : ∀ source target, (source, target) ∈ references.entries → source.isWithin target = true)
    (hf : references.FavorsOutermost) : references.FindsShortest :=
  fun _ q hr => Nat.le_trans (hf.depth_shorten_le_of_reaches h hw hr) (depth_shorten_le references q)

theorem FindsShortest.favorsOutermost (h : PointerTable.Ordered references.entries)
    (hs : references.FindsShortest) : references.FavorsOutermost := by
  intro outer inner target target' tokens ho hm
  have hu : references.Unwinds (outer.append (inner ++ tokens)) (target.append (inner ++ tokens)) :=
    .step ho (.refl _)
  rw [← hu.shorten_eq h]
  have hr : references.Reaches (outer.append (inner ++ tokens)) (target'.append tokens) := by
    rw [← Pointer.append_append]
    exact Reaches.refl.step hm
  exact hs _ _ (hr.trans (reaches_shorten references _))

-- Shortening finds the shortest pointers for the references of a schema exactly if the outermost of two
-- entries for a pointer is never the worse choice.
theorem findsShortest_iff (schema : Json) :
    (ofEdges (ReferenceGraph.ofSchema schema).closure).FindsShortest ↔
      (ofEdges (ReferenceGraph.ofSchema schema).closure).FavorsOutermost := by
  have h := Ordered.ofEdges (ReferenceGraph.ofSchema schema).closure
  constructor
  case mp  => exact fun hs => hs.favorsOutermost h
  case mpr => exact fun hf => hf.findsShortest h fun _ _ hm => isWithin_of_mem_ofEdges hm

theorem findsShortest_of_apart (schema : Json)
    (h : ∀ source target, (source, target) ∈ (ofEdges (ReferenceGraph.ofSchema schema).closure).entries →
      ∀ outer ∈ (ofEdges (ReferenceGraph.ofSchema schema).closure).keys, source.isInside outer = false) :
    (ofEdges (ReferenceGraph.ofSchema schema).closure).FindsShortest := by
  have hordered := Ordered.ofEdges (ReferenceGraph.ofSchema schema).closure
  refine FavorsOutermost.findsShortest hordered (fun _ _ hm => isWithin_of_mem_ofEdges hm) ?_
  intro outer inner target target' tokens ho hm
  cases inner with
  | nil =>
    rw [Pointer.append_nil] at hm
    rw [hordered.eq_of_mem ho.mem hm]
    exact Nat.le_refl _
  | cons token rest =>
    have hn := h _ _ hm outer (List.mem_map.mpr ⟨_, ho.mem, rfl⟩)
    have hi : (outer.append (token :: rest)).isInside outer = true :=
      Pointer.isInside_iff_exists.mpr ⟨_, by simp, rfl⟩
    exact absurd hi (by simp [hn])

-- Companies belong to persons, who are employed by companies, as their managers are.
def staff : Json :=
  .object [
    ("definitions", .object [
      ("company", .object [
        ("properties", .object [("owner", .object [("$ref", .string "#/definitions/person")])])]),
      ("person", .object [
        ("properties", .object [
          ("employer", .object [("$ref", .string "#/definitions/company")]),
          ("manager", .object [
            ("properties", .object [
              ("employer", .object [("$ref", .string "#/definitions/company")])])])])])])]

-- The employer of the manager of the owner of somebody's employer can stand for that employer at once. But
-- the owner is replaced first, and the employer of a manager is left.
theorem not_findsShortest_staff :
    ¬ (ofEdges (ReferenceGraph.ofSchema staff).closure).FindsShortest := by
  intro h
  let employer : Pointer := ⟨["definitions", "person", "properties", "employer"]⟩
  let manager : List String :=
    ["properties", "owner", "properties", "manager", "properties", "employer"]
  have hm : (employer.append manager, employer) ∈
      (ofEdges (ReferenceGraph.ofSchema staff).closure).entries := by decide +kernel
  exact absurd (h _ _ (.of_mem hm)) (by decide +kernel)

end ReferenceMap

end JsonSchema
