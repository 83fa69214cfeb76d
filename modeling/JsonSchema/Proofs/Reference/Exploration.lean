import JsonSchema.Proofs.Reference.Denotation
import JsonSchema.Proofs.Reference.Route

namespace JsonSchema

open Edge (Route composite)

namespace Path

-- The paths that are known after a while, with the references that they have not taken. At first these are
-- the single references; then any of them goes on along any reference to an edge that is not found yet.
inductive Explored (references : List Edge) : List Path → Prop
  | start : Explored references (references.map fun e => (e, references.erase e))
  | extend {known e unused next composed} :
    Explored references known → (e, unused) ∈ known → e.isRecursive = false → next ∈ unused →
      e.compose? next = some composed → (∀ rest, (composed, rest) ∉ known) →
      Explored references ((composed, unused.erase next) :: known)

def Finds (known : List Path) (e : Edge) : Prop := ∃ unused, (e, unused) ∈ known

-- No path goes on to an edge that is not found.
def Exhausted (known : List Path) : Prop :=
  ∀ e unused next composed, (e, unused) ∈ known → e.isRecursive = false → next ∈ unused →
    e.compose? next = some composed → Finds known composed

structure Takes (references : List Edge) (path : Path) (first : Edge) (rest : List Edge) : Prop where
  route  : Route references first rest
  edge   : path.1 = composite first rest
  nodup  : path.2.Nodup
  unused : ∀ next, next ∈ path.2 ↔ next ∈ references ∧ next ∉ first :: rest

def Keeps (references : List Edge) (known : List Path) (first : Edge) (rest : List Edge) : Prop :=
  ∃ path ∈ known, Takes references path first rest

variable {references found unused candidates : List Edge} {known pending : List Path}
  {e first first' next composed : Edge} {front back rest rest' : List Edge} {path : Path}

theorem finds_cons : Finds (path :: known) e ↔ e = path.1 ∨ Finds known e := by
  obtain ⟨x, unused⟩ := path
  simp only [Finds, List.mem_cons, Prod.mk.injEq, exists_or, exists_and_left, exists_eq, and_true]

theorem Keeps.cons (h : Keeps references known first rest) (path : Path) :
    Keeps references (path :: known) first rest := by
  obtain ⟨taken, hm, ht⟩ := h
  exact ⟨taken, List.mem_cons_of_mem _ hm, ht⟩

theorem takes_single (hd : references.Nodup) (h : e ∈ references) :
    Takes references (e, references.erase e) e [] where
  route  := .single h
  edge   := (Edge.composite_nil e).symm
  nodup  := hd.erase e
  unused := fun next => by rw [hd.mem_erase_iff, List.mem_singleton, and_comm]

theorem Takes.concat (h : Takes references (e, unused) first front) (hr : e.isRecursive = false)
    (hn : next ∈ unused) (hc : e.compose? next = some composed) :
    Takes references (composed, unused.erase next) first (front ++ [next]) := by
  obtain ⟨hm, hnew⟩ := (h.unused next).mp hn
  have he : e = composite first front := h.edge
  obtain ⟨hroute, hedge⟩ := h.route.concat hm hnew (he ▸ hr) (he ▸ hc)
  refine ⟨hroute, hedge, h.nodup.erase next, fun last => ?_⟩
  rw [h.nodup.mem_erase_iff, h.unused, ← List.cons_append, List.mem_append, List.mem_singleton, not_or]
  exact ⟨fun ⟨hl, hm, hnew⟩ => ⟨hm, hnew, hl⟩, fun ⟨hm, hnew, hl⟩ => ⟨hl, hm, hnew⟩⟩

theorem Explored.exists_takes (h : Explored references known) (hd : references.Nodup) :
    ∀ path ∈ known, ∃ first rest, Takes references path first rest ∧
      ∀ front back, rest = front ++ back → Keeps references known first front := by
  induction h with
  | start =>
    intro path hm
    obtain ⟨e, he, rfl⟩ := List.mem_map.mp hm
    have ht := takes_single hd he
    refine ⟨e, [], ht, fun front back hs => ?_⟩
    obtain ⟨rfl, rfl⟩ := List.append_eq_nil_iff.mp hs.symm
    exact ⟨_, hm, ht⟩
  | @extend known e unused next composed _ hm hr hn hc _ ih =>
    intro path hp
    cases List.mem_cons.mp hp
    case inr hp =>
      obtain ⟨first, rest, ht, hk⟩ := ih path hp
      exact ⟨first, rest, ht, fun front back hs => (hk front back hs).cons _⟩
    case inl hp =>
      subst hp
      obtain ⟨first, rest, ht, hk⟩ := ih _ hm
      have ht := ht.concat hr hn hc
      refine ⟨first, rest ++ [next], ht, fun front back hs => ?_⟩
      cases List.eq_nil_or_concat back
      case inl hb =>
        rw [hb, List.append_nil] at hs
        exact ⟨_, List.mem_cons_self, hs ▸ ht⟩
      case inr hb =>
        obtain ⟨init, last, rfl⟩ := hb
        rw [List.concat_eq_append, ← List.append_assoc] at hs
        exact (hk front init (List.append_inj_left' hs rfl)).cons _

theorem Explored.exists_route (h : Explored references known) (hd : references.Nodup)
    (hf : Finds known e) : ∃ first rest, Route references first rest ∧ e = composite first rest := by
  obtain ⟨unused, hm⟩ := hf
  obtain ⟨first, rest, ht, _⟩ := h.exists_takes hd _ hm
  exact ⟨first, rest, ht.route, ht.edge⟩

theorem Explored.finds_reference (h : Explored references known) (he : e ∈ references) :
    Finds known e := by
  induction h with
  | start                    => exact ⟨_, List.mem_map.mpr ⟨e, he, rfl⟩⟩
  | extend _ _ _ _ _ _ ih => exact finds_cons.mpr (.inr ih)

theorem Explored.extensions (h : Explored references known) (hm : (e, unused) ∈ known)
    (hr : e.isRecursive = false) (hc : candidates ⊆ unused) (hf : ∀ x, x ∈ found ↔ Finds known x) :
    ∃ more, Explored references more ∧
      (∀ path, path ∈ more ↔ path ∈ (extensions e unused found candidates).2 ∨ path ∈ known) ∧
      ∀ x, x ∈ (extensions e unused found candidates).1 ↔ Finds more x := by
  induction candidates generalizing found known with
  | nil => exact ⟨known, h, by simp [Path.extensions], hf⟩
  | cons next rest ih =>
    obtain ⟨hn, hrest⟩ := List.cons_subset.mp hc
    simp only [Path.extensions]
    split
    case h_1 => exact ih h hm hrest hf
    case h_2 composed hc =>
      split
      case isTrue => exact ih h hm hrest hf
      case isFalse hnew =>
        have hnew : ∀ rest, (composed, rest) ∉ known := fun rest hk => hnew ((hf _).mpr ⟨rest, hk⟩)
        have hf (x : Edge) : x ∈ composed.insertSorted found ↔
            Finds ((composed, unused.erase next) :: known) x := by
          rw [Edge.mem_insertSorted, hf, finds_cons]
        obtain ⟨more, he, hp, hx⟩ := ih (h.extend hm hr hn hc hnew) (List.mem_cons_of_mem _ hm) hrest hf
        refine ⟨more, he, fun path => ?_, hx⟩
        rw [hp, List.mem_append, List.mem_singleton, List.mem_cons, or_assoc]

-- The edges of the known paths are found, and all but the pending ones have been followed.
structure Pursues (references found : List Edge) (pending known : List Path) : Prop where
  explored : Explored references known
  finds    : ∀ e, e ∈ found ↔ Finds known e
  waits    : pending ⊆ known
  followed : ∀ e unused, (e, unused) ∈ known → (e, unused) ∈ pending ∨
    ∀ next composed, e.isRecursive = false → next ∈ unused → e.compose? next = some composed →
      composed ∈ found

theorem Pursues.extend (h : Pursues references found ((e, unused) :: pending) known)
    (hr : e.isRecursive = false) :
    ∃ more, known ⊆ more ∧ Pursues references (extensions e unused found unused).1
      ((extensions e unused found unused).2 ++ pending) more := by
  have hm := h.waits List.mem_cons_self
  obtain ⟨more, he, hp, hf⟩ := h.explored.extensions hm hr (List.Subset.refl _) h.finds
  have hx := (extensions_spec e unused found unused).left
  have hk : known ⊆ more := fun path hm => (hp path).mpr (.inr hm)
  refine ⟨more, hk, he, hf, ?waits, ?followed⟩
  case waits =>
    exact List.append_subset.mpr ⟨fun path hm => (hp path).mpr (.inl hm),
      fun path hm => hk (h.waits (List.mem_cons_of_mem _ hm))⟩
  case followed =>
    intro x rest hm
    cases (hp _).mp hm
    case inl hm => exact .inl (List.mem_append_left _ hm)
    case inr hm =>
      cases h.followed x rest hm
      case inr hd =>
        exact .inr fun next composed hr hn hc => (hx _).mpr (.inl (hd next composed hr hn hc))
      case inl hd =>
        cases List.mem_cons.mp hd
        case inr hd => exact .inl (List.mem_append_right _ hd)
        case inl hd =>
          cases hd
          exact .inr fun next composed _ hn hc => (hx _).mpr (.inr ⟨next, hn, hc⟩)

theorem Pursues.exists_exhausted (h : Pursues references found pending known) :
    ∃ more, Explored references more ∧ Exhausted more ∧ known ⊆ more ∧
      ∀ e, e ∈ follow found pending ↔ Finds more e := by
  induction found, pending using follow.induct generalizing known with
  | case1 found =>
    refine ⟨known, h.explored, fun e unused next composed hm hr hn hc => ?_, List.Subset.refl _, ?_⟩
    case refine_1 =>
      have hd := (h.followed e unused hm).resolve_left (by simp)
      exact (h.finds _).mp (hd next composed hr hn hc)
    case refine_2 =>
      rw [follow]
      exact h.finds
  | case2 found e unused pending hr ih =>
    rw [follow, if_pos hr]
    refine ih ⟨h.explored, h.finds, fun path hm => h.waits (List.mem_cons_of_mem _ hm), ?_⟩
    intro x rest hm
    cases h.followed x rest hm
    case inr hd => exact .inr hd
    case inl hd =>
      cases List.mem_cons.mp hd
      case inr hd => exact .inl hd
      case inl hd =>
        cases hd
        exact .inr fun _ _ hn => by simp [hr] at hn
  | case3 found e unused pending hr ih =>
    rw [follow, if_neg hr]
    obtain ⟨more, hk, hp⟩ := h.extend (Bool.eq_false_iff.mpr hr)
    obtain ⟨all, he, hx, hs, hf⟩ := ih hp
    exact ⟨all, he, hx, List.Subset.trans hk hs, hf⟩

theorem Explored.exists_exhausted (h : Explored references known) :
    ∃ more, Explored references more ∧ Exhausted more ∧ known ⊆ more := by
  have hp : Pursues references (known.map (·.1)) known known :=
    ⟨h, fun e => by simp [Finds], List.Subset.refl _, fun _ _ hm => .inl hm⟩
  obtain ⟨more, he, hx, hs, _⟩ := hp.exists_exhausted
  exact ⟨more, he, hx, hs⟩

-- In a round the first path that is pending is followed, as far as its edge is not recursive.
def round : List Edge × List Path → List Edge × List Path
  | (found, []) => (found, [])
  | (found, (e, unused) :: pending) =>
    if e.isRecursive then (found, pending)
    else ((extensions e unused found unused).1, (extensions e unused found unused).2 ++ pending)

def rounds : Nat → List Edge × List Path → List Edge × List Path
  | 0, state => state
  | n + 1, state => rounds n (round state)

theorem weight_pos (n : Nat) : 0 < weight n := by
  cases n <;> simp [weight]

theorem exists_rounds (found : List Edge) (pending : List Path) :
    ∃ n ≤ totalWeight pending, rounds n (found, pending) = (follow found pending, []) := by
  induction found, pending using follow.induct with
  | case1 found => exact ⟨0, Nat.zero_le _, by rw [follow]; rfl⟩
  | case2 found e unused pending hr ih =>
    obtain ⟨n, hn, hs⟩ := ih
    have := weight_pos unused.length
    refine ⟨n + 1, by simp only [totalWeight]; omega, ?_⟩
    rw [follow, if_pos hr, rounds, round, if_pos hr, hs]
  | case3 found e unused pending hr ih =>
    obtain ⟨n, hn, hs⟩ := ih
    have := totalWeight_extensions_lt e unused found
    rw [totalWeight_append] at hn
    refine ⟨n + 1, by simp only [totalWeight]; omega, ?_⟩
    rw [follow, if_neg hr, rounds, round, if_neg hr, hs]

end Path

namespace ReferenceGraph

open JsonSchema.Path

theorem mem_paths {graph : ReferenceGraph} {path : Path} :
    path ∈ graph.paths ↔ path ∈ graph.edges.map fun e => (e, graph.edges.erase e) := by
  simp [paths]

-- What the closure finds is what is found in one order, until nothing is left to explore.
theorem exists_explored (graph : ReferenceGraph) :
    ∃ known, Explored graph.edges known ∧ Exhausted known ∧
      ∀ e, e ∈ graph.closure ↔ Finds known e := by
  have hp : Pursues graph.edges (Edge.sort graph.edges) graph.paths
      (graph.edges.map fun e => (e, graph.edges.erase e)) := by
    refine ⟨.start, fun e => ?_, fun path hm => mem_paths.mp hm, fun _ _ hm => .inl (mem_paths.mpr hm)⟩
    simp only [Edge.mem_sort, Finds, List.mem_map, Prod.mk.injEq]
    exact ⟨fun h => ⟨_, e, h, rfl, rfl⟩, fun ⟨_, _, hm, he, _⟩ => he ▸ hm⟩
  obtain ⟨known, he, hx, _, hf⟩ := hp.exists_exhausted
  exact ⟨known, he, hx, hf⟩

end ReferenceGraph

namespace Json

variable {schema : Json}

-- The closure is found after finitely many rounds. It has all references, and every edge of it is that of a
-- route.
theorem closure_sound (hw : schema.WellFormed) :
    (∃ n ≤ Path.totalWeight (ReferenceGraph.ofSchema schema).paths,
      Path.rounds n (Edge.sort schema.references, (ReferenceGraph.ofSchema schema).paths) =
        (schema.closure, [])) ∧
    (∀ e ∈ schema.references, e ∈ schema.closure) ∧
    ∀ e ∈ schema.closure, ∃ first rest, Route schema.references first rest ∧
      e.source = first.source.append (Edge.passage first rest) ∧
      e.target = (rest.getLastD first).target := by
  refine ⟨Path.exists_rounds _ _, ?references, ?routes⟩
  all_goals obtain ⟨known, he, _, hf⟩ := (ReferenceGraph.ofSchema schema).exists_explored
  case references => exact fun e hm => (hf e).mpr (he.finds_reference hm)
  case routes =>
    intro e hm
    obtain ⟨first, rest, hr, rfl⟩ := he.exists_route (nodup_references hw) ((hf e).mp hm)
    exact ⟨first, rest, hr, rfl, rfl⟩

theorem closure_sound_linkedList :
    linkedList.WellFormed ∧ ∃ first rest, Route linkedList.references first rest ∧
      first.source.append (Edge.passage first rest) = ⟨["properties", "first", "properties", "rest"]⟩ ∧
      (rest.getLastD first).target = ⟨["definitions", "list"]⟩ := by
  have hw : linkedList.WellFormed := by decide
  have he : ⟨⟨["properties", "first", "properties", "rest"]⟩, ⟨["definitions", "list"]⟩⟩ ∈
      linkedList.closure := by decide +kernel
  obtain ⟨first, rest, hr, hs, ht⟩ := (closure_sound hw).right.right _ he
  exact ⟨hw, first, rest, hr, hs.symm, ht.symm⟩

end Json

end JsonSchema
