import JsonSchema.Proofs.Pointer.Table
import JsonSchema.Proofs.Reference.Unfolding

namespace JsonSchema

open Expansion (Source)

namespace Edge

variable {e next : Edge} {edges : List Edge}

theorem eq_of_compare (h : e.compare next = .eq) : e = next := by
  have ⟨hs, ht⟩ := Ordering.then_eq_eq.mp h
  cases e
  cases next
  simp only [mk.injEq]
  exact ⟨Pointer.eq_of_compare hs, Pointer.eq_of_compare ht⟩

theorem mem_insertSorted : e ∈ insertSorted next edges ↔ e = next ∨ e ∈ edges := by
  induction edges with
  | nil => simp [insertSorted]
  | cons first rest ih =>
    simp only [insertSorted]
    split
    case h_1    => simp
    case h_2 hc => simp [eq_of_compare hc]
    case h_3    => simp [ih, or_left_comm]

theorem mem_sort : e ∈ sort edges ↔ e ∈ edges := by
  have hf (edges sorted : List Edge) :
      e ∈ edges.foldl (fun sorted e => insertSorted e sorted) sorted ↔ e ∈ edges ∨ e ∈ sorted := by
    induction edges generalizing sorted with
    | nil => simp
    | cons first rest ih =>
      rw [List.foldl_cons, ih, mem_insertSorted, List.mem_cons]
      exact or_left_comm.trans or_assoc.symm
  simp [sort, hf]

theorem compose?_eq_some {composite : Edge} :
    e.compose? next = some composite ↔
      ∃ tokens, next.source = e.target.append tokens ∧
        composite = ⟨e.source.append tokens, next.target⟩ := by
  rw [compose?, Option.map_eq_some_iff]
  constructor
  case mp =>
    rintro ⟨source, hs, rfl⟩
    obtain ⟨tokens, hn, rfl⟩ := Pointer.rebase?_eq_some.mp hs
    exact ⟨tokens, hn, rfl⟩
  case mpr =>
    rintro ⟨tokens, hn, rfl⟩
    exact ⟨_, Pointer.rebase?_eq_some.mpr ⟨tokens, hn, rfl⟩, rfl⟩

end Edge

def Json.references (j : Json) : List Edge := (ReferenceGraph.ofSchema j).edges

namespace Json

variable {j : Json} {e : Edge} {p q : Pointer}

theorem mem_references :
    e ∈ j.references ↔
      ∃ found text, (e.source, found) ∈ j.nodes Pointer.root ∧ found.reference? = some text ∧
        Pointer.parse? text = some e.target := by
  rw [references, ReferenceGraph.ofSchema]
  induction j.nodes Pointer.root with
  | nil => simp [ReferenceGraph.ofNodes, ReferenceGraph.empty]
  | cons entry rest ih =>
    obtain ⟨p, found⟩ := entry
    simp only [ReferenceGraph.ofNodes, List.mem_cons, Prod.mk.injEq]
    cases hr : found.reference? with
    | none =>
      simp only [ih]
      constructor
      case mp  => exact fun ⟨i, text, hm, h⟩ => ⟨i, text, .inr hm, h⟩
      case mpr =>
        rintro ⟨i, text, hm, ht, h⟩
        refine ⟨i, text, hm.resolve_left ?_, ht, h⟩
        rintro ⟨_, rfl⟩
        simp [hr] at ht
    | some text =>
      cases hp : Pointer.parse? text with
      | none =>
        simp only [hp, ih]
        constructor
        case mp  => exact fun ⟨i, text, hm, h⟩ => ⟨i, text, .inr hm, h⟩
        case mpr =>
          rintro ⟨i, other, hm, ht, h⟩
          refine ⟨i, other, hm.resolve_left ?_, ht, h⟩
          rintro ⟨_, rfl⟩
          simp [hr] at ht
          simp [← ht, hp] at h
      | some target =>
        simp only [hp, List.mem_cons, ih]
        constructor
        case mp =>
          intro h
          cases h
          case inl he => exact ⟨found, text, .inl ⟨by rw [he], rfl⟩, hr, by rw [he, hp]⟩
          case inr h  =>
            obtain ⟨i, text, hm, h⟩ := h
            exact ⟨i, text, .inr hm, h⟩
        case mpr =>
          rintro ⟨i, other, hm, ht, h⟩
          cases hm
          case inr hm => exact .inr ⟨i, other, hm, ht, h⟩
          case inl hm =>
            obtain ⟨rfl, rfl⟩ := hm
            cases hr.symm.trans ht
            cases e
            exact .inl (congrArg _ (Option.some.inj (h.symm.trans hp)))

theorem mem_references_of_targetAt? (h : j.targetAt? p = some q) : ⟨p, q⟩ ∈ j.references := by
  obtain ⟨found, hg, h⟩ := Option.bind_eq_some_iff.mp h
  obtain ⟨text, hr, hp⟩ := Option.bind_eq_some_iff.mp h
  exact mem_references.mpr ⟨found, text, mem_nodes_of_get? hg, hr, hp⟩

theorem targetAt?_of_mem_references (hw : j.WellFormed) (he : e ∈ j.references)
    (hg : (j.get? e.source).isSome) : j.targetAt? e.source = some e.target := by
  obtain ⟨found, text, hm, hr, hp⟩ := mem_references.mp he
  obtain ⟨other, ho⟩ := Option.isSome_iff_exists.mp hg
  obtain rfl := get?_of_mem_nodes hw hm ho
  simp [targetAt?, ho, hr, hp]

theorem nodup_references (hw : j.WellFormed) : j.references.Nodup := by
  have hs : ∀ nodes : List (Pointer × Json),
      ((ReferenceGraph.ofNodes nodes).edges.map (·.source)).Sublist (nodes.map (·.1)) := by
    intro nodes
    induction nodes with
    | nil => exact List.Sublist.slnil
    | cons entry rest ih =>
      obtain ⟨p, found⟩ := entry
      simp only [ReferenceGraph.ofNodes]
      split
      case h_1 => exact ih.cons _
      case h_2 =>
        split
        case h_1 => exact ih.cons_cons _
        case h_2 => exact ih.cons _
  have hd := (nodup_nodes hw).sublist (hs (j.nodes Pointer.root))
  exact (List.pairwise_map.mp hd).imp fun hn he => hn (congrArg _ he)

theorem targetAt?_of_encloses (h : j.PureReferences) (hw : j.WellFormed) (he : e ∈ j.references)
    {tokens : List String} (hs : e.source = p.append tokens) (hn : tokens ≠ []) :
    j.targetAt? p = none := by
  cases ht : j.targetAt? p with
  | none   => rfl
  | some q =>
    obtain ⟨⟨text, hp, _⟩, _⟩ := h.of_targetAt? ht
    obtain ⟨found, other, hm, hr, _⟩ := mem_references.mp he
    have hm : ((Pointer.root.append p.tokens).append tokens, found) ∈ j.nodes Pointer.root := by
      rwa [Pointer.root_append_tokens, ← hs]
    have hm := mem_nodes_of_append hw hm hp
    simp only [nodes, nodesOfFields, List.append_nil, List.mem_cons, Prod.mk.injEq] at hm
    cases hm
    case inl hm =>
      have := Pointer.append_right_inj.mp (hm.left.trans (Pointer.append_nil _).symm)
      exact absurd this hn
    case inr hm =>
      obtain ⟨_, rfl⟩ := hm.resolve_right (by simp)
      simp [reference?, field?, asObject?] at hr

end Json

def Expansion.Source.Walkable (s : Source) (p : Pointer) : Prop := ∃ v, Visit.Toured s v ∧ v.path = p

-- A tour comes to see an edge by following references, none of them twice.
def Edge.Trail (s : Source) (e : Edge) (es : List Edge) : Prop :=
  ∃ ms v, Visit.start.run? s (ms ++ [none]) = some v ∧ v.path = e.source ∧ v.node = e.target ∧
    v.edges = es ∧ es.Nodup

variable {s : Source} {e next composite : Edge} {es : List Edge} {p q : Pointer} {tokens : List String}

theorem Expansion.Source.Walkable.of_isWithin (h : s.Walkable p) (hw : p.isWithin q = true) :
    s.Walkable q := by
  obtain ⟨tokens, rfl⟩ := Pointer.isWithin_iff_exists.mp hw
  obtain ⟨v, ⟨ms, hv⟩, hp⟩ := h
  cases tokens with
  | nil => exact ⟨v, ⟨ms, hv⟩, hp.trans (Pointer.append_nil q)⟩
  | cons token rest =>
    have hs : steps ms = q.tokens ++ token :: rest := by
      have h := congrArg Pointer.tokens ((Visit.path_of_run? hv).symm.trans hp)
      simpa [Pointer.append, Visit.start, Pointer.root] using h
    obtain ⟨front, _, _, u, _, hf, _, hu⟩ := Visit.exists_run?_of_steps hv hs (by simp)
    refine ⟨u, ⟨front, hu⟩, ?_⟩
    rw [Visit.path_of_run? hu, hf]
    exact Pointer.root_append_tokens q

section Pure

variable (hs : s.schema.PureReferences)

include hs

theorem walkable_iff : s.Walkable p ↔ ∃ q, s.schema.Walks Pointer.root p.tokens q := by
  constructor
  case mp =>
    rintro ⟨v, hv, rfl⟩
    obtain ⟨q, hq⟩ := hv.exists_settles hs
    exact ⟨q, hv.walks hs q hq⟩
  case mpr =>
    rintro ⟨q, hq⟩
    obtain ⟨ms, w, hw, hsteps, _⟩ := Visit.exists_run?_of_walks (v := Visit.start) hq
    refine ⟨w, ⟨ms, hw⟩, ?_⟩
    rw [Visit.path_of_run? hw, hsteps]
    exact Pointer.root_append_tokens p

theorem Json.IsTarget.walkable (h : s.schema.IsTarget p) : s.Walkable p :=
  ⟨_, ⟨_, Visit.run?_to_target hs h⟩, rfl⟩

theorem isTarget_of_run? {ms : List Move} {u v : Visit} (h : u.run? s (ms ++ [none]) = some v) :
    s.schema.IsTarget v.node := by
  obtain ⟨a, _, h⟩ := Visit.exists_move?_of_concat h
  obtain ⟨target, ht, _, hn, _⟩ := Visit.jump?_eq_some h
  exact hn ▸ hs.isTarget ht

theorem Edge.Trail.isTarget (h : e.Trail s es) : s.schema.IsTarget e.target := by
  obtain ⟨ms, v, hv, _, hn, _⟩ := h
  exact hn ▸ isTarget_of_run? hs hv

-- Tours to the same path and node are the same, since following references leads to smaller ranks.
theorem eq_of_run? {ms ns : List Move} {u v : Visit} (hu : Visit.start.run? s ms = some u)
    (hv : Visit.start.run? s ns = some v) (hp : u.path = v.path) (hn : u.node = v.node) : u = v := by
  have hrest {ms ns : List Move} {u v : Visit} (hu : Visit.start.run? s ms = some u)
      (hv : Visit.start.run? s ns = some v) (hsteps : steps ms = steps ns) (hn : u.node = v.node)
      (hpre : ms <+: ns) : u = v := by
    obtain ⟨rest, rfl⟩ := hpre
    obtain ⟨a, ha, hr⟩ := Visit.exists_run?_of_append hv
    obtain rfl := Option.some.inj (hu.symm.trans ha)
    rw [steps_append, List.self_eq_append_right] at hsteps
    obtain ⟨q, hq⟩ := Visit.Toured.exists_settles hs ⟨_, hu⟩
    obtain ⟨n, hk⟩ := hq.exists_rank
    obtain ⟨m, hm, hk'⟩ := Visit.rank_of_run? hsteps hr hk
    have := hk.unique (hn ▸ hk')
    obtain rfl : rest = [] := List.eq_nil_of_length_eq_zero (by omega)
    exact Option.some.inj hr
  have hsteps : steps ms = steps ns := by
    have h := congrArg Pointer.tokens hp
    simpa [Visit.path_of_run? hu, Visit.path_of_run? hv, Pointer.append] using h
  cases Visit.run?_comparable hu hv (hsteps ▸ List.prefix_refl _)
  case inl hpre => exact hrest hu hv hsteps hn hpre
  case inr hpre => exact (hrest hv hu hsteps.symm hn.symm hpre).symm

theorem Edge.Trail.unique {es' : List Edge} (h : e.Trail s es) (h' : e.Trail s es') : es = es' := by
  obtain ⟨_, u, hu, hp, hn, rfl, _⟩ := h
  obtain ⟨_, v, hv, hp', hn', rfl, _⟩ := h'
  rw [eq_of_run? hs hu hv (hp.trans hp'.symm) (hn.trans hn'.symm)]

variable (hw : s.schema.WellFormed)

include hw

theorem exists_run?_to_reference {ms : List Move} {u : Visit} (hu : Visit.start.run? s ms = some u)
    (he : e ∈ s.schema.references) (hsource : e.source = u.node.append tokens)
    (hp : s.Walkable (u.path.append tokens)) :
    ∃ v, u.run? s (tokens.map some ++ [none]) = some v ∧ v.path = u.path.append tokens ∧
      v.node = e.target ∧ v.edges = u.edges ++ [e] := by
  obtain ⟨w, hw', hwp⟩ := hp
  obtain ⟨ns, x, hx, rfl⟩ := Visit.Toured.exists_run? hu hw' hwp
  obtain ⟨a, ha⟩ := Visit.exists_run?_of_unreferenced hx fun front back hf hb => by
    refine Json.targetAt?_of_encloses hs hw he ?_ hb
    rw [hsource, hf, Pointer.append_append]
  obtain ⟨hpath, _, hnode, _, hedges, _⟩ := Visit.eq_of_run?_of_steps (by simp) ha
  rw [steps_map_some] at hpath hnode
  have hg : (s.schema.get? a.node).isSome := (Visit.Toured.run ⟨_, hu⟩ ha).isSome_get? hs
  have ht : s.schema.targetAt? a.node = some e.target := by
    rw [hnode, ← hsource] at hg ⊢
    exact Json.targetAt?_of_mem_references hw he hg
  obtain ⟨v, hv⟩ : ∃ v, a.jump? s = some v := by simp [Visit.jump?, ht]
  obtain ⟨target, ht', hp, hn, hes, _⟩ := Visit.jump?_eq_some hv
  obtain rfl := Option.some.inj (ht.symm.trans ht')
  refine ⟨v, ?_, hp.trans hpath, hn, ?_⟩
  case refine_1 => rw [Visit.run?_concat, ha, Option.bind_some, Visit.move?, hv]
  case refine_2 => rw [hes, hedges, hnode, ← hsource]

theorem trail_of_mem_references (he : e ∈ s.schema.references) (hp : s.Walkable e.source) :
    e.Trail s [e] := by
  have hroot : Pointer.root.append e.source.tokens = e.source := Pointer.root_append_tokens _
  have hstart : Visit.start.run? s [] = some Visit.start := rfl
  obtain ⟨v, hv, hpath, hn, hes⟩ :=
    exists_run?_to_reference hs hw hstart he hroot.symm (hroot.symm ▸ hp)
  exact ⟨_, v, hv, hpath.trans hroot, hn, hes, by simp⟩

theorem Edge.Trail.compose (h : e.Trail s es) (he : next ∈ s.schema.references) (hn : next ∉ es)
    (hc : e.compose? next = some composite) (hp : s.Walkable composite.source) :
    composite.Trail s (es ++ [next]) := by
  obtain ⟨tokens, hsource, rfl⟩ := Edge.compose?_eq_some.mp hc
  obtain ⟨ms, u, hu, hup, hun, rfl, hd⟩ := h
  rw [← hup] at hp
  obtain ⟨v, hv, hpath, hnode, hes⟩ :=
    exists_run?_to_reference hs hw hu he (hun ▸ hsource) hp
  refine ⟨ms ++ [none] ++ tokens.map some, v, ?_, hpath.trans (by rw [hup]), hnode, hes, ?_⟩
  case refine_1 => rw [List.append_assoc, Visit.run?_append, hu, Option.bind_some, hv]
  case refine_2 => exact List.nodup_append.mpr ⟨hd, by simp, fun a ha b hb => by
    rintro rfl
    exact hn (List.mem_singleton.mp hb ▸ ha)⟩

end Pure

namespace Path

-- All extensions of the trail of an edge are found.
def Closed (s : Source) (found : List Edge) (e : Edge) : Prop :=
  ∀ es next composite, e.Trail s es → next ∈ s.schema.references → next ∉ es →
    e.compose? next = some composite → composite ∈ found

-- Edges that are found have trails. What extends a trail is found or will be, unless it is recursive.
structure Follows (s : Source) (found : List Edge) (pending : List Path) : Prop where
  trail  : ∀ e ∈ found, s.Walkable e.source → ∃ es, e.Trail s es
  unused : ∀ path ∈ pending, path.1 ∈ found ∧ path.2.Nodup ∧
    ∀ es, path.1.Trail s es → ∀ next, next ∈ path.2 ↔ next ∈ s.schema.references ∧ next ∉ es
  closed : ∀ e ∈ found, e.isRecursive ∨ (∃ unused, (e, unused) ∈ pending) ∨ Closed s found e

theorem Closed.mono {found more : List Edge} (h : Closed s found e) (hf : found ⊆ more) :
    Closed s more e :=
  fun es next composite ht hr hn hc => hf (h es next composite ht hr hn hc)

theorem extensions_spec (e : Edge) (unused found candidates : List Edge) :
    (∀ x, x ∈ (extensions e unused found candidates).1 ↔
      x ∈ found ∨ ∃ next ∈ candidates, e.compose? next = some x) ∧
    (∀ path ∈ (extensions e unused found candidates).2, ∃ next ∈ candidates,
      e.compose? next = some path.1 ∧ path.2 = unused.erase next) ∧
    (∀ x ∈ (extensions e unused found candidates).1,
      x ∈ found ∨ ∃ path ∈ (extensions e unused found candidates).2, path.1 = x) := by
  induction candidates generalizing found with
  | nil => simp [extensions]
  | cons next rest ih =>
    simp only [extensions]
    split
    case h_1 hc =>
      obtain ⟨h₁, h₂, h₃⟩ := ih found
      refine ⟨fun x => by simp [h₁, hc], fun path hp => ?_, h₃⟩
      obtain ⟨n, hn, h⟩ := h₂ path hp
      exact ⟨n, List.mem_cons_of_mem _ hn, h⟩
    case h_2 composite hc =>
      split
      case isTrue hm =>
        obtain ⟨h₁, h₂, h₃⟩ := ih found
        refine ⟨fun x => ?_, fun path hp => ?_, h₃⟩
        case refine_1 =>
          simp only [h₁, List.mem_cons, exists_eq_or_imp, hc, Option.some.injEq]
          constructor
          case mp  => exact fun h => h.imp id .inr
          case mpr =>
            rintro (h | rfl | h)
            · exact .inl h
            · exact .inl hm
            · exact .inr h
        case refine_2 =>
          obtain ⟨n, hn, h⟩ := h₂ path hp
          exact ⟨n, List.mem_cons_of_mem _ hn, h⟩
      case isFalse =>
        obtain ⟨h₁, h₂, h₃⟩ := ih (composite.insertSorted found)
        simp only [Edge.mem_insertSorted] at h₁ h₃
        refine ⟨fun x => ?_, fun path hp => ?_, fun x hx => ?_⟩
        case refine_1 =>
          simp only [h₁, List.mem_cons, exists_eq_or_imp, hc, Option.some.injEq, eq_comm (a := x)]
          rw [or_assoc, or_left_comm]
        case refine_2 =>
          cases List.mem_append.mp hp
          case inl hp =>
            obtain ⟨n, hn, h⟩ := h₂ path hp
            exact ⟨n, List.mem_cons_of_mem _ hn, h⟩
          case inr hp =>
            obtain rfl := List.mem_singleton.mp hp
            exact ⟨next, List.mem_cons_self, hc, rfl⟩
        case refine_3 =>
          simp only [List.mem_append, List.mem_singleton, or_and_right, exists_or, exists_eq_left]
          cases h₃ x hx
          case inl h =>
            cases h
            case inl h => exact .inr (.inr h.symm)
            case inr h => exact .inl h
          case inr h => exact .inr (.inl h)

section Pure

variable {found unused : List Edge} {pending : List Path} (hs : s.schema.PureReferences)
  (hw : s.schema.WellFormed)

include hs hw

theorem Follows.extend (h : Follows s found ((e, unused) :: pending)) :
    Follows s (extensions e unused found unused).1
      ((extensions e unused found unused).2 ++ pending) := by
  obtain ⟨h₁, h₂, h₃⟩ := extensions_spec e unused found unused
  have ⟨he, hd, hu⟩ := h.unused (e, unused) List.mem_cons_self
  have hsub : found ⊆ (extensions e unused found unused).1 := fun x hx => (h₁ x).mpr (.inl hx)
  have hextend {next x : Edge} (hn : next ∈ unused) (hc : e.compose? next = some x)
      (hp : s.Walkable x.source) :
      ∃ es, e.Trail s es ∧ next ∉ es ∧ x.Trail s (es ++ [next]) := by
    obtain ⟨tokens, _, rfl⟩ := Edge.compose?_eq_some.mp hc
    obtain ⟨es, ht⟩ := h.trail e he (hp.of_isWithin (Pointer.isWithin_iff_exists.mpr ⟨_, rfl⟩))
    have ⟨hr, hes⟩ := (hu es ht next).mp hn
    exact ⟨es, ht, hes, ht.compose hs hw hr hes hc hp⟩
  constructor
  case trail =>
    intro x hx hp
    cases (h₁ x).mp hx
    case inl hx => exact h.trail x hx hp
    case inr hx =>
      obtain ⟨next, hn, hc⟩ := hx
      obtain ⟨es, _, _, ht⟩ := hextend hn hc hp
      exact ⟨_, ht⟩
  case unused =>
    intro path hp
    cases List.mem_append.mp hp
    case inr hp =>
      have ⟨hf, hrest⟩ := h.unused path (List.mem_cons_of_mem _ hp)
      exact ⟨hsub hf, hrest⟩
    case inl hp =>
      obtain ⟨last, hl, hc, hpu⟩ := h₂ path hp
      refine ⟨(h₁ _).mpr (.inr ⟨last, hl, hc⟩), hpu ▸ hd.erase last, fun es ht next => ?_⟩
      obtain ⟨_, v, hv, hvp, _⟩ := id ht
      obtain ⟨es', ht', _, hx⟩ := hextend hl hc ⟨v, ⟨_, hv⟩, hvp⟩
      rw [ht.unique hs hx, hpu, hd.mem_erase_iff, hu es' ht' next]
      rw [List.mem_append, List.mem_singleton, not_or]
      exact ⟨fun ⟨hn, hr, hes⟩ => ⟨hr, hes, hn⟩, fun ⟨hr, hes, hn⟩ => ⟨hn, hr, hes⟩⟩
  case closed =>
    intro x hx
    cases h₃ x hx
    case inr hx =>
      obtain ⟨path, hp, rfl⟩ := hx
      exact .inr (.inl ⟨path.2, List.mem_append_left _ hp⟩)
    case inl hx =>
      cases h.closed x hx
      case inl hr => exact .inl hr
      case inr hx =>
        cases hx
        case inr hc => exact .inr (.inr (hc.mono hsub))
        case inl hp =>
          obtain ⟨rest, hp⟩ := hp
          cases List.mem_cons.mp hp
          case inr hp => exact .inr (.inl ⟨rest, List.mem_append_right _ hp⟩)
          case inl hp =>
            cases hp
            refine .inr (.inr fun es next composite ht hr hn hc => ?_)
            exact (h₁ composite).mpr (.inr ⟨next, (hu es ht next).mpr ⟨hr, hn⟩, hc⟩)

theorem Follows.follow (h : Follows s found pending) :
    Follows s (Path.follow found pending) [] ∧ found ⊆ Path.follow found pending := by
  induction found, pending using Path.follow.induct with
  | case1 found =>
    rw [Path.follow]
    exact ⟨h, List.Subset.refl _⟩
  | case2 found e unused pending hr ih =>
    rw [Path.follow, if_pos hr]
    refine ih ⟨h.trail, fun path hp => h.unused path (List.mem_cons_of_mem _ hp), fun x hx => ?_⟩
    cases h.closed x hx
    case inl hx => exact .inl hx
    case inr hx =>
      cases hx
      case inr hx => exact .inr (.inr hx)
      case inl hx =>
        obtain ⟨rest, hm⟩ := hx
        cases List.mem_cons.mp hm
        case inl he => cases he; exact .inl hr
        case inr hm => exact .inr (.inl ⟨rest, hm⟩)
  | case3 found e unused pending hr ih =>
    rw [Path.follow, if_neg hr]
    obtain ⟨hf, hsub⟩ := ih (h.extend hs hw)
    exact ⟨hf, fun x hx => hsub (((extensions_spec e unused found unused).left x).mpr (.inl hx))⟩

end Pure

end Path

def Json.closure (j : Json) : List Edge := (ReferenceGraph.ofSchema j).closure

section Pure

variable (hs : s.schema.PureReferences) (hw : s.schema.WellFormed)

include hs hw

theorem follows_closure :
    Path.Follows s s.schema.closure [] ∧ s.schema.references ⊆ s.schema.closure := by
  have hd := Json.nodup_references hw
  have hstart : Path.Follows s (Edge.sort s.schema.references)
      (ReferenceGraph.ofSchema s.schema).paths := by
    constructor
    case trail =>
      exact fun e he hp => ⟨_, trail_of_mem_references hs hw (Edge.mem_sort.mp he) hp⟩
    case unused =>
      intro path hp
      obtain ⟨e, he, rfl⟩ := List.mem_map.mp hp
      have he : e ∈ s.schema.references := List.mem_reverse.mp he
      refine ⟨Edge.mem_sort.mpr he, hd.erase e, fun es ht next => ?_⟩
      obtain ⟨_, v, hv, hvp, _⟩ := id ht
      obtain rfl := ht.unique hs (trail_of_mem_references hs hw he ⟨v, ⟨_, hv⟩, hvp⟩)
      exact (hd.mem_erase_iff.trans and_comm).trans (and_congr_right' (by simp))
    case closed =>
      intro e he
      have he : e ∈ (ReferenceGraph.ofSchema s.schema).edges.reverse :=
        List.mem_reverse.mpr (Edge.mem_sort.mp he)
      exact .inr (.inl ⟨_, List.mem_map.mpr ⟨e, he, rfl⟩⟩)
  obtain ⟨hf, hsub⟩ := hstart.follow hs hw
  exact ⟨hf, fun e he => hsub (Edge.mem_sort.mpr he)⟩

theorem exists_trail_of_mem_closure (he : e ∈ s.schema.closure) (hp : s.Walkable e.source) :
    ∃ es, e.Trail s es :=
  (follows_closure hs hw).left.trail e he hp

-- The induction is on the moves before the last reference. Up to the reference before that one the tour
-- has seen an edge, and it extends the trail of that edge.
theorem mem_closure_of_run? {ms : List Move} {v : Visit}
    (h : Visit.start.run? s (ms ++ [none]) = some v) (hd : v.edges.Nodup)
    (hr : ∀ e ∈ s.schema.closure, e.isRecursive → v.path.isWithin e.source = false) :
    ⟨v.path, v.node⟩ ∈ s.schema.closure := by
  obtain ⟨hf, hsub⟩ := follows_closure hs hw
  induction hl : ms.length using Nat.strongRecOn generalizing ms v with
  | ind n ih =>
    obtain ⟨a, ha, hv⟩ := Visit.exists_move?_of_concat h
    obtain ⟨target, ht, hpath, hnode, hes, _⟩ := Visit.jump?_eq_some hv
    have hbase := Json.mem_references_of_targetAt? ht
    cases exists_last_none ms
    case inl hn =>
      obtain ⟨hp, _, han, _⟩ := Visit.eq_of_run?_of_steps hn ha
      have he : a.path = a.node := hp.trans han.symm
      rw [hpath, hnode, he]
      exact hsub hbase
    case inr hm =>
      obtain ⟨front, back, rfl, hn⟩ := hm
      rw [List.append_cons] at ha
      obtain ⟨u, hu, ha⟩ := Visit.exists_run?_of_append ha
      obtain ⟨hp, _, han, _, hae, _⟩ := Visit.eq_of_run?_of_steps hn ha
      rw [hes, hae] at hd
      have ⟨hdu, _, hdis⟩ := List.nodup_append.mp hd
      have hin : v.path.isWithin u.path = true :=
        Pointer.isWithin_iff_exists.mpr ⟨_, hpath.trans hp⟩
      have hru : ∀ e ∈ s.schema.closure, e.isRecursive → u.path.isWithin e.source = false := by
        intro e he hre
        refine Bool.eq_false_iff.mpr fun huw => ?_
        have := hr e he hre
        simp [Pointer.isWithin_trans hin huw] at this
      have hue := ih front.length (by simp [← hl]) hu hdu hru rfl
      have hc := (hf.closed _ hue).resolve_left fun hre => by simpa using hru _ hue hre
      have hc := hc.resolve_left (by simp)
      refine hc u.edges ⟨a.node, target⟩ _ ⟨front, u, hu, rfl, rfl, rfl, hdu⟩ hbase ?fresh ?compose
      case fresh   => exact fun hm => hdis _ hm _ (List.mem_singleton.mpr rfl) rfl
      case compose =>
        exact Edge.compose?_eq_some.mpr ⟨steps back, han, by rw [hpath, hp, hnode]⟩

end Pure

end JsonSchema
