import JsonSchema.Proofs.Reference.Recursion

namespace JsonSchema.Visit

open Expansion (Source leadsBack)

variable {s : Source} {u v w : Visit} {m : Move} {ms ns : List Move} {p q : Pointer}

-- The place and what is used tell where a tour has been. If the place is not the one of the node then it
-- lies in a target that makes a reference itself. All references that have been followed led to nodes
-- that are used, up to the one that the tour is about to come to.
structure Accounted (s : Source) (v : Visit) : Prop where
  place : v.node = v.place ∨
    ∃ p ∈ v.used, s.schema.targetAt? p ≠ none ∧ v.place.isWithin p = true
  skips : v.skips = true → v.place ∈ v.used ∧ s.schema.targetAt? v.place ≠ none ∧
    ∀ q, s.schema.Settles v.node q → q ∈ v.used
  edges : ∀ e ∈ v.edges, ∀ q, s.schema.Settles e.target q →
    q ∈ v.used ∨ s.schema.targetAt? v.node ≠ none ∧ s.schema.Settles v.node q

theorem self_mem_pointersOf (s : Source) (p : Pointer) : p ∈ s.pointersOf p := by
  unfold Source.pointersOf
  split <;> simp

theorem shorten_mem_pointersOf (hp : p.isInside (s.shorten p) = true) :
    s.shorten p ∈ s.pointersOf p := by
  have ⟨_, hne⟩ := Pointer.isInside_iff.mp hp
  have hr : p.isRoot = false := by
    refine Bool.eq_false_iff.mpr fun hr => ?_
    have := Pointer.depth_lt_of_isInside hp
    simp [Pointer.depth, List.isEmpty_iff.mp hr] at this
  simp [Source.pointersOf, hr, Ne.symm hne]

theorem Accounted.step (h : v.Accounted s) {token : String} (hm : v.step? s token = some w) :
    w.Accounted s := by
  obtain ⟨hn, _, rfl⟩ := step?_eq_some hm
  constructor
  case skips => simp
  case edges => exact fun e he q hq => .inl ((h.edges e he q hq).resolve_right fun hr => hr.left hn)
  case place =>
    cases h.place
    case inl hp => exact .inl (congrArg (·.child token) hp)
    case inr hp =>
      obtain ⟨p, hu, ht, hp⟩ := hp
      refine .inr ⟨p, hu, ht, Pointer.isWithin_trans ?_ hp⟩
      exact Pointer.isWithin_iff_exists.mpr ⟨[token], rfl⟩

theorem Accounted.jump (hg : s.Gathered) (h : v.Accounted s) (hm : v.jump? s = some w) :
    w.Accounted s := by
  obtain ⟨target, ht, _, rfl, hes, hf, htrue⟩ := jump?_eq_some hm
  have hedges {e : Edge} (he : e ∈ w.edges) {q : Pointer} (hq : s.schema.Settles e.target q) :
      q ∈ v.used ∨ s.schema.Settles w.node q := by
    rw [hes, List.mem_append, List.mem_singleton] at he
    cases he
    case inl he => exact (h.edges e he q hq).imp id fun hr => hr.right.of_jump ht
    case inr he =>
      subst he
      exact .inr hq
  cases hsk : v.skips
  case true =>
    obtain ⟨hu, hp, hsw⟩ := htrue hsk
    have ⟨hplace, href, hset⟩ := h.skips hsk
    rw [← hu] at hplace hset hedges
    constructor
    case place => exact .inr ⟨v.place, hplace, href, hp ▸ Pointer.isWithin_refl _⟩
    case skips => exact fun _ => ⟨hp ▸ hplace, hp ▸ href, fun q hq => hset q (.jump ht hq)⟩
    case edges => exact fun e he q hq => .inl ((hedges he hq).elim id fun h => hset q (.jump ht h))
  case false =>
    obtain ⟨hu, hp, hsw⟩ := hf hsk
    have htarget : w.node ∈ w.used := hu ▸ List.mem_append_right _ (self_mem_pointersOf s _)
    constructor
    case place => exact .inl hp.symm
    case skips =>
      intro hws
      have hs := (hg.shorten_of_isTarget (hg.pure.isTarget ht)).resolve_left (hsw.mp hws)
      obtain ⟨href, hset, hin, _⟩ := hs
      rw [hp]
      refine ⟨htarget, href, fun q hq => ?_⟩
      rw [hq.unique hset, hu]
      exact List.mem_append_right _ (shorten_mem_pointersOf hin)
    case edges =>
      intro e he q hq
      cases hedges he hq
      case inl hq => exact .inl (hu ▸ List.mem_append_left _ hq)
      case inr hq =>
        cases htw : s.schema.targetAt? w.node with
        | some _ => exact .inr ⟨by simp, hq⟩
        | none   => exact .inl (hq.eq_of_targetAt?_eq_none htw ▸ htarget)

theorem Toured.accounted (h : Toured s v) (hg : s.Gathered) : v.Accounted s := by
  refine Toured.induct ?start ?move h
  case start => exact ⟨.inl rfl, by simp [start], by simp [start]⟩
  case move =>
    intro v m w _ ih hm
    cases m with
    | none       => exact ih.jump hg hm
    | some token => exact ih.step hm

-- The reference leads to a node that encloses one that is used.
def Repeats (s : Source) (v : Visit) : Prop :=
  ∃ target, s.schema.targetAt? v.node = some target ∧ ∃ p ∈ v.used, p.isWithin target = true

-- The expansion does not follow the reference.
def Blocked (s : Source) (v : Visit) : Prop :=
  v.skips = false ∧
    ∃ target, s.schema.targetAt? v.node = some target ∧ leadsBack v.used v.place target = true

theorem blocked_iff (h : Toured s v) :
    v.Blocked s ↔ v.skips = false ∧ (v.Repeats s ∨
      ∃ target, s.schema.targetAt? v.node = some target ∧ v.place.isWithin target = true) := by
  have hroot := h.root_mem_used
  refine and_congr_right fun _ => ?_
  constructor
  case mp =>
    rintro ⟨target, ht, hb⟩
    simp only [leadsBack, Bool.or_eq_true, List.any_eq_true] at hb
    rcases hb with (hr | hp) | hu
    · refine .inl ⟨target, ht, .root, hroot, ?_⟩
      simp [Pointer.isWithin, Pointer.root, List.isEmpty_iff.mp hr]
    · exact .inr ⟨target, ht, hp⟩
    · exact .inl ⟨target, ht, hu⟩
  case mpr =>
    rintro (⟨target, ht, hu⟩ | ⟨target, ht, hp⟩)
    · exact ⟨target, ht, by simp [leadsBack, List.any_eq_true.mpr hu]⟩
    · exact ⟨target, ht, by simp [leadsBack, hp]⟩

theorem place_eq_node (hg : s.Gathered) (h : Toured s v) (hr : ¬ v.Repeats s)
    (ht : s.schema.targetAt? v.node = some q) (hw : v.place.isWithin q = true) : v.node = v.place := by
  refine (h.accounted hg).place.resolve_right ?_
  rintro ⟨p, hp, href, hin⟩
  cases Pointer.isWithin_total hin hw
  case inl hpq => exact hr ⟨q, ht, p, hp, hpq⟩
  case inr hqp =>
    obtain ⟨tokens, rfl⟩ := Pointer.isWithin_iff_exists.mp hqp
    by_cases hn : tokens = []
    case pos => exact hr ⟨_, ht, p, hp, by simp [hn]⟩
    case neg => exact href (Json.IsTarget.targetAt?_eq_none hg.pure (hg.pure.isTarget ht) hn)

-- The expansion follows all references that the moves follow.
def Clear (s : Source) (ms : List Move) : Prop :=
  ∀ front v, front ++ [none] <+: ms → start.run? s front = some v → ¬ v.Blocked s

-- The expansion comes to where the tour is.
def Reached (s : Source) (v : Visit) : Prop := ∃ ms, start.run? s ms = some v ∧ Clear s ms

theorem clear_of_steps (h : none ∉ ms) : Clear s ms :=
  fun _ _ hp => absurd (hp.subset (by simp)) h

theorem Clear.concat (h : Clear s ms) (hv : start.run? s ms = some v) (hm : m = none → ¬ v.Blocked s) :
    Clear s (ms ++ [m]) := by
  intro front u hp hu
  cases List.prefix_concat_iff.mp hp
  case inr hp => exact h front u hp hu
  case inl hp =>
    obtain ⟨rfl, hnone⟩ := List.append_inj' hp rfl
    obtain rfl := Option.some.inj (hv.symm.trans hu)
    exact hm (List.singleton_inj.mp hnone).symm

theorem reached_start : Reached s start := ⟨[], rfl, clear_of_steps (by simp)⟩

theorem reached_direct (hs : s.schema.PureReferences) (h : s.schema.IsTarget p) :
    Reached s (direct p) :=
  ⟨_, run?_to_target hs h, clear_of_steps (by simp)⟩

theorem Reached.toured (h : Reached s v) : Toured s v := by
  obtain ⟨ms, hv, _⟩ := h
  exact ⟨ms, hv⟩

theorem Reached.move (h : Reached s v) (hm : v.move? s m = some w) (hb : m = none → ¬ v.Blocked s) :
    Reached s w := by
  obtain ⟨ms, hv, hc⟩ := h
  exact ⟨ms ++ [m], by rw [run?_concat, hv, Option.bind_some, hm], hc.concat hv hb⟩

@[elab_as_elim]
theorem Reached.induct {motive : Visit → Prop} (start : motive start)
    (move : ∀ v m w, Reached s v → motive v → v.move? s m = some w → (m = none → ¬ v.Blocked s) →
      motive w)
    (h : Reached s v) : motive v := by
  obtain ⟨ms, hv, hc⟩ := h
  revert hc
  refine run?_induct ?nil ?concat hv
  case nil => exact fun _ => start
  case concat =>
    intro ms m v w hv ih hm hc
    have hms : Clear s ms := fun front u hp => hc front u (hp.trans (List.prefix_append ..))
    refine move v m w ⟨ms, hv, hms⟩ (ih hms) hm fun hn => ?_
    exact hc ms v (hn ▸ List.prefix_refl _) hv

theorem Reached.not_blocked (h : Reached s w) (hv : Toured s v) (hi : w.path.isInside v.path = true) :
    ¬ v.Blocked s := by
  obtain ⟨ms, hw, hc⟩ := h
  obtain ⟨ns, hv⟩ := hv
  obtain ⟨tokens, hn, hp⟩ := Pointer.isInside_iff_exists.mp hi
  have hsteps : steps ms = steps ns ++ tokens := by
    have h := congrArg Pointer.tokens hp
    simpa [path_of_run? hw, path_of_run? hv, Pointer.append, start, Pointer.root] using h
  cases run?_comparable hv hw (hsteps ▸ List.prefix_append ..)
  case inr hpre =>
    obtain ⟨rest, rfl⟩ := hpre
    simp [steps_append, hn] at hsteps
  case inl hpre =>
    obtain ⟨rest, rfl⟩ := hpre
    cases rest with
    | nil => exact absurd hsteps (by simp [hn])
    | cons m rest =>
      rw [run?_append, hv, Option.bind_some] at hw
      obtain ⟨a, ha, _⟩ := Option.bind_eq_some_iff.mp hw
      intro hb
      obtain ⟨_, target, ht, _⟩ := id hb
      obtain rfl := (isNone_of_move? ha).mpr (by simp [ht])
      exact hc ns v (List.append_cons ns none rest ▸ List.prefix_append ..) hv hb

theorem Toured.exists_arrival (h : Toured s v) (hg : s.Gathered) :
    ∃ u n, Toured s u ∧ u.run? s (List.replicate n none) = some v ∧ u.path = v.path ∧
      ∀ e ∈ u.edges, ∀ q, s.schema.Settles e.target q → q ∈ u.used := by
  refine Toured.induct ?start ?move h
  case start => exact ⟨start, 0, toured_start, rfl, rfl, by simp [start]⟩
  case move =>
    intro v m w hv ih hm
    cases m with
    | some token =>
      have hr : v.run? s [some token] = some w := by
        rw [run?, hm]
        rfl
      have hw := hv.run hr
      have hwe := (hw.accounted hg).edges
      obtain ⟨hn, _, rfl⟩ := step?_eq_some hm
      refine ⟨_, 0, hw, rfl, rfl, fun e he q hq => ?_⟩
      exact ((hv.accounted hg).edges e he q hq).resolve_right fun h => h.left hn
    | none =>
      obtain ⟨u, n, hu, hr, hp, he⟩ := ih
      obtain ⟨_, _, hpath, _⟩ := jump?_eq_some hm
      refine ⟨u, n + 1, hu, ?_, hp.trans hpath.symm, he⟩
      rw [List.replicate_succ', run?_concat, hr, Option.bind_some, hm]

-- The references that are followed until none is made are different ones, and all lead to one node.
theorem edges_of_run?_replicate {n : Nat} (hw : s.schema.Settles w.node w.node)
    (h : u.run? s (List.replicate n none) = some w) :
    ∃ es, w.edges = u.edges ++ es ∧ es.Nodup ∧ s.schema.Rank n u.node ∧
      s.schema.Settles u.node w.node ∧
      ∀ e ∈ es, s.schema.Settles e.target w.node ∧ ∃ k, s.schema.Rank k e.source ∧ k ≤ n := by
  induction n generalizing u with
  | zero =>
    cases h
    exact ⟨[], by simp, List.nodup_nil, .zero hw.targetAt?_eq_none, hw, by simp⟩
  | succ n ih =>
    obtain ⟨v, hv, hr⟩ := Option.bind_eq_some_iff.mp h
    obtain ⟨es, hes, hd, hrank, hset, hall⟩ := ih hr
    obtain ⟨target, ht, _, rfl, hve, _⟩ := jump?_eq_some hv
    have hu : s.schema.Rank (n + 1) u.node := .succ ht hrank
    refine ⟨⟨u.node, v.node⟩ :: es, by simp [hes, hve], ?nodup, hu, .jump ht hset, ?all⟩
    case nodup =>
      refine List.nodup_cons.mpr ⟨fun hm => ?_, hd⟩
      obtain ⟨_, k, hk, hle⟩ := hall _ hm
      have := hk.unique hu
      omega
    case all =>
      intro e he
      cases List.mem_cons.mp he
      case inl he =>
        subst he
        exact ⟨hset, n + 1, hu, Nat.le_refl _⟩
      case inr he =>
        obtain ⟨hs, k, hk, hle⟩ := hall e he
        exact ⟨hs, k, hk, Nat.le_succ_of_le hle⟩

theorem Toured.nodup_edges (hg : s.Gathered) (hw : Toured s w) (hset : w.Settled s)
    (hsk : w.skips = false) (hv : Toured s v) (hp : v.path = w.path) (hd : v.edges.Nodup)
    (hr : ∀ z, Toured s z → z.path = w.path → z.Blocked s → ¬ z.Repeats s) : w.edges.Nodup := by
  obtain ⟨u, n, hu, hrun, hup, hused⟩ := hv.exists_arrival hg
  obtain ⟨q, hq⟩ := hv.exists_settles hg.pure
  obtain ⟨k, x, hx, hxq⟩ := exists_run?_of_settles hq
  have hxp : x.path = v.path := by rw [path_of_run? hx, steps_replicate_none, Pointer.append_nil]
  have hself : s.schema.Settles x.node x.node := hxq ▸ hq.self
  obtain rfl := (hv.run hx).unique hw (hxp.trans hp) hself.targetAt?_eq_none hset
  have hux : u.run? s (List.replicate (n + k) none) = some x := by
    rw [← List.replicate_append_replicate, run?_append, hrun, Option.bind_some, hx]
  obtain ⟨es, hes, hde, _, _, hall⟩ := edges_of_run?_replicate hself hux
  have hdu : u.edges.Nodup := by
    obtain ⟨rest, hrest, _⟩ := edges_of_run? hrun
    exact (hrest ▸ hd).sublist (List.sublist_append_left ..)
  rw [hes]
  refine List.nodup_append.mpr ⟨hdu, hde, ?_⟩
  rintro e he _ hm rfl
  have hxu : x.node ∈ u.used := hused e he _ (hall e hm).left
  -- The last of the references that are followed would lead to a node that is used already.
  generalize n + k = i at hux
  cases i with
  | zero =>
    cases hux
    have := List.self_eq_append_right.mp hes
    simp [this] at hm
  | succ i =>
    rw [List.replicate_succ'] at hux
    obtain ⟨z, hz, hzx⟩ := exists_move?_of_concat hux
    obtain ⟨target, ht, hpath, rfl, _, _, hskips⟩ := jump?_eq_some hzx
    have hzsk : z.skips = false := by
      refine Bool.eq_false_iff.mpr fun hzs => ?_
      simp [hsk] at hskips
      simp [hzs] at hskips
    have hrep : z.Repeats s :=
      ⟨x.node, ht, x.node, used_subset_of_run? hz hxu, Pointer.isWithin_refl _⟩
    exact hr z (hu.run hz) hpath.symm ((blocked_iff (hu.run hz)).mpr ⟨hzsk, .inl hrep⟩) hrep

theorem Toured.walks_of_settled (hg : s.Gathered) (h : Toured s v) (hs : v.Settled s) :
    s.schema.Walks .root v.path.tokens v.node :=
  h.walks hg.pure v.node (h.settles_of_settled hg.pure hs)

-- What a tour does behind the target of a recursive reference can be done behind the source too.
theorem Toured.exists_parallel (hg : s.Gathered) {source target : Pointer} {tokens : List String}
    (hm : (source, target) ∈ s.recursive.entries) (hsource : s.Walkable source) (hv : Toured s v)
    (hp : v.path = target.append tokens) (hn : tokens ≠ []) :
    ∃ u w, (Toured s u ∧ u.Settled s ∧ u.path = target) ∧ Toured s w ∧
      w.path = source.append tokens ∧ w.node = v.node ∧ w.skips = v.skips ∧ v.used ⊆ w.used ∧
      v.edges.Sublist w.edges ∧
      (w.place = v.place ∨ v.place = u.place.append tokens ∧ v.node = u.node.append tokens ∧
        v.edges = u.edges) := by
  obtain ⟨ms, hms⟩ := hv
  have hsteps : steps ms = target.tokens ++ tokens := by
    have h := congrArg Pointer.tokens hp
    simpa [path_of_run? hms, Pointer.append, start, Pointer.root] using h
  obtain ⟨front, token, rest, u, rfl, hfront, rfl, hu⟩ := exists_run?_of_steps hms hsteps hn
  rw [run?_append, hu, Option.bind_some] at hms
  obtain ⟨u₁, hu₁, hrun⟩ := Option.bind_eq_some_iff.mp hms
  obtain ⟨hset, hchild, rfl⟩ := step?_eq_some hu₁
  have hut : Toured s u := ⟨front, hu⟩
  have hupath : u.path = target := by
    rw [path_of_run? hu, hfront]
    exact Pointer.root_append_tokens target
  -- The tour goes on from the target to the source, where it comes to the same node.
  obtain ⟨back, _, hback⟩ := Pointer.isInside_iff_exists.mp (hg.isInside_of_mem_recursive hm hsource)
  obtain ⟨x, hx, hxp⟩ := id hsource
  obtain ⟨ns, y, hy, hns⟩ := Toured.exists_run? hu hx (hxp.trans (hupath ▸ hback))
  obtain ⟨q, hq⟩ := (hut.run hy).exists_settles hg.pure
  obtain ⟨n, w, hw, rfl⟩ := exists_run?_of_settles hq
  have huw : u.run? s (ns ++ List.replicate n none) = some w := by
    rw [run?_append, hy, Option.bind_some, hw]
  have hwt : Toured s w := hut.run huw
  have hused := used_subset_of_run? huw
  have hwpath : w.path = source := by
    rw [path_of_run? huw, steps_append, hns, steps_replicate_none, List.append_nil, hupath, hback]
  have hnode : u.node = w.node := by
    have hwalks : s.schema.Walks .root (source.append []).tokens w.node ↔
        s.schema.Walks .root (target.append []).tokens w.node := hg.walks_of_mem_recursive hm hsource
    rw [Pointer.append_nil, Pointer.append_nil, ← hwpath, ← hupath] at hwalks
    exact (hut.walks_of_settled hg hset).unique
      (hwalks.mp (hwt.walks_of_settled hg hq.targetAt?_eq_none))
  obtain ⟨w₁, hw₁⟩ : ∃ w₁, w.step? s token = some w₁ := ⟨_, if_pos ⟨hnode ▸ hset, hnode ▸ hchild⟩⟩
  obtain ⟨_, _, rfl⟩ := step?_eq_some hw₁
  obtain ⟨x, hx, hxn, hxs, hxu, hxp, es, hve, hxe⟩ :=
    @run?_transport _ _ _ _ { w with
      path  := w.path.child token
      place := w.place.child token
      node  := w.node.child token
      skips := false } (by simp [hnode]) rfl rfl hrun
  have hwx : w.run? s (some token :: rest) = some x := by
    rw [run?, move?, hw₁, Option.bind_some, hx]
  refine ⟨u, x, ⟨hut, hset, hupath⟩, hwt.run hwx, ?path, hxn.symm, hxs.symm,
    hxu hused, ?edges, ?place⟩
  case path => rw [path_of_run? hwx, hwpath]; rfl
  case edges =>
    obtain ⟨more, hmore, _⟩ := edges_of_run? huw
    rw [hve, hxe, hmore]
    exact (List.sublist_append_left ..).append_right es
  case place =>
    by_cases hnone : none ∈ rest
    case pos => exact .inl (hxp hnone).symm
    case neg =>
      obtain ⟨_, hvp, hvn, _, hvedges, _⟩ := eq_of_run?_of_steps hnone hrun
      refine .inr ⟨hvp.trans ?_, hvn.trans ?_, hvedges⟩
      case refine_1 => exact Pointer.child_append ..
      case refine_2 => exact Pointer.child_append ..

-- On the way to a pointer tours are blocked only by their places, and then they have followed no reference
-- twice.
def Approachable (s : Source) (p : Pointer) : Prop :=
  ∀ v, Toured s v → p.isInside v.path = true → v.Blocked s → ¬ v.Repeats s ∧ v.edges.Nodup

theorem Reached.approachable (h : Reached s v) : Approachable s v.path :=
  fun _ hu hi hb => absurd hb (h.not_blocked hu hi)

-- A tour to the target of a recursive reference, or before it, is on the way to the source. One that goes
-- on from the target is compared with one that goes on from the source, which has used the same nodes and
-- more.
theorem Approachable.collapse (hg : s.Gathered) {source target : Pointer} {tokens : List String}
    (hm : (source, target) ∈ s.recursive.entries) (hsource : s.Walkable source)
    (h : Approachable s (source.append tokens)) : Approachable s (target.append tokens) := by
  intro v hv hi hb
  have hst := hg.isInside_of_mem_recursive hm hsource
  have hbefore {p : Pointer} (hw : target.isWithin p = true) : (source.append tokens).isInside p = true :=
    Pointer.isWithin_trans_isInside (Pointer.append_isWithin ..) (Pointer.isInside_trans_isWithin hst hw)
  cases Pointer.isWithin_total (Pointer.append_isWithin target tokens) (Pointer.isInside_iff.mp hi).left
  case inl hw => exact h v hv (hbefore hw) hb
  case inr hw =>
    obtain ⟨front, hpath⟩ := Pointer.isWithin_iff_exists.mp hw
    by_cases hn : front = []
    case pos => exact h v hv (hbefore (by simp [hpath, hn])) hb
    case neg =>
      obtain ⟨u, w, ⟨hu, hus, hup⟩, hwt, hwp, hnode, hskips, hused, hedges, hplace⟩ :=
        hv.exists_parallel hg hm hsource hpath hn
      have hwi : (source.append tokens).isInside w.path = true := by
        rw [hpath] at hi
        obtain ⟨back, hb, he⟩ := Pointer.isInside_iff_exists.mp hi
        rw [Pointer.append_append, Pointer.append_right_inj] at he
        rw [hwp]
        exact Pointer.isInside_iff_exists.mpr ⟨back, hb, by rw [he, Pointer.append_append]⟩
      obtain ⟨hsk, hcase⟩ := (blocked_iff hv).mp hb
      have hrepeats : v.Repeats s → w.Repeats s := by
        rintro ⟨q, hq, p, hp, hin⟩
        exact ⟨q, hnode ▸ hq, p, hused hp, hin⟩
      have hr : ¬ v.Repeats s := by
        intro hr
        have hb := (blocked_iff hwt).mpr ⟨hskips.trans hsk, .inl (hrepeats hr)⟩
        exact (h w hwt hwi hb).left (hrepeats hr)
      obtain ⟨q, hq, hin⟩ := hcase.resolve_left hr
      refine ⟨hr, ?_⟩
      cases hplace
      case inl hplace =>
        have hb := (blocked_iff hwt).mpr ⟨hskips.trans hsk, .inr ⟨q, hnode ▸ hq, hplace ▸ hin⟩⟩
        exact (h w hwt hwi hb).right.sublist hedges
      case inr hplace =>
        obtain ⟨hplace, hnode, hes⟩ := hplace
        have hun : u.node = u.place := by
          have hn := place_eq_node hg hv hr hq hin
          exact Pointer.append_left_inj.mp (hnode.symm.trans (hn.trans hplace))
        have husk : u.skips = false := by
          refine Bool.eq_false_iff.mpr fun hs => ?_
          exact ((hu.accounted hg).skips hs).right.left (hun ▸ hus)
        obtain ⟨x, hx, hxp, hd⟩ := hg.exists_toured_of_mem_recursive hm hsource
        rw [hes]
        refine hu.nodup_edges hg hus husk hx (hxp.trans hup.symm) hd fun z hz hzp hzb => ?_
        exact (h z hz (hbefore (by rw [hzp, hup]; exact Pointer.isWithin_refl _)) hzb).left

-- On the way to a pointer without beginnings to shorten no tour is blocked. Otherwise the reference would
-- be recursive, at its own place or as it is seen through the last reference that the tour has followed.
theorem Approachable.not_blocked (hg : s.Gathered) (h : Approachable s p)
    (hn : s.recursive.Normal p) (hp : s.Walkable p) (hv : Toured s v)
    (hi : p.isInside v.path = true) : ¬ v.Blocked s := by
  intro hb
  have ⟨hr, hd⟩ := h v hv hi hb
  obtain ⟨hsk, hcase⟩ := (blocked_iff hv).mp hb
  obtain ⟨q, hq, hin⟩ := hcase.resolve_left hr
  have hplace := place_eq_node hg hv hr hq hin
  have hkey {source : Pointer} (hk : source ∈ s.recursive.keys) : v.path.isWithin source = false := by
    refine Bool.eq_false_iff.mpr fun hw => ?_
    have := hg.not_isWithin_of_normal hn hp hk
    simp [Pointer.isWithin_trans (Pointer.isInside_iff.mp hi).left hw] at this
  have hmem : ⟨v.node, q⟩ ∈ s.schema.closure :=
    (follows_closure hg.pure hg.wellFormed).right (Json.mem_references_of_targetAt? hq)
  obtain ⟨ms, hms⟩ := id hv
  cases exists_last_none ms
  case inl hnone =>
    obtain ⟨hpath, _, hnode, _⟩ := eq_of_run?_of_steps hnone hms
    have hk := hg.mem_keys_of_isRecursive hmem (by rw [Edge.isRecursive, hplace]; exact hin)
    have := hkey hk
    rw [hpath, hnode] at this
    simp [start] at this
  case inr hlast =>
    obtain ⟨front, back, rfl, hnone⟩ := hlast
    rw [List.append_cons] at hms
    obtain ⟨u, hu, hrun⟩ := exists_run?_of_append hms
    obtain ⟨hpath, hplace', hnode, hused, hes, _⟩ := eq_of_run?_of_steps hnone hrun
    have hut : Toured s u := ⟨_, hu⟩
    have hun : u.node = u.place :=
      Pointer.append_left_inj.mp (hnode.symm.trans (hplace.trans hplace'))
    have husk : u.skips = false := by
      refine Bool.eq_false_iff.mpr fun hs => ?_
      have href := ((hut.accounted hg).skips hs).right.left
      cases back with
      | nil =>
        cases hrun
        simp [hsk] at hs
      | cons m rest =>
        obtain ⟨_, hm, _⟩ := Option.bind_eq_some_iff.mp hrun
        exact hnone (List.mem_cons.mpr (.inl ((isNone_of_move? hm).mpr (hun ▸ href)).symm))
    have hmemu : u.node ∈ v.used := by
      obtain ⟨a, _, ha⟩ := exists_move?_of_concat hu
      obtain ⟨_, _, _, rfl, _, hf, ht⟩ := jump?_eq_some ha
      have hask : a.skips = false := Bool.eq_false_iff.mpr fun hs => by simp [ht hs] at husk
      rw [hused, (hf hask).left]
      exact List.mem_append_right _ (self_mem_pointersOf s _)
    have hnq : u.node.isWithin q = false := Bool.eq_false_iff.mpr fun hw => hr ⟨q, hq, _, hmemu, hw⟩
    have hvq : v.node.isWithin q = true := hplace ▸ hin
    obtain ⟨inner, rfl⟩ : ∃ inner, q = u.node.append inner := by
      refine Pointer.isWithin_iff_exists.mp ?_
      have hvu : v.node.isWithin u.node = true := hnode ▸ Pointer.append_isWithin ..
      exact (Pointer.isWithin_total hvu hvq).resolve_left (by simp [hnq])
    have hout : steps back ≠ [] := by
      intro hn
      rw [hnode, hn, Pointer.append_nil] at hvq
      simp [hvq] at hnq
    have hinside : v.node.isInside (u.node.append inner) = true := by
      have hwalk := (hg.pure.isTarget_source hq).walkable hg.pure
      have htrail := trail_of_mem_references hg.pure hg.wellFormed
        (Json.mem_references_of_targetAt? hq) hwalk
      exact Pointer.isInside_iff.mpr ⟨hvq, Expansion.Source.ne_of_trail hg.pure htrail⟩
    have hkeyu {source : Pointer} (hk : source ∈ s.recursive.keys) : u.path.isWithin source = false := by
      refine Bool.eq_false_iff.mpr fun hw => ?_
      have := hkey hk
      simp [Pointer.isWithin_trans (hpath ▸ Pointer.append_isWithin ..) hw] at this
    have hedge : ⟨u.path, u.node⟩ ∈ s.schema.closure :=
      mem_closure_of_run? hg.pure hg.wellFormed hu (hes ▸ hd) fun e he hre =>
        hkeyu (hg.mem_keys_of_isRecursive he hre)
    rw [hnode] at hq hinside
    have hk := hg.mem_keys_of_seen hedge (fun _ => hkeyu) hq hinside hout
    have := hkey hk
    simp [hpath] at this

theorem Reached.shorten (hg : s.Gathered) (h : Reached s v) :
    ∃ w, Reached s w ∧ w.path = s.shorten v.path := by
  have hshort : s.Walkable (s.shorten v.path) ∧ Approachable s (s.shorten v.path) := by
    refine ReferenceMap.shorten_induct (p := v.path)
      (motive := fun p => s.Walkable p ∧ Approachable s p)
      (fun source target tokens hm _ hp => ?_) ⟨⟨v, h.toured, rfl⟩, h.approachable⟩
    have hsource := hp.left.of_isWithin (Pointer.append_isWithin source tokens)
    refine ⟨?_, hp.right.collapse hg hm hsource⟩
    obtain ⟨r, hr⟩ := (walkable_iff hg.pure).mp hp.left
    exact (walkable_iff hg.pure).mpr ⟨r, (hg.walks_of_mem_recursive hm hsource).mp hr⟩
  obtain ⟨hwalk, happ⟩ := hshort
  have hnormal : s.recursive.Normal (s.shorten v.path) := ReferenceMap.normal_shorten _ _ _
  generalize s.shorten v.path = p at hwalk happ hnormal
  obtain ⟨x, ⟨ms, hx⟩, rfl⟩ := id hwalk
  have hpath := path_of_run? hx
  cases List.eq_nil_or_concat (steps ms)
  case inl hn => exact ⟨start, ⟨[], rfl, clear_of_steps (by simp)⟩, by simp [hpath, hn]⟩
  case inr hn =>
    obtain ⟨init, last, hlast⟩ := hn
    have hlast : steps ms = init ++ [last] := by rw [hlast, List.concat_eq_append]
    obtain ⟨front, token, rest, u, rfl, hfront, htoken, hu⟩ := exists_run?_of_steps hx hlast (by simp)
    obtain ⟨rfl, hrest⟩ := List.cons_eq_cons.mp htoken
    rw [List.append_cons] at hx
    obtain ⟨w, hw, _⟩ := exists_run?_of_append hx
    have hwpath : w.path = x.path := by
      rw [path_of_run? hw, hpath, hlast, steps_append, hfront]
      rfl
    refine ⟨w, ⟨_, hw, fun ns v hns hv => ?_⟩, hwpath⟩
    have hns : ns ++ [none] <+: front := (List.prefix_concat_iff.mp hns).resolve_left fun he => by
      simpa using (List.append_inj' he rfl).right
    refine happ.not_blocked hg hnormal hwalk ⟨ns, hv⟩ ?_
    obtain ⟨back, rfl⟩ := hns
    refine Pointer.isInside_iff_exists.mpr ⟨steps back ++ [last], by simp, ?_⟩
    rw [hpath, hlast, path_of_run? hv, Pointer.append_append, ← hfront]
    simp [steps]

end JsonSchema.Visit
