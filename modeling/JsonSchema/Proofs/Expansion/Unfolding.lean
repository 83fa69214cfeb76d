import JsonSchema.Proofs.Expansion.Positions
import JsonSchema.Proofs.Expansion.Texts
import JsonSchema.Proofs.Expansion.WellFormed
import JsonSchema.Proofs.Json.Modify

namespace JsonSchema

open Expansion (Source leadsBack)
open Diagnosed (yields_pure)

-- What the expansion makes of the node that a tour is at.
inductive Expands (s : Source) : Visit → Json → Prop
  | follow {v w e}    : v.jump? s = some w → ¬ v.Blocked s → Expands s w e → Expands s v e
  | keep {v e}        : v.Blocked s → s.schema.get? v.node = some e → Expands s v e
  | build {v found e} : v.Settled s → s.schema.get? v.node = some found → e.outline = found.outline →
      (∀ token child w, e.step? token = some child → v.step? s token = some w → Expands s w child) →
      Expands s v e

namespace Expands

variable {s : Source} {v w : Visit} {e : Json}

theorem of_jump (h : Expands s v e) (hw : v.jump? s = some w) (hb : ¬ v.Blocked s) :
    Expands s w e := by
  obtain ⟨_, ht, _⟩ := Visit.jump?_eq_some hw
  cases h
  case follow hx _ h  => exact Option.some.inj (hx.symm.trans hw) ▸ h
  case keep hk _      => exact absurd hk hb
  case build hs _ _ _ => exact absurd (hs.symm.trans ht) (by simp)

theorem of_step {token : String} (h : Expands s v e) (hw : v.step? s token = some w) :
    ∃ child, e.step? token = some child ∧ Expands s w child := by
  obtain ⟨hn, hg, _⟩ := Visit.step?_eq_some hw
  cases h
  case follow hx _ _ =>
    obtain ⟨_, ht, _⟩ := Visit.jump?_eq_some hx
    exact absurd (hn.symm.trans ht) (by simp)
  case keep hk _ =>
    obtain ⟨_, _, ht, _⟩ := hk
    exact absurd (hn.symm.trans ht) (by simp)
  case build found _ hf ho hc =>
    rw [Json.get?_child, hf, Option.bind_some, ← Json.isSome_step?_of_outline_eq ho] at hg
    obtain ⟨child, hchild⟩ := Option.isSome_iff_exists.mp hg
    exact ⟨child, hchild, hc token child w hchild hw⟩

theorem of_blocked (h : Expands s v e) (hb : v.Blocked s) : s.schema.get? v.node = some e := by
  cases h
  case follow _ hn _ => exact absurd hb hn
  case keep _ hg     => exact hg
  case build hs _ _ _ =>
    obtain ⟨_, _, ht, _⟩ := hb
    exact absurd (hs.symm.trans ht) (by simp)

theorem of_settled (hp : s.schema.PureReferences) (h : Expands s v e) (hs : v.Settled s) :
    ∃ found, s.schema.get? v.node = some found ∧ e.outline = found.outline ∧ e.reference? = none := by
  cases h
  case follow hx _ _ =>
    obtain ⟨_, ht, _⟩ := Visit.jump?_eq_some hx
    exact absurd (hs.symm.trans ht) (by simp)
  case keep hk _ =>
    obtain ⟨_, _, ht, _⟩ := hk
    exact absurd (hs.symm.trans ht) (by simp)
  case build found _ hf ho _ =>
    refine ⟨found, hf, ho, ?_⟩
    have hstep : found.step? "$ref" = none := by
      cases found <;> try rfl
      case object fields =>
        cases hr : Fields.get? fields "$ref" with
        | none   => exact hr
        | some _ =>
          obtain ⟨text, target, _, rfl, hp, _⟩ :=
            hp.reference fields (Json.occurs_of_follow? hf) (by simp [Fields.contains, hr])
          rw [Visit.Settled, Json.targetAt?, hf] at hs
          simp [Json.reference?, Json.field?, Json.asObject?, Fields.get?, Json.asString?, hp] at hs
    have he := Json.isSome_step?_of_outline_eq ho "$ref"
    rw [hstep, Option.isSome_none, Option.isSome_eq_false_iff, Option.isNone_iff_eq_none] at he
    rw [Json.reference?_eq, he, Option.bind_none]

end Expands

theorem Visit.Reached.exists_expands {s : Source} {v : Visit} {e : Json} (h : Visit.Reached s v)
    (he : Expands s Visit.start e) : ∃ found, e.get? v.path = some found ∧ Expands s v found := by
  refine Visit.Reached.induct ?start ?move h
  case start => exact ⟨e, rfl, he⟩
  case move =>
    rintro v m w _ ⟨found, hf, hv⟩ hm hb
    cases m with
    | none =>
      obtain ⟨_, _, hp, _⟩ := Visit.jump?_eq_some hm
      exact ⟨found, hp ▸ hf, hv.of_jump hm (hb rfl)⟩
    | some token =>
      obtain ⟨child, hc, hw⟩ := hv.of_step hm
      obtain ⟨_, _, rfl⟩ := Visit.step?_eq_some hm
      exact ⟨child, by rw [Json.get?_child, hf]; exact hc, hw⟩

def Json.Lonely (j : Json) : Prop :=
  ∀ fields, (Json.object fields).Occurs j → Fields.contains fields "$ref" →
    ∃ text, fields = [("$ref", .string text)]

namespace Expansion

variable {s : Source} {options : Options} {used : List Pointer} {P : Prop}
  {expand : Pointer → Diagnosed (Option Json)}

-- What is rebuilt is what the expansion makes of each tour that is there.
def Rebuilds (s : Source) (used : List Pointer) (P : Prop) (place : Pointer) (j e : Json) : Prop :=
  P → ∀ v : Visit, v.used = used → v.place = place → s.schema.get? v.node = some j →
    (v.skips = true → v.Settled s) → Expands s v e

-- Targets are expanded as the tours that follow the references to them.
def Targets (s : Source) (used : List Pointer) (P : Prop)
    (expand : Pointer → Diagnosed (Option Json)) : Prop :=
  ∀ target, (expand target).Yields fun r => P → ∀ v w : Visit, v.used = used → v.skips = false →
    ¬ v.Blocked s → v.jump? s = some w → w.node = target → ∃ e, r = some e ∧ Expands s w e

theorem tidy_yields (hc : options.combineAllOf = false) (hr : options.relocateArrayRequired = false)
    {place : Pointer} {fields : Fields} {Q : Json → Prop} (h : Q (.object fields)) :
    (tidy options place fields).Yields Q := by
  simp only [tidy, hc, hr]
  exact yields_pure h

theorem rebuild_reference (hs : s.schema.PureReferences) (hc : options.combineAllOf = false)
    (hr : options.relocateArrayRequired = false) (hexp : Targets s used P expand) (text : String)
    (place : Pointer) :
    (rebuild options used expand (.object [("$ref", .string text)]) place).Yields
      (Rebuilds s used P place (.object [("$ref", .string text)])) := by
  have href {v : Visit} (hv : s.schema.get? v.node = some (.object [("$ref", .string text)])) :
      ∃ target, Pointer.parse? text = some target ∧ s.schema.targetAt? v.node = some target := by
    obtain ⟨_, target, _, hp, _⟩ := hs.object_eq hv (if_pos rfl)
    exact ⟨target, hp, by simp [Json.targetAt?, hv, Json.reference?, Json.field?, Json.asObject?, Fields.get?,
      Json.asString?, hp]⟩
  have hget : (Fields.get? [("$ref", Json.string text)] "$ref").bind Json.asString? = some text := by
    simp [Fields.get?, Json.asString?]
  simp only [rebuild, referenceOf, hget]
  cases hp : Pointer.parse? text with
  | none =>
    refine Diagnosed.Yields.bind (Diagnosed.yields_report _) fun _ _ => tidy_yields hc hr ?_
    intro _ v _ _ hv
    obtain ⟨_, hp', _⟩ := href hv
    simp [hp] at hp'
  | some target =>
    have hnode {v : Visit} (hv : s.schema.get? v.node = some (.object [("$ref", .string text)]))
        (hsk : v.skips = true → v.Settled s) :
        s.schema.targetAt? v.node = some target ∧ v.skips = false := by
      obtain ⟨other, hp', ht⟩ := href hv
      cases hp.symm.trans hp'
      refine ⟨ht, Bool.eq_false_iff.mpr fun hk => ?_⟩
      have := ht.symm.trans (hsk hk)
      simp at this
    by_cases hl : leadsBack used place target = true
    case pos =>
      simp only [hl, if_true]
      refine tidy_yields hc hr ?_
      rintro _ v rfl rfl hv hsk
      obtain ⟨ht, hskips⟩ := hnode hv hsk
      exact .keep ⟨hskips, target, ht, hl⟩ hv
    case neg =>
      simp only [hl]
      refine (hexp target).bind fun r hexp => ?_
      have hfollow (hP : P) {v : Visit} (hu : v.used = used) (hplace : v.place = place)
          (hv : s.schema.get? v.node = some (.object [("$ref", .string text)]))
          (hsk : v.skips = true → v.Settled s) : ∃ e, r = some e ∧ Expands s v e := by
        obtain ⟨ht, hskips⟩ := hnode hv hsk
        have hb : ¬ v.Blocked s := by
          rintro ⟨_, other, ho, hlb⟩
          cases ht.symm.trans ho
          exact hl (by rwa [hu, hplace] at hlb)
        obtain ⟨w, hw⟩ : ∃ w, v.jump? s = some w := by simp [Visit.jump?, ht]
        obtain ⟨other, ho, _, hn, _⟩ := Visit.jump?_eq_some hw
        cases ht.symm.trans ho
        obtain ⟨e, he, hexpands⟩ := hexp hP v w hu hskips hb hw hn
        exact ⟨e, he, .follow hw hb hexpands⟩
      cases r with
      | none =>
        refine Diagnosed.Yields.bind (Diagnosed.yields_report _) fun _ _ => yields_pure ?_
        intro hP v hu hplace hv hsk
        obtain ⟨_, he, _⟩ := hfollow hP hu hplace hv hsk
        cases he
      | some e =>
        refine yields_pure (a := e) ?_
        intro hP v hu hplace hv hsk
        obtain ⟨_, he, h⟩ := hfollow hP hu hplace hv hsk
        cases he
        exact h

theorem Rebuilds.step {place : Pointer} {i : Json} {token : String} {e : Json} {v w : Visit}
    (h : Rebuilds s used P (place.child token) i e) (hP : P) (hu : v.used = used)
    (hp : v.place = place) (hw : v.step? s token = some w)
    (hi : (s.schema.get? v.node).bind (·.step? token) = some i) : Expands s w e := by
  obtain ⟨_, _, rfl⟩ := Visit.step?_eq_some hw
  refine h hP _ hu (congrArg (·.child token) hp) ?_ (by simp)
  exact (Json.get?_child ..).trans hi

section MapPost

variable (hs : s.schema.PureReferences) (hc : options.combineAllOf = false)
  (hr : options.relocateArrayRequired = false) (hexp : Targets s used P expand)

include hs hc hr hexp

-- The induction is on the node, whose parts are rebuilt before it.
theorem mapPost_rebuilds {j : Json} (hl : j.Lonely) (place : Pointer) :
    (j.mapPost (rebuild options used expand) place).Yields (Rebuilds s used P place j) := by
  have hscalar {j : Json} {place : Pointer} (hn : j.reference? = none) (hstep : ∀ token, j.step? token = none) :
      Rebuilds s used P place j j := by
    intro _ v _ _ hv _
    refine .build (Json.targetAt?_of_reference?_eq_none hv hn) hv rfl ?_
    intro token child w hchild
    simp [hstep] at hchild
  induction j using Json.induct generalizing place
  case null     => exact yields_pure (hscalar rfl fun _ => rfl)
  case bool b   => exact yields_pure (hscalar rfl fun _ => rfl)
  case number n => exact yields_pure (hscalar rfl fun _ => rfl)
  case string t => exact yields_pure (hscalar rfl fun _ => rfl)
  case array items ih =>
    have hl (j : Json) (hj : j ∈ items) : j.Lonely := fun fields ho => hl fields (.item hj ho)
    refine (Json.mapPostItems_yields fun j hj => ih j hj (hl j hj)).bind fun mapped hm => ?_
    refine yields_pure ?_
    intro hP v hu hp hv _
    refine .build (Json.targetAt?_of_reference?_eq_none hv rfl) hv ?outline ?children
    case outline => simp [Json.outline, List.map_const', hm.length]
    case children =>
      intro token child w hchild hw
      obtain ⟨i, rfl, hi⟩ := Json.step?_array_eq_some hchild
      have hg := (Visit.step?_eq_some hw).right.left
      rw [Json.get?_child, hv, Option.bind_some] at hg
      obtain ⟨item, hitem⟩ := Option.isSome_iff_exists.mp hg
      obtain ⟨k, hk, hki⟩ := Json.step?_array_eq_some hitem
      cases Pointer.ofIndex_injective hk
      obtain ⟨j, hj, hrebuilds⟩ := hm.item hi
      cases hki.symm.trans hj
      rw [Nat.zero_add] at hrebuilds
      exact hrebuilds.step hP hu hp hw (by rw [hv]; exact hitem)
  case object fields ih =>
    by_cases hcon : Fields.contains fields "$ref" = true
    case pos =>
      obtain ⟨text, rfl⟩ := hl fields .self hcon
      have hmap : (Json.mapPostFields (rebuild options used expand) place
          [("$ref", .string text)]).Yields (· = [("$ref", .string text)]) := ⟨_, rfl, rfl⟩
      exact hmap.bind fun mapped hm => hm ▸ rebuild_reference hs hc hr hexp text place
    case neg =>
      have hl (key : String) (j : Json) (hj : (key, j) ∈ fields) : j.Lonely :=
        fun fields ho => hl fields (.field hj ho)
      refine (Json.mapPostFields_yields fun key j hj => ih key j hj (hl key j hj)).bind fun mapped hm => ?_
      have hnone {fields : Fields} (hk : "$ref" ∉ Fields.keys fields) : Fields.get? fields "$ref" = none :=
        Fields.get?_eq_none_iff.mpr hk
      have hfields : "$ref" ∉ Fields.keys fields := fun hk => hcon (Fields.get?_isSome_iff.mpr hk)
      simp only [rebuild, referenceOf, hnone (hm.keys ▸ hfields), Option.bind_none]
      refine tidy_yields hc hr ?_
      intro hP v hu hp hv _
      have hself : v.Settled s :=
        Json.targetAt?_of_reference?_eq_none hv (by simp [Json.reference?, Json.field?, Json.asObject?, hnone hfields])
      refine .build hself hv ?outline ?children
      case outline =>
        have := congrArg (List.map fun k => (k, Json.null)) hm.keys
        simpa [Json.outline, Fields.keys, Function.comp_def] using this
      case children =>
        intro token child w hchild hw
        have hg := (Visit.step?_eq_some hw).right.left
        rw [Json.get?_child, hv, Option.bind_some] at hg
        obtain ⟨j, hj⟩ := Option.isSome_iff_exists.mp hg
        obtain ⟨i, hi, hrebuilds⟩ := hm.get? hchild
        cases hj.symm.trans hi
        exact hrebuilds.step hP hu hp hw (by rw [hv]; exact hj)

end MapPost

-- The targets that are being expanded are different strings of the schema, and there are fewer others left
-- than there is fuel.
def Fueled (s : Source) (depth : Nat) (used : List Pointer) : Prop :=
  ∃ targets : List Pointer, targets.Nodup ∧ targets ⊆ pointersIn s.schema ∧ targets ⊆ used ∧
    (pointersIn s.schema).length < targets.length + depth

theorem not_fueled_zero : ¬ Fueled s 0 used := by
  rintro ⟨targets, hd, hp, _, hl⟩
  have := hd.length_le_of_subset hp
  omega

theorem Fueled.next {depth : Nat} {target : Pointer} (h : Fueled s (depth + 1) used)
    (hp : target ∈ pointersIn s.schema) (hn : target ∉ used) :
    Fueled s depth (used ++ s.pointersOf target) := by
  obtain ⟨targets, hd, hsub, hused, hl⟩ := h
  refine ⟨target :: targets, List.nodup_cons.mpr ⟨fun hm => hn (hused hm), hd⟩,
    List.cons_subset.mpr ⟨hp, hsub⟩, List.cons_subset.mpr ⟨?_, ?_⟩, ?_⟩
  case refine_1 => exact List.mem_append_right _ (Visit.self_mem_pointersOf s target)
  case refine_2 => exact fun p hp => List.mem_append_left _ (hused hp)
  case refine_3 =>
    simp only [List.length_cons]
    omega

theorem target_mem_pointersIn (hs : s.schema.PureReferences) {p target : Pointer}
    (ht : s.schema.targetAt? p = some target) : target ∈ pointersIn s.schema := by
  obtain ⟨⟨text, hg, hp⟩, _⟩ := hs.of_targetAt? ht
  have ho : (Json.string text).Occurs s.schema :=
    .trans (.field (List.mem_singleton.mpr rfl) .self) (Json.occurs_of_follow? hg)
  exact mem_pointersIn_of_occurs ho hp

-- From a target with a shorter pointer the expansion goes on to where references lead.
theorem expands_of_skips {w : Visit} {q : Pointer} {e : Json} (hset : s.schema.Settles w.node q)
    (hsk : w.skips = true)
    (h : ∀ v : Visit, v.used = w.used → v.place = w.place → v.node = q → Expands s v e) :
    Expands s w e := by
  generalize hp : w.node = p at hset
  induction hset generalizing w with
  | here => exact h w rfl rfl hp
  | jump ht _ ih =>
    subst hp
    obtain ⟨x, hx⟩ : ∃ x, w.jump? s = some x := by simp [Visit.jump?, ht]
    obtain ⟨target, ht', _, hn, _, _, hs⟩ := Visit.jump?_eq_some hx
    obtain ⟨hu, hplace, hxs⟩ := hs hsk
    refine .follow hx (fun hb => by simpa [hsk] using hb.left) (ih hxs (fun v hv hv' => ?_) ?_)
    case refine_1 => exact h v (hv.trans hu) (hv'.trans hplace)
    case refine_2 => exact hn.trans (Option.some.inj (ht'.symm.trans ht))

section Along

variable (hg : s.Gathered) (hc : options.combineAllOf = false)
  (hr : options.relocateArrayRequired = false)

include hg

theorem lonely_of_find? {target : Pointer} {j : Json} (h : s.find? target = some j) : j.Lonely := by
  have hsub {p : Pointer} (hp : s.schema.get? p = some j) : j.Lonely := by
    intro fields ho hcon
    obtain ⟨text, _, _, he, _⟩ :=
      hg.pure.reference fields (ho.trans (Json.occurs_of_follow? hp)) hcon
    exact ⟨text, he⟩
  obtain ⟨_, hp⟩ | ⟨_, hl⟩ := Source.find?_cases h
  case inl => exact hsub hp
  case inr => exact hsub (ReferenceGraph.get?_library (hg.library ▸ hl))

include hc hr

theorem expandAlong_rebuilds {depth : Nat} {target : Pointer} {j : Json}
    (hexp : ∀ used, Targets s used (Fueled s depth used) (expandAlong s options depth used))
    (hf : s.find? target = some j) :
    (expandAlong s options (depth + 1) used target).Yields fun r => ∃ e, r = some e ∧
      Rebuilds s (used ++ s.pointersOf target) (Fueled s depth (used ++ s.pointersOf target))
        target j e := by
  simp only [expandAlong, hf]
  refine (mapPost_rebuilds hg.pure hc hr (hexp _) (lonely_of_find? hg hf) target).bind fun e he => ?_
  exact yields_pure ⟨e, rfl, he⟩

-- The induction is on the fuel. A target that is expanded is not among those that are being expanded.
theorem expandAlong_targets (depth : Nat) (used : List Pointer) :
    Targets s used (Fueled s depth used) (expandAlong s options depth used) := by
  induction depth generalizing used with
  | zero => exact fun _ => yields_pure fun h => absurd h not_fueled_zero
  | succ depth ih =>
    intro target
    cases hf : s.find? target with
    | none =>
      simp only [expandAlong, hf]
      refine yields_pure fun _ v w _ _ _ hw hn => ?_
      obtain ⟨_, ht, _, rfl, _⟩ := Visit.jump?_eq_some hw
      subst hn
      have hsome : (s.schema.get? (s.shorten w.node)).isSome := by
        have htarget := hg.pure.isTarget ht
        cases hg.shorten_of_isTarget htarget
        case inl he => exact he.symm ▸ htarget.isSome_get?
        case inr hs => exact hs.right.left.self.isSome_get?
      simp [← hg.find?_of_targetAt? ht, hf] at hsome
    | some j =>
      obtain ⟨r, hr, e, rfl, hrebuilds⟩ := expandAlong_rebuilds hg hc hr ih hf
      refine ⟨_, hr, fun hfuel v w hu hsk hb hw hn => ⟨e, rfl, ?_⟩⟩
      obtain ⟨_, ht, _, rfl, _, hfalse, _⟩ := Visit.jump?_eq_some hw
      obtain ⟨hwu, hwp, hskips⟩ := hfalse hsk
      subst hn
      subst hu
      have hnew : w.node ∉ v.used := by
        intro hm
        refine hb ⟨hsk, w.node, ht, ?_⟩
        simp only [leadsBack, Bool.or_eq_true, List.any_eq_true]
        exact .inr ⟨w.node, hm, Pointer.isWithin_refl _⟩
      have hfuel := hfuel.next (target_mem_pointersIn hg.pure ht) hnew
      rw [hg.find?_of_targetAt? ht] at hf
      by_cases hs : s.shorten w.node = w.node
      case pos =>
        exact hrebuilds hfuel w hwu hwp (hs ▸ hf) fun h => absurd hs (hskips.mp h)
      case neg =>
        obtain ⟨_, hset, _⟩ := (hg.shorten_of_isTarget (hg.pure.isTarget ht)).resolve_left hs
        refine expands_of_skips hset (hskips.mpr hs) fun x hxu hxp hxn => ?_
        refine hrebuilds hfuel x (hxu.trans hwu) (hxp.trans hwp) (hxn ▸ hf) fun _ => ?_
        rw [Visit.Settled, hxn]
        exact hset.targetAt?_eq_none

theorem expand_root_expands :
    (Expansion.expand s options .root).Yields fun r => ∃ e, r = some e ∧ Expands s Visit.start e := by
  have hfind : s.find? .root = some s.schema := rfl
  obtain ⟨r, hr, e, rfl, hrebuilds⟩ := expandAlong_rebuilds hg hc hr
    (expandAlong_targets hg hc hr _) hfind
  refine ⟨_, hr, e, rfl, hrebuilds ⟨[], List.nodup_nil, by simp, by simp, ?_⟩ Visit.start rfl rfl rfl ?_⟩
  case refine_1 =>
    simp only [List.length_nil]
    omega
  case refine_2 => simp [Visit.start]

end Along

end Expansion

end JsonSchema
