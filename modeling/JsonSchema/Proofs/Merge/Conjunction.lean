import JsonSchema.Expansion
import JsonSchema.Proofs.Merge.Nodes

namespace JsonSchema.Merge

open Validator

variable {merge : List Json → Option Json}

section ListNothing

variable {node : Fields}

theorem get?_listNothing {keyword : String} (h : keyword ≠ "properties") :
    Fields.get? (listNothing node) keyword = Fields.get? node keyword := by
  unfold listNothing
  split
  case isTrue  => rfl
  case isFalse => rw [Fields.get?_insert, if_neg h.symm]

theorem get?_properties_listNothing :
    Fields.get? (listNothing node) "properties" =
      some ((Fields.get? node "properties").getD (.object [])) := by
  unfold listNothing
  split
  case isTrue h =>
    obtain ⟨value, hv⟩ := Option.isSome_iff_exists.mp h
    rw [hv, Option.getD_some]
  case isFalse h =>
    have hn : Fields.get? node "properties" = none := by simpa [Fields.contains] using h
    rw [Fields.get?_insert, if_pos rfl, hn, Option.getD_none]

theorem listed_listNothing : listed (listNothing node) = listed node := by
  unfold listed
  rw [get?_properties_listNothing]
  cases Fields.get? node "properties" <;> rfl

theorem core_listNothing (h : Core (.object node)) : Core (.object (listNothing node)) := by
  refine .object fun keyword value hm => ?_
  unfold listNothing at hm
  split at hm
  case isTrue  => exact h.keyword hm
  case isFalse =>
    cases Fields.mem_insert hm
    case inl hm => cases hm; exact .properties (by simp)
    case inr hm => exact h.keyword hm

theorem accepts_listNothing (hc : Core (.object node)) (hw : (Json.object node).WellFormed) {j : Json}
    (hj : j.Instance) : Accepts (.object (listNothing node)) j ↔ Accepts (.object node) j := by
  have ha : Fields.get? (listNothing node) "additionalProperties" =
      Fields.get? node "additionalProperties" := get?_listNothing (by decide)
  have hg : Governs (listNothing node) j ↔ Governs node j := by
    simp only [Governs, governing?, listed_listNothing, ha]
  rw [accepts_object (core_listNothing hc) (wellFormed_listNothing hw) hj, accepts_object hc hw hj, hg]
  refine and_congr_left fun _ => ?_
  refine forall_congr' fun keyword => forall_congr' fun hp => ?_
  rw [get?_listNothing hp]

end ListNothing

-- A schema that restricts properties it does not list is given an empty list of properties before it is
-- merged with one that lists some.
def primed (node other : Fields) : Fields :=
  if Fields.contains other "properties" && limitsOthers (Fields.get? node "additionalProperties") then
    listNothing node
  else node

theorem mergeObject?_eq {merged : Merged} {schema : Fields} :
    mergeObject? merge merged schema =
      mergeFieldList? merge (Fields.get? merged.fields "additionalProperties")
        (Fields.get? schema "additionalProperties")
        { merged with fields := primed merged.fields schema } (primed schema merged.fields) := by
  cases hs : Fields.contains schema "properties"
  case false => simp [mergeObject?, primed, hs, Bool.and_comm]
  case true =>
    have hn : listNothing schema = schema := by simp [listNothing, hs]
    cases hl : limitsOthers (Fields.get? merged.fields "additionalProperties") <;>
      simp [mergeObject?, primed, hs, hn, hl]

section Primed

variable {node other : Fields}

theorem get?_primed {keyword : String} (hk : keyword = "properties" →
    Fields.contains node "properties" = false →
      limitsOthers (Fields.get? node "additionalProperties") = false) :
    Fields.get? (primed node other) keyword = Fields.get? node keyword := by
  unfold primed listNothing
  split
  case isFalse   => rfl
  case isTrue hl =>
    split
    case isTrue     => rfl
    case isFalse hn =>
      rw [Fields.get?_insert, if_neg]
      rintro rfl
      simp [hk rfl (by simpa using hn)] at hl

theorem of_contains_primed (hc : Fields.contains (primed node other) "properties" = true) :
    Fields.contains node "properties" = true ∨ Fields.contains other "properties" = true := by
  unfold primed at hc
  split at hc
  case isFalse   => exact .inl hc
  case isTrue hl => exact .inr (Bool.and_eq_true_iff.mp hl).left

theorem contains_primed (hc : Fields.contains node "properties" = true) :
    Fields.contains (primed node other) "properties" = true := by
  unfold primed
  split
  case isFalse => exact hc
  case isTrue  => simp [listNothing, hc]

theorem limitsOthers_primed (hn : Fields.get? (primed node other) "properties" = none)
    (ho : Fields.get? (primed other node) "properties" ≠ none) :
    limitsOthers (Fields.get? (primed node other) "additionalProperties") = false := by
  have ho : Fields.contains other "properties" = true := by
    cases of_contains_primed (Option.isSome_iff_ne_none.mpr ho)
    case inl h => exact h
    case inr h => simp [Option.isSome_iff_ne_none.mp (contains_primed h)] at hn
  unfold primed at hn ⊢
  split at hn
  case isTrue     => simp [get?_properties_listNothing] at hn
  case isFalse hl =>
    rw [if_neg hl]
    simpa [ho] using hl

theorem wellFormed_primed (other : Fields) (h : (Json.object node).WellFormed) :
    (Json.object (primed node other)).WellFormed := by
  unfold primed
  split
  case isTrue  => exact wellFormed_listNothing h
  case isFalse => exact h

theorem core_primed (other : Fields) (h : Core (.object node)) :
    Core (.object (primed node other)) := by
  unfold primed
  split
  case isTrue  => exact core_listNothing h
  case isFalse => exact h

theorem accepts_primed (other : Fields) (hc : Core (.object node))
    (hw : (Json.object node).WellFormed) {j : Json} (hj : j.Instance) :
    Accepts (.object (primed node other)) j ↔ Accepts (.object node) j := by
  unfold primed
  split
  case isTrue  => exact accepts_listNothing hc hw hj
  case isFalse => exact .rfl

end Primed

-- The keywords merged so far are those of a core schema, and nothing of it has been left out.
structure Merged.Sound (merged : Merged) : Prop where
  core       : Core (.object merged.fields)
  wellFormed : (Json.object merged.fields).WellFormed
  dropped    : ∀ keyword ∈ merged.dropped, keyword ∉ readKeywords

theorem Merged.Sound.primed {merged : Merged} (h : merged.Sound) (other : Fields) :
    Merged.Sound { merged with fields := Merge.primed merged.fields other } :=
  ⟨core_primed other h.core, wellFormed_primed other h.wellFormed, h.dropped⟩

theorem Conjoins.mergeFieldList? (hm : Conjoins merge) (hp : Preserves merge) {merged result : Merged}
    {schema : Fields} (hs : merged.Sound)
    (hc : Core (.object schema) ∧ (Json.object schema).WellFormed)
    (hnl : Fields.get? merged.fields "properties" = none → Fields.get? schema "properties" ≠ none →
      limitsOthers (Fields.get? merged.fields "additionalProperties") = false)
    (hnr : Fields.get? schema "properties" = none → Fields.get? merged.fields "properties" ≠ none →
      limitsOthers (Fields.get? schema "additionalProperties") = false)
    (h : Merge.mergeFieldList? merge (Fields.get? merged.fields "additionalProperties")
      (Fields.get? schema "additionalProperties") merged schema = some result) :
    result.Sound ∧ ∀ j, j.Instance → (Accepts (.object result.fields) j ↔
      Accepts (.object merged.fields) j ∧ Accepts (.object schema) j) := by
  have ⟨hu, hd⟩ := updates_mergeFieldList? hs.dropped h
  have hw : (Json.object result.fields).WellFormed :=
    hp.mergeFieldList? (fun _ => hs.wellFormed.get?) (fun _ => hc.right.get?) hs.wellFormed
      (Json.wellFormed_object.mp hc.right).right h
  have ⟨hr, ha⟩ := standsFor_merged hm ⟨hs.core, hs.wellFormed⟩ hc hu hp hw hnl hnr
  exact ⟨⟨hr, hw, hd⟩, ha⟩

theorem Conjoins.mergeObject? (hm : Conjoins merge) (hp : Preserves merge) {merged result : Merged}
    {schema : Fields} (hs : merged.Sound)
    (hc : Core (.object schema) ∧ (Json.object schema).WellFormed)
    (h : Merge.mergeObject? merge merged schema = some result) :
    result.Sound ∧ ∀ j, j.Instance → (Accepts (.object result.fields) j ↔
      Accepts (.object merged.fields) j ∧ Accepts (.object schema) j) := by
  have ha node other : Fields.get? (primed node other) "additionalProperties" =
      Fields.get? node "additionalProperties" := get?_primed fun hk => absurd hk (by decide)
  rw [mergeObject?_eq, ← ha merged.fields schema, ← ha schema merged.fields] at h
  obtain ⟨hr, hj⟩ := hm.mergeFieldList? hp (hs.primed schema)
    ⟨core_primed merged.fields hc.left, wellFormed_primed merged.fields hc.right⟩ limitsOthers_primed
    limitsOthers_primed h
  refine ⟨hr, fun j hi => ?_⟩
  rw [hj j hi, accepts_primed schema hs.core hs.wellFormed hi, accepts_primed merged.fields hc.left hc.right hi]

theorem Conjoins.mergeObjects? (hm : Conjoins merge) (hp : Preserves merge) {merged result : Merged}
    {objects : List Fields} (hs : merged.Sound)
    (ho : ∀ schema ∈ objects, Core (.object schema) ∧ (Json.object schema).WellFormed)
    (h : Merge.mergeObjects? merge merged objects = some result) :
    result.Sound ∧ ∀ j, j.Instance → (Accepts (.object result.fields) j ↔
      Accepts (.object merged.fields) j ∧ ∀ schema ∈ objects, Accepts (.object schema) j) := by
  induction objects generalizing merged with
  | nil =>
    cases h
    exact ⟨hs, fun j _ => by simp⟩
  | cons schema rest ih =>
    obtain ⟨next, hn, h⟩ := Option.bind_eq_some_iff.mp h
    have ⟨hc, hr⟩ := List.forall_mem_cons.mp ho
    have ⟨hsn, han⟩ := hm.mergeObject? hp hs hc hn
    have ⟨hsr, har⟩ := ih hsn hr h
    refine ⟨hsr, fun j hj => ?_⟩
    rw [har j hj, han j hj, List.forall_mem_cons, and_assoc]

theorem conjoins_mergeLevels? (levels : Nat) : Conjoins (mergeLevels? levels) := by
  induction levels with
  | zero => simp [Conjoins, mergeLevels?]
  | succ levels ih =>
    intro schemas merged hs h
    have hsub : ∀ s ∈ substantial schemas, Core s ∧ s.WellFormed := fun s hm =>
      hs s (mem_of_mem_substantial hm)
    simp only [mergeLevels?] at h
    split at h
    case h_1 hl =>
      cases h
      refine ⟨.object (by simp), fun _ => ⟨[], rfl⟩, fun j hj => ?_⟩
      rw [← forall_substantial hj, hl]
      exact iff_of_true (accepts_of_isIdentity hj rfl) (by simp)
    case h_2 single hl =>
      cases h
      have hmem : merged ∈ substantial schemas := by simp [hl]
      refine ⟨(hsub _ hmem).left, fun ho => ho _ (mem_of_mem_substantial hmem), fun j hj => ?_⟩
      rw [← forall_substantial hj, hl]
      simp
    case h_3 =>
      simp only [Option.bind_eq_bind, Option.bind_eq_some_iff, Option.some.injEq] at h
      obtain ⟨objects, ho, result, hr, rfl⟩ := h
      have hobj := eq_map_of_mapM_asObject? ho
      have hempty : Merged.Sound ⟨[], []⟩ := ⟨.object (by simp), Json.wellFormed_empty, by simp⟩
      have hc : ∀ fields ∈ objects, Core (.object fields) ∧ (Json.object fields).WellFormed :=
        fun fields hf => hsub _ (mem_of_mem_mapM_asObject? ho hf)
      obtain ⟨hs, ha⟩ := ih.mergeObjects? (preserves_mergeLevels? levels) hempty hc hr
      refine ⟨hs.core, fun _ => ⟨_, rfl⟩, fun j hj => ?_⟩
      rw [ha j hj, ← forall_substantial hj, hobj]
      simp [accepts_of_isIdentity hj (s := .object []) rfl]

theorem conjoins_tryMerge? : Conjoins tryMerge? :=
  fun schemas => conjoins_mergeLevels? (levelBound schemas) schemas

theorem standsFor_mergeAll {schemas : List Json} (h : ∀ s ∈ schemas, Core s ∧ s.WellFormed) :
    StandsFor (mergeAll schemas) schemas :=
  conjoins_tryMerge?.conjoin h

theorem accepts_erase_allOf {node : Fields} {members : List Json} (hc : Core (.object node))
    (hw : (Json.object node).WellFormed) (hm : Fields.get? node "allOf" = some (.array members))
    {j : Json} (hj : j.Instance) :
    Accepts (.object node) j ↔
      (∀ s ∈ members, Accepts s j) ∧ Accepts (.object (Fields.erase "allOf" node)) j := by
  have he {keyword} (h : keyword ≠ "allOf") :
      Fields.get? (Fields.erase "allOf" node) keyword = Fields.get? node keyword := by
    rw [Fields.get?_erase, if_neg h.symm]
  have hce : Core (.object (Fields.erase "allOf" node)) :=
    .object fun keyword value hv => hc.keyword (List.mem_filter.mp hv).left
  have hg : Governs (Fields.erase "allOf" node) j ↔ Governs node j := by
    have hp := he (show "properties" ≠ "allOf" by decide)
    have ha := he (show "additionalProperties" ≠ "allOf" by decide)
    simp only [Governs, governing?, listed, hp, ha]
  rw [accepts_object hc hw hj, accepts_object hce hw.erase hj, hg, ← and_assoc]
  refine and_congr_left fun _ => ?_
  constructor
  case mp =>
    intro h
    refine ⟨demands_allOf.mp (h "allOf" (by decide) (by decide) _ hm), fun keyword hp ha v hv => ?_⟩
    rw [Fields.get?_erase] at hv
    split at hv
    case isTrue  => simp at hv
    case isFalse => exact h keyword hp ha v hv
  case mpr =>
    rintro ⟨hall, h⟩ keyword hp ha v hv
    by_cases hk : keyword = "allOf"
    case pos =>
      subst hk
      cases hm.symm.trans hv
      exact demands_allOf.mpr hall
    case neg => exact h keyword hp ha v (he hk ▸ hv)

theorem accepts_combineAllOf {s : Json} (hc : Core s) (hw : s.WellFormed) {j : Json}
    (hj : j.Instance) : Accepts (Expansion.combineAllOf s) j ↔ Accepts s j := by
  unfold Expansion.combineAllOf
  split
  case h_2 => exact .rfl
  case h_1 node =>
    split
    case h_2 => exact .rfl
    case h_1 members hm =>
      have hcm : ∀ s ∈ members, Core s ∧ s.WellFormed := by
        obtain ⟨_, he, hs⟩ := (hc.keyword (Fields.mem_of_get? hm)).forms.allOf rfl
        cases he
        exact fun s h => ⟨hs s h, Json.wellFormed_array.mp (hw.get? hm) s h⟩
      have hcr : Core (.object (Fields.erase "allOf" node)) :=
        .object fun keyword value hv => hc.keyword (List.mem_filter.mp hv).left
      have hempty : Accepts (.object []) j := accepts_of_isIdentity hj rfl
      cases hf : Expansion.foldAllOf? node members with
      | none        => rfl
      | some folded =>
        rw [Option.getD_some, accepts_erase_allOf hc hw hm hj]
        simp only [Expansion.foldAllOf?] at hf
        split at hf
        case isTrue hr =>
          rw [List.append_nil] at hf
          rw [(conjoins_tryMerge? _ _ hcm hf).accepts j hj, List.isEmpty_iff.mp hr]
          simp [hempty]
        case isFalse =>
          have hs := conjoins_tryMerge? _ _ (by simpa [or_imp, forall_and, hcr, hw.erase] using hcm) hf
          rw [hs.accepts j hj, List.forall_mem_append]
          simp

-- Merging is conjunction: on a document without empty parts, the merged schema has the verdict of all
-- the given schemas together, and a schema keeps its verdict when its `allOf` is folded into it.
theorem isValid_mergeAll_iff {schemas : List Json} {s j : Json}
    (hm : ∀ t ∈ schemas, Core t ∧ t.WellFormed) (hs : Core s ∧ s.WellFormed) (hj : j.Instance) :
    ((ofSchema (mergeAll schemas)).isValid j = true ↔
        ∀ t ∈ schemas, (ofSchema t).isValid j = true) ∧
      (ofSchema (Expansion.combineAllOf s)).isValid j = (ofSchema s).isValid j := by
  constructor
  case left =>
    simp only [isValid_iff]
    exact (standsFor_mergeAll hm).accepts j hj
  case right =>
    rw [Bool.eq_iff_iff, isValid_iff, isValid_iff]
    exact accepts_combineAllOf hs.left hs.right hj

theorem isValid_mergeAll_lengths :
    let short := Json.object [("maxLength", .ofNat 3)]
    let other := Json.object [("maxLength", .ofNat 5), ("not", .object [("const", .string "x")])]
    let both  := Json.object [("allOf", .array [short, other])]
    ((ofSchema (mergeAll [short, other])).isValid (.string "abc") = true ↔
        ∀ t ∈ [short, other], (ofSchema t).isValid (.string "abc") = true) ∧
      (ofSchema (Expansion.combineAllOf both)).isValid (.string "abc") =
        (ofSchema both).isValid (.string "abc") := by
  intro short other both
  have hlimit {n} (h : n ≤ Binary64.exactLimit) : CoreKeyword Core "maxLength" (.ofNat n) :=
    .limit (by decide) h
  have hconst : Core (.object [("const", .string "x")]) := by
    refine .object fun keyword value hm => ?_
    cases List.mem_singleton.mp hm
    exact .const _
  have hshort : Core short ∧ short.WellFormed := by
    refine ⟨.object fun keyword value hm => ?_, by decide⟩
    cases List.mem_singleton.mp hm
    exact hlimit (by decide)
  have hother : Core other ∧ other.WellFormed := by
    refine ⟨.object fun keyword value hm => ?_, by decide⟩
    simp only [List.mem_cons, List.not_mem_nil, or_false, Prod.mk.injEq] at hm
    rcases hm with ⟨rfl, rfl⟩ | ⟨rfl, rfl⟩
    case inl => exact hlimit (by decide)
    case inr => exact .not hconst
  have hmem : ∀ t ∈ [short, other], Core t ∧ t.WellFormed := by simp [hshort, hother]
  have hboth : Core both ∧ both.WellFormed :=
    ⟨core_allOf fun t ht => (hmem t ht).left, by decide⟩
  exact isValid_mergeAll_iff hmem hboth ⟨.string (by decide), by decide⟩

end JsonSchema.Merge
