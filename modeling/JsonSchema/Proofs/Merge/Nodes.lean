import JsonSchema.Proofs.Merge.Properties

namespace JsonSchema.Merge

open Validator

def Outcome.kept? : Outcome → Option Json
  | keep value => some value
  | _          => none

theorem Outcome.Ensures.of_kept? {P : Json → Prop} {outcome : Outcome} {value : Json}
    (h : outcome.Ensures P) (hk : outcome.kept? = some value) : P value := by
  cases outcome <;> simp [Outcome.kept?] at hk
  case keep => exact hk ▸ h

theorem Outcome.kept?_ofOption (value : Option Json) : (ofOption value).kept? = value := by
  cases value <;> rfl

-- What becomes of a keyword. Keywords of which validators take no notice may be left out.
def MergedTo (merge : List Json → Option Json) (earlier later : Option Json) (keyword : String)
    (current : Option Json) (value : Json) (merged : Option Json) : Prop :=
  keyword ∈ readKeywords →
    United (fun current value => (mergeValues merge earlier later keyword current value).kept?)
      keyword current value merged

variable {merge : List Json → Option Json}

theorem updates_mergeFieldList? {earlier later : Option Json} {merged result : Merged}
    {schema : Fields} (hd : ∀ keyword ∈ merged.dropped, keyword ∉ readKeywords)
    (h : mergeFieldList? merge earlier later merged schema = some result) :
    Fields.Updates (MergedTo merge earlier later) merged.fields schema result.fields ∧
      ∀ keyword ∈ result.dropped, keyword ∉ readKeywords := by
  induction schema generalizing merged with
  | nil =>
    cases h
    exact ⟨.nil, hd⟩
  | cons field rest ih =>
    obtain ⟨keyword, value⟩ := field
    obtain ⟨next, hn, h⟩ := Option.bind_eq_some_iff.mp h
    unfold mergeField? at hn
    split at hn
    case isTrue hm =>
      cases hn
      obtain ⟨hu, hr⟩ := ih (by exact hd) h
      exact ⟨.keep (fun hk => absurd hk (hd keyword hm)) hu, hr⟩
    case isFalse =>
      split at hn
      case h_1 hf =>
        cases hn
        obtain ⟨hu, hr⟩ := ih (by exact hd) h
        exact ⟨.insert (fun _ => by simp [hf, United]) hu, hr⟩
      case h_2 current hf =>
        split at hn
        case isTrue hs =>
          cases hn
          obtain ⟨hu, hr⟩ := ih (by exact hd) h
          exact ⟨.keep (fun _ => by simp [hf, United, hs]) hu, hr⟩
        case isFalse hs =>
          split at hn <;> cases hn
          case h_1 combined ho =>
            obtain ⟨hu, hr⟩ := ih (by exact hd) h
            exact ⟨.insert (fun _ => by simp [hf, United, hs, ho, Outcome.kept?]) hu, hr⟩
          case h_2 ho =>
            have hk : keyword ∉ readKeywords := fun hk => mergeValues_ne_drop hk current value ho
            obtain ⟨hu, hr⟩ := ih (by simpa [hk] using hd) h
            exact ⟨.erase (fun h => absurd h hk) hu, hr⟩

theorem exists_addProperties? {earlier later : Option Json} {current value combined : Json}
    (h : (mergeValues merge earlier later "properties" current value).kept? = some combined) :
    ∃ existing added result, current = .object existing ∧ value = .object added ∧
      combined = .object result ∧
      addProperties? merge earlier (restrictListed merge later added existing) added = some result := by
  have h : (mergeProperties merge earlier later current value).kept? = some combined := h
  unfold mergeProperties at h
  split at h
  case h_2 => simp [Outcome.kept?] at h
  case h_1 =>
    simp only [Outcome.kept?_ofOption, Option.map_eq_some_iff] at h
    obtain ⟨result, hr, rfl⟩ := h
    exact ⟨_, _, result, rfl, rfl, rfl, hr⟩

structure Fits (Fit : Json → Prop) (node : Fields) : Prop where
  listed : ∀ name, ∀ s ∈ Fields.get? (listed node) name, Fit s
  others : ∀ s ∈ Fields.get? node "additionalProperties", Fit s

section Combines

variable {Fit : Json → Prop} {J : (left right merged : Option Json) → Prop}
variable {left right merged : Fields} (hc : Combines merge Fit J)

include hc

-- A side that lists no properties and refuses none leaves those of the other side as they are.
theorem Combines.alone {schemas : Fields} {name : String} {additional other others : Option Json}
    (hs : ∀ s ∈ Fields.get? schemas name, Fit s) (ho : ∀ s ∈ other, Fit s)
    (hn : schemas ≠ [] → limitsOthers other = false) (h : J additional other others) :
    J ((Fields.get? schemas name).or additional) ((Fields.get? [] name).or other)
      ((Fields.get? schemas name).or others) := by
  cases hg : Fields.get? schemas name with
  | none   => exact h
  | some s =>
    refine hc.free (hs s hg) ho (hn ?_)
    rintro rfl
    simp [Fields.get?] at hg

theorem Combines.alike {existing added : Fields} {earlier later others : Option Json}
    {name : String} (hex : ∀ s ∈ Fields.get? existing name, Fit s)
    (had : ∀ s ∈ Fields.get? added name, Fit s)
    (he : Json.canonicalFields existing = Json.canonicalFields added)
    (ho : J earlier later others) :
    J ((Fields.get? existing name).or earlier) ((Fields.get? added name).or later)
      ((Fields.get? existing name).or others) := by
  cases ha : Fields.get? added name with
  | none =>
    have hn := congrArg (Fields.get? · name) he
    simp only [Json.get?_canonicalFields, ha, Option.map_none, Option.map_eq_none_iff] at hn
    simpa [hn] using ho
  | some t =>
    obtain ⟨s, hs, hct⟩ := get?_of_canonicalFields he.symm ha
    rw [hs]
    exact hc.equal (hex s hs) (had t ha) hct.symm

variable (hl : Fits Fit left) (hr : Fits Fit right) (hw : (Json.object right).WellFormed)
variable (hu : Fields.Updates (MergedTo merge (Fields.get? left "additionalProperties")
  (Fields.get? right "additionalProperties")) left right merged)

include hl hr hw hu

theorem Combines.additionalProperties : J (Fields.get? left "additionalProperties")
    (Fields.get? right "additionalProperties") (Fields.get? merged "additionalProperties") := by
  cases hv : Fields.get? right "additionalProperties" with
  | none =>
    rw [hu.get?_of_none hv]
    cases hs : Fields.get? left "additionalProperties" with
    | none   => exact hc.nothing
    | some s => exact hc.free (hl.others s hs) (by simp) rfl
  | some s =>
    have h := hu.get?_of_get? (Json.wellFormed_object.mp hw).left hv (by decide)
    have h : United (fun current value => (Outcome.ofOption (mergeSchema? merge current value)).kept?)
      "additionalProperties" (Fields.get? left "additionalProperties") s _ := h
    simp only [Outcome.kept?_ofOption] at h
    exact hc.united h hl.others (hr.others s hv)

-- The schemas for each property are merged. A side that lists none does not restrict the other one.
theorem Combines.governing
    (hnl : Fields.get? left "properties" = none → Fields.get? right "properties" ≠ none →
      limitsOthers (Fields.get? left "additionalProperties") = false)
    (hnr : Fields.get? right "properties" = none → Fields.get? left "properties" ≠ none →
      limitsOthers (Fields.get? right "additionalProperties") = false) (name : String) :
    J (governing? left name) (governing? right name) (governing? merged name) := by
  have ho := hc.additionalProperties hl hr hw hu
  have hs := (Json.wellFormed_object.mp hw).left
  simp only [governing?]
  cases hpr : Fields.get? right "properties" with
  | none =>
    have hlr : listed right = [] := by simp [listed, hpr]
    have hlm : listed merged = listed left := by simp only [listed, hu.get?_of_none hpr]
    rw [hlr, hlm]
    exact hc.alone (hl.listed name) hr.others (fun hn => hnr hpr fun hl => hn (by simp [listed, hl])) ho
  | some value =>
    have hpm := hu.get?_of_get? hs hpr (by decide)
    cases hpl : Fields.get? left "properties" with
    | none =>
      rw [hpl] at hpm
      have hll : listed left = [] := by simp [listed, hpl]
      have hlm : listed merged = listed right := by
        have hpm : Fields.get? merged "properties" = some value := hpm
        simp only [listed, hpm, hpr]
      rw [hll, hlm]
      refine hc.symm (hc.alone (hr.listed name) hl.others (fun _ => hnl hpl (by simp [hpr])) (hc.symm ho))
    | some current =>
      rw [hpl] at hpm
      rcases hpm with ⟨he, hpm⟩ | ⟨_, combined, hb, hpm⟩
      case inl =>
        have hlm : listed merged = listed left := by simp only [listed, hpm, hpl]
        rw [hlm]
        refine hc.alike (hl.listed name) (hr.listed name) (canonicalFields_listed ?_) ho
        simp [hpl, hpr, Json.canonical_eq_of_same he]
      case inr =>
        obtain ⟨existing, added, result, rfl, rfl, rfl, ha⟩ := exists_addProperties? hb
        have hll : listed left = existing := by simp [listed, hpl, Json.asObject?]
        have hlr : listed right = added := by simp [listed, hpr, Json.asObject?]
        have hlm : listed merged = result := by simp [listed, hpm, Json.asObject?]
        have hsa := (Json.wellFormed_object.mp (hw.get? hpr)).left
        have hp := hc.property hl.others hr.others ho (hll ▸ hl.listed) (hlr ▸ hr.listed) hsa ha name
        rwa [hll, hlr, hlm]

end Combines

theorem exists_properties {node : Fields} {value : Json} (h : Core (.object node))
    (hv : Fields.get? node "properties" = some value) :
    ∃ schemas, value = .object schemas ∧ ∀ name s, (name, s) ∈ schemas → Core s :=
  (h.keyword (Fields.mem_of_get? hv)).forms.properties rfl

theorem fits_core {node : Fields} (h : Core (.object node) ∧ (Json.object node).WellFormed) :
    Fits (fun s => Core s ∧ s.WellFormed) node where
  listed := by
    intro name s hs
    obtain ⟨schemas, hp, hm⟩ := mem_listed hs
    obtain ⟨_, he, hc⟩ := exists_properties h.left hp
    cases he
    exact ⟨hc name s hm, (Json.wellFormed_object.mp (h.right.get? hp)).right name s hm⟩
  others := fun s hs =>
    ⟨(h.left.keyword (Fields.mem_of_get? hs)).forms.additionalProperties rfl, h.right.get? hs⟩

section Nodes

variable {left right merged : Fields} (hm : Conjoins merge)
variable (hl : Core (.object left) ∧ (Json.object left).WellFormed)
variable (hr : Core (.object right) ∧ (Json.object right).WellFormed)
variable (hu : Fields.Updates (MergedTo merge (Fields.get? left "additionalProperties")
  (Fields.get? right "additionalProperties")) left right merged)

include hm hl hr hu

theorem joint_keyword (hp : Preserves merge) {keyword : String} (hk : keyword ≠ "properties")
    (ha : keyword ≠ "additionalProperties") :
    Joint (CoreKeyword Core keyword) (Demands keyword) (Fields.get? left keyword)
      (Fields.get? right keyword) (Fields.get? merged keyword) := by
  by_cases hread : keyword ∈ readKeywords
  case neg =>
    exact ⟨fun v _ => .unread v hread, fun j _ => by simp [demands_of_not_mem hread]⟩
  case pos =>
    have ⟨hs, _⟩ := Json.wellFormed_object.mp hr.right
    have hcl : ∀ v ∈ Fields.get? left keyword, CoreKeyword Core keyword v := fun v hv =>
      hl.left.keyword (Fields.mem_of_get? hv)
    cases hv : Fields.get? right keyword with
    | none =>
      rw [hu.get?_of_none hv]
      exact .left_of hcl (by simp)
    | some value =>
      have hcr := hr.left.keyword (Fields.mem_of_get? hv)
      refine United.joint (hu.get?_of_get? hs hv hread) hcl hcr ?same ?combined
      case same =>
        intro current hc hs j hj
        have hf : CoreKeyword (fun s => Core s ∧ Canonical s) keyword current :=
          (hcl current hc).imp fun s _ hs => ⟨hs, hs.canonical⟩
        exact demands_of_canonical hj hf hcr hk ha (hl.right.get? hc) (hr.right.get? hv)
          (Json.canonical_eq_of_same hs)
      case combined =>
        intro current hc combined ho
        have hwc := hl.right.get? hc
        have hwv := hr.right.get? hv
        have hj := (hm.mergeValues hp (hcl current hc) hcr hwc hwv hk ha).of_kept? ho
        exact .some_of hj.core hj.demands

omit hm in
theorem exists_merged_properties {value : Json} (hv : Fields.get? merged "properties" = some value) :
    ∃ schemas, value = .object schemas := by
  cases hpr : Fields.get? right "properties" with
  | none =>
    rw [hu.get?_of_none hpr] at hv
    obtain ⟨schemas, he, _⟩ := exists_properties hl.left hv
    exact ⟨schemas, he⟩
  | some added =>
    obtain ⟨schemas, he, _⟩ := exists_properties hr.left hpr
    have hpm := hu.get?_of_get? (Json.wellFormed_object.mp hr.right).left hpr (by decide)
    rw [hv] at hpm
    cases hpl : Fields.get? left "properties" with
    | none =>
      rw [hpl] at hpm
      exact ⟨schemas, (Option.some.inj hpm).trans he⟩
    | some existing =>
      rw [hpl] at hpm
      rcases hpm with ⟨_, hpm⟩ | ⟨_, combined, hc, hpm⟩
      case inl =>
        obtain ⟨schemas, he, _⟩ := exists_properties hl.left hpl
        exact ⟨schemas, (Option.some.inj hpm).trans he⟩
      case inr =>
        obtain ⟨_, _, result, _, _, rfl, _⟩ := exists_addProperties? hc
        exact ⟨result, Option.some.inj hpm⟩

theorem standsFor_merged (hp : Preserves merge) (hwm : (Json.object merged).WellFormed)
    (hnl : Fields.get? left "properties" = none → Fields.get? right "properties" ≠ none →
      limitsOthers (Fields.get? left "additionalProperties") = false)
    (hnr : Fields.get? right "properties" = none → Fields.get? left "properties" ≠ none →
      limitsOthers (Fields.get? right "additionalProperties") = false) :
    Core (.object merged) ∧ ∀ j, j.Instance →
      (Accepts (.object merged) j ↔ Accepts (.object left) j ∧ Accepts (.object right) j) := by
  have ⟨hs, _⟩ := Json.wellFormed_object.mp hwm
  have hprop := hm.combines.governing (fits_core hl) (fits_core hr) hr.right hu hnl hnr
  have hadd := hm.combines.additionalProperties (fits_core hl) (fits_core hr) hr.right hu
  have hkey (keyword : String) (hk : keyword ≠ "properties") (ha : keyword ≠ "additionalProperties") :=
    joint_keyword hm hl hr hu hp hk ha
  have hc : Core (.object merged) := by
    refine .object fun keyword value hv => ?_
    have hv := hs.get? hv
    by_cases hk : keyword = "properties"
    case pos =>
      subst hk
      obtain ⟨schemas, rfl⟩ := exists_merged_properties hl hr hu hv
      refine .properties fun name s hs => ?_
      have hs := (Json.wellFormed_object.mp (hwm.get? hv)).left.get? hs
      exact (hprop name).fit s (by simp [governing?_of_some hv, hs])
    case neg =>
      by_cases ha : keyword = "additionalProperties"
      case pos =>
        subst ha
        exact .additionalProperties (hadd.fit value hv)
      case neg => exact (hkey keyword hk ha).fit value hv
  refine ⟨hc, fun j hj => ?_⟩
  have hd keyword (hk : keyword ≠ "properties") (ha : keyword ≠ "additionalProperties") :=
    (hkey keyword hk ha).means j hj
  have hg : Governs merged j ↔ Governs left j ∧ Governs right j := by
    unfold Governs
    rw [← forall_and]
    refine forall_congr' fun name => ?_
    rw [← forall_and]
    refine forall_congr' fun part => ?_
    rw [← imp_and]
    exact forall_congr' fun hpart => (hprop name).means part (hpart.instance hj)
  rw [accepts_object hc hwm hj, accepts_object hl.left hl.right hj,
    accepts_object hr.left hr.right hj, hg, and_and_and_comm]
  refine and_congr_left fun _ => ?_
  simp +contextual only [hd, ne_eq, not_false_eq_true, imp_and, forall_and]

end Nodes

end JsonSchema.Merge
