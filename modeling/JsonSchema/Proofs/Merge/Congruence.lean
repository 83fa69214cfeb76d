import JsonSchema.Proofs.Merge.Meaning

namespace JsonSchema.Merge

open Json (canonical canonicalItems_eq_map)
open Validator

-- A core schema says the same as every other one that is equal to it up to zeros.
def Canonical (s : Json) : Prop :=
  ∀ t j, s.WellFormed → Core t → t.WellFormed → canonical s = canonical t → j.Instance →
    (Accepts s j ↔ Accepts t j)

section Values

variable {j : Json}

theorem mem_of_map_canonical {items others : List Json}
    (h : items.map canonical = others.map canonical) {i : Json} (hi : i ∈ items) :
    ∃ o ∈ others, canonical i = canonical o := by
  have hm : canonical i ∈ others.map canonical := h ▸ List.mem_map_of_mem hi
  obtain ⟨o, ho, he⟩ := List.mem_map.mp hm
  exact ⟨o, ho, he.symm⟩

theorem mem_canonicalFields {fields : Fields} {key : String} {i : Json} :
    (key, i) ∈ Json.canonicalFields fields ↔ ∃ o, (key, o) ∈ fields ∧ canonical o = i := by
  induction fields with
  | nil => simp [Json.canonicalFields]
  | cons field rest ih =>
    obtain ⟨k, o⟩ := field
    simp only [Json.canonicalFields, List.mem_cons, Prod.mk.injEq, ih]
    constructor
    case mp =>
      rintro (⟨rfl, rfl⟩ | ⟨p, hp, hi⟩)
      case inl => exact ⟨o, .inl ⟨rfl, rfl⟩, rfl⟩
      case inr => exact ⟨p, .inr hp, hi⟩
    case mpr =>
      rintro ⟨p, ⟨rfl, rfl⟩ | hp, rfl⟩
      case inl => exact .inl ⟨rfl, rfl⟩
      case inr => exact .inr ⟨p, hp, rfl⟩

theorem mem_of_canonicalFields {fields others : Fields}
    (h : Json.canonicalFields fields = Json.canonicalFields others) {key : String} {i : Json}
    (hi : (key, i) ∈ fields) : ∃ o, (key, o) ∈ others ∧ canonical i = canonical o := by
  have hm : (key, canonical i) ∈ Json.canonicalFields others :=
    h ▸ mem_canonicalFields.mpr ⟨i, hi, rfl⟩
  obtain ⟨o, ho, hc⟩ := mem_canonicalFields.mp hm
  exact ⟨o, ho, hc.symm⟩

theorem get?_of_canonicalFields {fields others : Fields}
    (h : Json.canonicalFields fields = Json.canonicalFields others) {key : String} {i : Json}
    (hi : Fields.get? fields key = some i) :
    ∃ o, Fields.get? others key = some o ∧ canonical i = canonical o := by
  have hm := congrArg (Fields.get? · key) h
  simp only [Json.get?_canonicalFields, hi, Option.map_some] at hm
  obtain ⟨o, ho, he⟩ := Option.map_eq_some_iff.mp hm.symm
  exact ⟨o, ho, he.symm⟩

theorem string_mem_of_map_canonical {items others : List Json}
    (h : items.map canonical = others.map canonical) {s : String} (hi : .string s ∈ items) :
    .string s ∈ others := by
  obtain ⟨o, ho, he⟩ := mem_of_map_canonical h hi
  cases o <;> simp [canonical] at he
  exact he ▸ ho

theorem hasValues_of_canonical {names others : List Json}
    (h : names.map canonical = others.map canonical) (hv : HasValues names j) :
    HasValues others j :=
  fun fields hf name hn => hv fields hf name (string_mem_of_map_canonical h.symm hn)

theorem typeNames?_canonical (value : Json) : typeNames? value.canonical = typeNames? value := by
  cases value <;> simp [canonical, typeNames?]
  case array names =>
    rw [canonicalItems_eq_map]
    induction names with
    | nil            => rfl
    | cons j rest ih => simp [List.mapM_cons, Json.asString?_canonical, ih]

end Values

theorem canonical_eq_array {members : List Json} {value : Json}
    (h : canonical (.array members) = canonical value) :
    ∃ others, value = .array others ∧ members.map canonical = others.map canonical := by
  cases value <;> simp [canonical] at h
  case array others => exact ⟨others, rfl, by rwa [← canonicalItems_eq_map, ← canonicalItems_eq_map]⟩

theorem canonical_eq_object {fields : Fields} {value : Json}
    (h : canonical (.object fields) = canonical value) :
    ∃ others, value = .object others ∧
      Json.canonicalFields fields = Json.canonicalFields others := by
  cases value <;> simp [canonical] at h
  case object others => exact ⟨others, rfl, h⟩

theorem canonical_anyOf {members others : List Json}
    (h : canonical (anyOf members) = canonical (anyOf others)) :
    members.map canonical = others.map canonical := by
  simpa [anyOf, canonical, Json.canonicalFields, canonicalItems_eq_map] using h

theorem wellFormed_of_anyOf {members : List Json} (h : (anyOf members).WellFormed) :
    ∀ s ∈ members, s.WellFormed :=
  Json.wellFormed_array.mp ((Json.wellFormed_object.mp h).right _ _ List.mem_cons_self)

theorem not_core_anyOf {members : List Json} {s : Json} (hs : Core s)
    (h : canonical s = canonical (anyOf members)) : False := by
  obtain ⟨fields, rfl, hf⟩ := canonical_eq_object h.symm
  have hm : ("anyOf", Json.array members) ∈ [("anyOf", Json.array members)] := List.mem_cons_self
  obtain ⟨value, ho, -⟩ := mem_of_canonicalFields hf hm
  generalize he : "anyOf" = keyword at ho
  cases hs.keyword ho
  case limit hl      => exact absurd hl (he ▸ by decide)
  case unread ha => exact ha (he ▸ by decide)
  all_goals exact absurd he (by decide)

section Demands

variable {j : Json} (hj : j.Instance)

include hj

theorem forall_accepts_of_canonical {members others : List Json}
    (hm : ∀ s ∈ members, Core s ∧ Canonical s) (ho : ∀ s ∈ others, Core s)
    (hw : ∀ s ∈ members, s.WellFormed) (hwo : ∀ s ∈ others, s.WellFormed)
    (h : members.map canonical = others.map canonical) :
    (∀ s ∈ members, Accepts s j) ↔ ∀ s ∈ others, Accepts s j := by
  constructor
  case mp =>
    intro ha t ht
    obtain ⟨s, hs, he⟩ := mem_of_map_canonical h.symm ht
    exact ((hm s hs).right t j (hw s hs) (ho t ht) (hwo t ht) he.symm hj).mp (ha s hs)
  case mpr =>
    intro ha s hs
    obtain ⟨t, ht, he⟩ := mem_of_map_canonical h hs
    exact ((hm s hs).right t j (hw s hs) (ho t ht) (hwo t ht) he hj).mpr (ha t ht)

theorem exists_accepts_of_canonical {members others : List Json}
    (hm : ∀ s ∈ members, Core s ∧ Canonical s) (ho : ∀ s ∈ others, Core s)
    (hw : ∀ s ∈ members, s.WellFormed) (hwo : ∀ s ∈ others, s.WellFormed)
    (h : members.map canonical = others.map canonical) :
    (∃ s ∈ members, Accepts s j) ↔ ∃ s ∈ others, Accepts s j := by
  constructor
  case mp =>
    rintro ⟨s, hs, ha⟩
    obtain ⟨t, ht, he⟩ := mem_of_map_canonical h hs
    exact ⟨t, ht, ((hm s hs).right t j (hw s hs) (ho t ht) (hwo t ht) he hj).mp ha⟩
  case mpr =>
    rintro ⟨t, ht, ha⟩
    obtain ⟨s, hs, he⟩ := mem_of_map_canonical h.symm ht
    exact ⟨s, hs, ((hm s hs).right t j (hw s hs) (ho t ht) (hwo t ht) he.symm hj).mpr ha⟩

theorem requires_of_canonical {d e : Json} (hd : CoreDependency (fun s => Core s ∧ Canonical s) d)
    (he : CoreDependency Core e) (hw : d.WellFormed) (hwe : e.WellFormed)
    (h : canonical d = canonical e) : Requires j d ↔ Requires j e := by
  cases hd
  case names names =>
    obtain ⟨others, rfl, hm⟩ := canonical_eq_array h
    exact ⟨hasValues_of_canonical hm, hasValues_of_canonical hm.symm⟩
  case schema fields hs =>
    obtain ⟨others, rfl, hm⟩ := canonical_eq_object h
    cases he
    case schema he => exact hs.right _ j hw he hwe h hj

theorem demands_of_canonical {keyword : String} {value other : Json}
    (hv : CoreKeyword (fun s => Core s ∧ Canonical s) keyword value)
    (ho : CoreKeyword Core keyword other) (hk : keyword ≠ "properties")
    (ha : keyword ≠ "additionalProperties") (hw : value.WellFormed) (hwo : other.WellFormed)
    (h : canonical value = canonical other) :
    Demands keyword value j ↔ Demands keyword other j := by
  cases hv
  case properties | additionalProperties => contradiction
  case unread hn =>
    exact iff_of_true (demands_of_not_mem hn _) (demands_of_not_mem hn _)
  case type =>
    rw [demands_type hj, demands_type hj, ← typeNames?_canonical value, h, typeNames?_canonical]
  case const =>
    rw [demands_const hj, demands_const hj, Json.similar_eq_of_canonical h]
  case pattern =>
    simp only [Demands, ofKeywordIn?_pattern]
    rw [← Json.asString?_canonical value, h, Json.asString?_canonical]
  case format =>
    simp only [Demands, ofKeywordIn?_format]
    rw [← Json.asString?_canonical value, h, Json.asString?_canonical]
  case enum hn =>
    obtain ⟨others, rfl, hno⟩ := ho.forms.enum rfl
    rw [(Json.NumberFree.array hn).canonical_eq, (Json.NumberFree.array hno).canonical_eq] at h
    rw [h]
  case limit hn hk =>
    obtain ⟨m, _, rfl⟩ := ho.forms.limit hk
    have h : Json.ofNat _ = Json.ofNat m := h
    rw [h]
  case uniqueItems b =>
    obtain ⟨c, rfl⟩ := ho.forms.uniqueItems rfl
    have h : Json.bool b = Json.bool c := h
    rw [h]
  case required names =>
    obtain ⟨others, rfl, hm⟩ := canonical_eq_array h
    rw [demands_required, demands_required]
    exact ⟨hasValues_of_canonical hm, hasValues_of_canonical hm.symm⟩
  case items fields hs =>
    obtain ⟨others, rfl, hs'⟩ := ho.forms.items rfl
    rw [demands_items, demands_items]
    refine forall_congr' fun items => forall_congr' fun hi => forall_congr' fun i => ?_
    refine forall_congr' fun hm => ?_
    subst hi
    exact hs.right _ i hw hs' hwo h (hj.item hm)
  case allOf members hs =>
    obtain ⟨others, rfl, hs'⟩ := ho.forms.allOf rfl
    obtain ⟨_, he, hm⟩ := canonical_eq_array h
    cases he
    rw [demands_allOf, demands_allOf]
    exact forall_accepts_of_canonical hj hs hs' (Json.wellFormed_array.mp hw)
      (Json.wellFormed_array.mp hwo) hm
  case not hs =>
    rw [demands_not hj, demands_not hj]
    cases ho.forms.not rfl
    case inl ho => exact not_congr (hs.right other j hw ho hwo h hj)
    case inr ho =>
      obtain ⟨others, _, rfl, _⟩ := ho
      exact (not_core_anyOf hs.left h).elim
  case notAny members hn hs =>
    rw [demands_not hj, demands_not hj]
    cases ho.forms.not rfl
    case inl ho => exact (not_core_anyOf ho h.symm).elim
    case inr ho =>
      obtain ⟨others, hno, rfl, hs'⟩ := ho
      rw [accepts_anyOf hj hn, accepts_anyOf hj hno]
      have hw  := wellFormed_of_anyOf hw
      have hwo := wellFormed_of_anyOf hwo
      exact not_congr (exists_accepts_of_canonical hj hs hs' hw hwo (canonical_anyOf h))
  case dependencies rules hs =>
    obtain ⟨others, rfl, hs'⟩ := ho.forms.dependencies rfl
    obtain ⟨_, he, hm⟩ := canonical_eq_object h
    cases he
    obtain ⟨_, hw⟩  := Json.wellFormed_object.mp hw
    obtain ⟨_, hwo⟩ := Json.wellFormed_object.mp hwo
    rw [demands_dependencies, demands_dependencies]
    constructor
    case mp =>
      intro hr fields hf name e he hp
      obtain ⟨d, hd, hde⟩ := mem_of_canonicalFields hm.symm he
      have hc := requires_of_canonical hj (hs _ _ hd) (hs' _ _ he) (hw _ _ hd) (hwo _ _ he) hde.symm
      exact hc.mp (hr fields hf name d hd hp)
    case mpr =>
      intro hr fields hf name d hd hp
      obtain ⟨e, he, hde⟩ := mem_of_canonicalFields hm hd
      have hc := requires_of_canonical hj (hs _ _ hd) (hs' _ _ he) (hw _ _ hd) (hwo _ _ he) hde
      exact hc.mpr (hr fields hf name e he hp)

end Demands

theorem canonicalFields_listed {node others : Fields}
    (h : (Fields.get? node "properties").map canonical =
      (Fields.get? others "properties").map canonical) :
    Json.canonicalFields (listed node) = Json.canonicalFields (listed others) := by
  unfold listed
  cases hn : Fields.get? node "properties" <;> cases ho : Fields.get? others "properties" <;>
    simp [hn, ho] at h
  case none.none => rfl
  case some.some value other =>
    cases value <;> cases other <;> simp [canonical] at h <;> simp [Json.asObject?]
    exact h

theorem governing?_of_canonical {node others : Fields}
    (h : Json.canonicalFields node = Json.canonicalFields others) {name : String} {s : Json}
    (hs : governing? node name = some s) :
    ∃ t, governing? others name = some t ∧ canonical s = canonical t := by
  have hl : Json.canonicalFields (listed node) = Json.canonicalFields (listed others) :=
    canonicalFields_listed <| by simp only [← Json.get?_canonicalFields, h]
  cases hg : Fields.get? (listed node) name with
  | some found =>
    obtain rfl : found = s := by simpa [governing?, hg] using hs
    obtain ⟨t, ht, he⟩ := get?_of_canonicalFields hl hg
    exact ⟨t, by simp [governing?, ht], he⟩
  | none =>
    have hs : Fields.get? node "additionalProperties" = some s := by simpa [governing?, hg] using hs
    obtain ⟨t, ht, he⟩ := get?_of_canonicalFields h hs
    have ho := congrArg (Fields.get? · name) hl
    simp only [Json.get?_canonicalFields, hg] at ho
    exact ⟨t, by simp [governing?, Option.map_eq_none_iff.mp ho.symm, ht], he⟩

theorem Core.canonical {s : Json} (h : Core s) : Canonical s := by
  refine Core.induct ?bool ?object h
  case bool =>
    intro b t j _ _ _ h _
    cases t <;> simp [Json.canonical] at h
    rw [h]
  case object =>
    intro fields ih t j hw ht' hwt h hj
    obtain ⟨others, rfl, hf⟩ := canonical_eq_object h
    have hc : Core (.object fields) :=
      .object fun keyword value hm => (ih keyword value hm).imp fun _ _ h => h.left
    have hd {keyword value other} (hv : Fields.get? fields keyword = some value)
        (ho : Fields.get? others keyword = some other) (hp : keyword ≠ "properties")
        (ha : keyword ≠ "additionalProperties") (he : Json.canonical value = Json.canonical other) :
        Demands keyword value j ↔ Demands keyword other j :=
      demands_of_canonical hj (ih _ _ (Fields.mem_of_get? hv)) (ht'.keyword (Fields.mem_of_get? ho))
        hp ha (hw.get? hv) (hwt.get? ho) he
    have hg {name part s t} (hpart : HasProperty j name part) (hs : governing? fields name = some s)
        (ht : governing? others name = some t) (he : Json.canonical s = Json.canonical t) :
        Accepts s part ↔ Accepts t part :=
      (governing?_keyword ih hs).right t part (wellFormed_governing hw hs)
        (governing?_keyword (fun _ _ => ht'.keyword) ht) (wellFormed_governing hwt ht) he
        (hpart.instance hj)
    rw [accepts_object hc hw hj, accepts_object ht' hwt hj]
    constructor
    case mp =>
      intro ⟨ha, hs⟩
      constructor
      case left =>
        intro keyword hp hk other ho
        obtain ⟨value, hv, he⟩ := get?_of_canonicalFields hf.symm ho
        exact (hd hv ho hp hk he.symm).mp (ha keyword hp hk value hv)
      case right =>
        intro name part hpart t ht
        obtain ⟨s, hs', he⟩ := governing?_of_canonical hf.symm ht
        exact (hg hpart hs' ht he.symm).mp (hs name part hpart s hs')
    case mpr =>
      intro ⟨ha, hs⟩
      constructor
      case left =>
        intro keyword hp hk value hv
        obtain ⟨other, ho, he⟩ := get?_of_canonicalFields hf hv
        exact (hd hv ho hp hk he).mpr (ha keyword hp hk other ho)
      case right =>
        intro name part hpart s hs'
        obtain ⟨t, ht, he⟩ := governing?_of_canonical hf hs'
        exact (hg hpart hs' ht he).mpr (hs name part hpart t ht)

end JsonSchema.Merge
