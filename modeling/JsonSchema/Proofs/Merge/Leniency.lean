import JsonSchema.Proofs.Validator.Clauses

namespace JsonSchema.Merge

open Validator

variable {node : Fields} {keyword : String} {config value s j : Json}

-- What a keyword asks of a value and its parts, apart from the clauses.
def Asks (keyword : String) (config j : Json) : Prop :=
  (¬ Approximate keyword config j → AsksOwn [] keyword config j) ∧
    ∀ s part, Hands [] s part keyword config j → Lenient s part

def AsksProperties (node : Fields) (j : Json) : Prop :=
  ∀ name part, HasProperty j name part → ∀ s ∈ governing? node name, Lenient s part

theorem asksOwn_nil (hf : (Json.object node).FlagFree) (hk : keyword ≠ "additionalProperties")
    (ha : ¬ Approximate keyword config j) :
    AsksOwn node keyword config j ↔ AsksOwn [] keyword config j := by
  simp only [AsksOwn, KeywordHolds]
  cases hn : Applicator.ofName? keyword with
  | none =>
    have he {k} (h : k ∈ flagKeywords) : hasFlag node k = hasFlag [] k := hf.hasFlag h
    have hmin := he (show "exclusiveMinimum" ∈ flagKeywords by decide)
    have hmax := he (show "exclusiveMaximum" ∈ flagKeywords by decide)
    simp only [PlainHolds, hmin, hmax]
  | some a =>
    obtain rfl := Applicator.eq_name hn
    cases a
    case additionalProperties => exact absurd rfl hk
    case items =>
      cases config
      case array => exact absurd (.inr (.inl ⟨rfl, rfl⟩)) ha
      all_goals exact .rfl
    all_goals cases config <;> exact .rfl

theorem hands_nil (hk : keyword ≠ "additionalProperties") {part : Json} :
    Hands node s part keyword config j ↔ Hands [] s part keyword config j := by
  constructor <;> intro h <;> cases h
  all_goals first
    | exact absurd rfl hk
    | constructor <;> assumption

theorem asksOwn_properties : AsksOwn node "properties" config j := by
  cases config
  case object => exact fun _ _ _ _ _ _ _ hn => absurd hn (by decide)
  all_goals trivial

theorem asksOwn_additionalProperties : AsksOwn node "additionalProperties" config j :=
  fun _ _ _ _ _ _ hn => absurd hn (by decide)

-- The keywords `properties` and `additionalProperties` ask something together.
theorem lenient_object_iff (hf : (Json.object node).FlagFree) (hw : (Json.object node).WellFormed)
    (hj : j.WellFormed) :
    Lenient (.object node) j ↔
      (∀ keyword, keyword ≠ "properties" → keyword ≠ "additionalProperties" →
        ∀ value ∈ Fields.get? node keyword, Asks keyword value j) ∧ AsksProperties node j := by
  obtain ⟨hs, _⟩ := Json.wellFormed_object.mp hw
  rw [lenient_object]
  constructor
  case mp =>
    intro h
    constructor
    case left =>
      intro keyword _ hk value hv
      obtain ⟨ho, hh⟩ := h keyword value (Fields.mem_of_get? hv)
      exact ⟨fun ha => (asksOwn_nil hf hk ha).mp (ho ha),
        fun s part hp => hh s part ((hands_nil hk).mpr hp)⟩
    case right =>
      rintro name part ⟨fields, rfl, hp⟩ s hg
      cases hl : Fields.get? (listed node) name
      case some found =>
        obtain rfl : found = s := by simpa [governing?, hl] using hg
        obtain ⟨schemas, hps, hm⟩ := mem_listed hl
        have hp := (Json.wellFormed_object.mp hj).left.get? hp
        exact (h _ _ (Fields.mem_of_get? hps)).right _ part (.property hm hp)
      case none =>
        have hg : Fields.get? node "additionalProperties" = some s := by
          simpa [governing?, hl] using hg
        refine (h _ _ (Fields.mem_of_get? hg)).right s part (.otherProperty hp ?_)
        rw [knownNames_eq]
        exact Fields.get?_eq_none_iff.mp hl
  case mpr =>
    rintro ⟨ha, hg⟩ keyword value hm
    have hget := hs.get? hm
    by_cases hp : keyword = "properties"
    case pos =>
      subst hp
      refine ⟨fun _ => asksOwn_properties, fun s part hh => ?_⟩
      obtain ⟨name, schemas, fields, rfl, rfl, hs, hn⟩ := hands_properties hh
      exact hg name part ⟨_, rfl, Fields.mem_of_get? hn⟩ s (governing?_of_mem hw hget hs)
    case neg =>
      by_cases hk : keyword = "additionalProperties"
      case pos =>
        subst hk
        refine ⟨fun _ => asksOwn_additionalProperties, fun s part hh => ?_⟩
        obtain ⟨rfl, name, fields, rfl, hpart, hn⟩ := hands_additionalProperties hh
        rw [knownNames_eq] at hn
        have hl := Fields.get?_eq_none_iff.mpr hn
        exact hg name part ⟨_, rfl, hpart⟩ s (by simp [governing?, hl, hget])
      case neg =>
        obtain ⟨ho, hh⟩ := ha keyword hp hk value hget
        exact ⟨fun ha => (asksOwn_nil hf hk ha).mpr (ho ha),
          fun s part hp => hh s part ((hands_nil hk).mp hp)⟩

theorem demands_plain (hj : j.Instance) (hn : Applicator.ofName? keyword = none) :
    Demands keyword config j ↔ PlainHolds [] keyword config j := by
  rw [← passes_plain hj.full hn]
  simp only [Demands, ofKeywordIn?, hn]

theorem asks_plain (hj : j.Instance) (hn : Applicator.ofName? keyword = none) :
    Asks keyword config j ↔ (¬ Approximate keyword config j → Demands keyword config j) := by
  simp only [Asks, AsksOwn, KeywordHolds, hn, demands_plain hj hn]
  exact and_iff_left fun s part hh => absurd hh (not_hands hn)

theorem asks_of_not_mem (hj : j.Instance) (h : keyword ∉ readKeywords) : Asks keyword config j := by
  have hn : Applicator.ofName? keyword = none := by
    cases hn : Applicator.ofName? keyword with
    | none   => rfl
    | some a =>
      obtain rfl := Applicator.eq_name hn
      revert h
      cases a <;> decide
  exact (asks_plain hj hn).mpr fun _ => demands_of_not_mem h config

theorem asks_approximate (h : keyword ∈ ["anyOf", "oneOf", "contains", "multipleOf"]) :
    Asks keyword config j := by
  refine ⟨fun ha => absurd (.inl h) ha, fun s part hh => ?_⟩
  cases hh <;> simp at h

theorem asks_items : Asks "items" config j ↔
    ∀ items, j = .array items → ∀ part ∈ items, Lenient config part := by
  constructor
  case mp =>
    rintro h items rfl part hp
    exact h.right config part (.item hp)
  case mpr =>
    intro h
    refine ⟨fun ha => ?_, fun s part hh => ?_⟩
    case refine_1 =>
      cases config
      case array         => exact absurd (.inr (.inl ⟨rfl, rfl⟩)) ha
      case object | bool => exact fun _ _ _ _ hn => absurd hn (by decide)
      all_goals trivial
    case refine_2 =>
      obtain ⟨rfl, items, rfl, hp⟩ := hands_items hh
      exact h items rfl part hp

theorem asks_allOf {members : List Json} :
    Asks "allOf" (.array members) j ↔ ∀ s ∈ members, Lenient s j := by
  constructor
  case mp  => exact fun h s hs => h.right s j (.member hs)
  case mpr =>
    intro h
    refine ⟨fun _ _ _ hn => absurd hn (by decide), fun s part hh => ?_⟩
    obtain ⟨rfl, _, he, hs⟩ := hands_allOf hh
    cases he
    exact h s hs

theorem asks_not : Asks "not" s j ↔ ¬ Satisfies s j := by
  constructor
  case mp =>
    intro h hs
    exact h.left (by simp [Approximate]) fun _ => hs
  case mpr =>
    intro h
    refine ⟨fun _ hs => h (hs rfl), fun s part hh => ?_⟩
    generalize hk : "not" = keyword at hh
    cases hh <;> simp at hk

def Depends (d j : Json) : Prop :=
  (∀ names fields, d = .array names → j = .object fields → HasNames names fields) ∧ Lenient d j

theorem asks_dependencies {rules : Fields} : Asks "dependencies" (.object rules) j ↔
    ∀ fields, j = .object fields → ∀ name d, (name, d) ∈ rules →
      Fields.contains fields name = true → Depends d j := by
  constructor
  case mp =>
    rintro h fields rfl name d hd hc
    refine ⟨?_, h.right d _ (.dependency hd hc rfl)⟩
    rintro names _ rfl ⟨⟩
    exact h.left (by simp [Approximate]) fields rfl name _ hd hc
  case mpr =>
    intro h
    refine ⟨fun _ => ?_, fun s part hh => ?_⟩
    case refine_1 =>
      rintro fields rfl name d hd hc
      have hd := h fields rfl name d hd hc
      cases d
      case array         => exact hd.left _ _ rfl rfl
      case object | bool => exact fun hn => absurd hn (by decide)
      all_goals trivial
    case refine_2 =>
      obtain ⟨rfl, name, _, fields, he, rfl, hd, hc⟩ := hands_dependencies hh
      cases he
      exact (h fields rfl name s hd hc).right

theorem lenient_singleton (hk : keyword ≠ "additionalProperties")
    (ho : AsksOwn [(keyword, config)] keyword config j ↔ AsksOwn [] keyword config j) :
    Lenient (.object [(keyword, config)]) j ↔ Asks keyword config j := by
  simp only [lenient_object, Asks, List.mem_singleton, Prod.mk.injEq, and_imp]
  constructor
  case mp =>
    intro h
    have ⟨hn, hh⟩ := h keyword config rfl rfl
    exact ⟨fun ha => ho.mp (hn ha), fun s part hp => hh s part ((hands_nil hk).mpr hp)⟩
  case mpr =>
    rintro ⟨hn, hh⟩ _ _ rfl rfl
    exact ⟨fun ha => ho.mpr (hn ha), fun s part hp => hh s part ((hands_nil hk).mp hp)⟩

theorem lenient_allOf {members : List Json} :
    Lenient (allOf members) j ↔ ∀ s ∈ members, Lenient s j :=
  (lenient_singleton (by decide) .rfl).trans asks_allOf

theorem flagFree_allOf {members : List Json} (h : ∀ s ∈ members, s.FlagFree) :
    (allOf members).FlagFree := by
  refine flagFree_object.mpr fun keyword value hm => ?_
  cases List.mem_singleton.mp hm
  exact flagFreeAt_array h

theorem lenient_of_isIdentity (h : isIdentity s = true) : Lenient s j := by
  cases s <;> simp [isIdentity] at h
  case bool b        => exact lenient_bool.mpr h
  case object fields => exact lenient_object.mpr (by simp [h])

end JsonSchema.Merge
