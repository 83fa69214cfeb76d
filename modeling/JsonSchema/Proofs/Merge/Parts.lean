import JsonSchema.Proofs.Merge.Alternatives
import JsonSchema.Proofs.Merge.Bounds

namespace JsonSchema.Merge

open Validator

-- The keywords with rules of their own.
def leafKeywords : List String :=
  ["type", "enum", "const", "pattern", "format", "uniqueItems", "multipleOf", "minLength", "maxLength",
    "minItems", "maxItems", "minProperties", "maxProperties", "minimum", "maximum", "exclusiveMinimum",
    "exclusiveMaximum"]

def partKeywords : List String := "properties" :: "items" :: leafKeywords

-- What such a keyword is followed by, where `P` holds of the schemas below it.
inductive PartKeyword (P : Json → Prop) : String → Json → Prop
  | leaf {keyword} (value : Json) : keyword ∈ leafKeywords → PartKeyword P keyword value
  | properties {schemas} :
    (∀ name s, (name, s) ∈ schemas → P s) → PartKeyword P "properties" (.object schemas)
  | list {schema} : P (.object schema) → PartKeyword P "items" (.object schema)
  | tuple {slots} : (∀ s ∈ slots, P s) → PartKeyword P "items" (.array slots)

inductive Partwise : Json → Prop
  | bool (b : Bool) : Partwise (.bool b)
  | object {node} :
    (∀ keyword value, (keyword, value) ∈ node → PartKeyword Partwise keyword value) → Partwise (.object node)

structure Simple (s : Json) : Prop where
  partwise   : Partwise s
  wellFormed : s.WellFormed
  signed     : s.Signed

section PartKeyword

variable {P : Json → Prop} {keyword : String} {value s : Json}

theorem PartKeyword.mem (h : PartKeyword P keyword value) : keyword ∈ partKeywords := by
  cases h
  case leaf hk => exact List.mem_cons_of_mem _ (List.mem_cons_of_mem _ hk)
  all_goals simp [partKeywords]

theorem PartKeyword.imp {Q : Json → Prop} (h : PartKeyword P keyword value) (hi : ∀ s, P s → Q s) :
    PartKeyword Q keyword value := by
  cases h
  case leaf hk       => exact .leaf value hk
  case properties hp => exact .properties fun name s hm => hi s (hp name s hm)
  case list hp       => exact .list (hi _ hp)
  case tuple hp      => exact .tuple fun s hm => hi s (hp s hm)

theorem PartKeyword.exists_properties (h : PartKeyword P "properties" value) :
    ∃ schemas, value = .object schemas ∧ ∀ name s, (name, s) ∈ schemas → P s := by
  generalize hk : "properties" = keyword at h
  cases h
  case leaf hm       => exact absurd (hk ▸ hm) (by decide)
  case properties hp => exact ⟨_, rfl, hp⟩
  all_goals simp at hk

theorem PartKeyword.exists_items (h : PartKeyword P "items" value) :
    (∃ list, value = .object list ∧ P (.object list)) ∨ ∃ slots, value = .array slots ∧ ∀ s ∈ slots, P s := by
  generalize hk : "items" = keyword at h
  cases h
  case leaf hm       => exact absurd (hk ▸ hm) (by decide)
  case properties    => simp at hk
  case list hp       => exact .inl ⟨_, rfl, hp⟩
  case tuple hp      => exact .inr ⟨_, rfl, hp⟩

theorem PartKeyword.of_appliedBy (h : PartKeyword P keyword value) (hs : s.AppliedBy keyword value) :
    P s ∨ ∃ slots, s = .array slots := by
  cases hs
  case property hm =>
    obtain ⟨_, he, hp⟩ := h.exists_properties
    cases he
    exact .inl (hp _ _ hm)
  case slot hm =>
    obtain ⟨_, he, _⟩ | ⟨_, he, hp⟩ := h.exists_items
    case inl => cases he
    case inr =>
      cases he
      exact .inl (hp s hm)
  case items =>
    obtain ⟨_, rfl, hp⟩ | ⟨_, rfl, _⟩ := h.exists_items
    case inl => exact .inl hp
    case inr => exact .inr ⟨_, rfl⟩
  all_goals exact absurd h.mem (by decide)

end PartKeyword

section Simple

variable {node : Fields}

theorem Simple.of_mem {keyword : String} {value : Json} (h : Simple (.object node))
    (hm : (keyword, value) ∈ node) : PartKeyword Simple keyword value := by
  have hw := (Json.wellFormed_object.mp h.wellFormed).right _ _ hm
  have hs := h.signed.field hm
  obtain ⟨hp, _, _⟩ := h
  obtain _ | hp := hp
  cases hp _ _ hm
  case leaf hk => exact .leaf value hk
  case properties hp =>
    exact .properties fun name s hm =>
      ⟨hp name s hm, (Json.wellFormed_object.mp hw).right _ _ hm, hs.field hm⟩
  case list hp  => exact .list ⟨hp, hw, hs⟩
  case tuple hp => exact .tuple fun s hm => ⟨hp s hm, Json.wellFormed_array.mp hw s hm, hs.item hm⟩

variable {keyword : String} {value s t : Json} (h : Simple (.object node))

include h

theorem Simple.get? (hv : Fields.get? node keyword = some value) : PartKeyword Simple keyword value :=
  h.of_mem (Fields.mem_of_get? hv)

theorem Simple.get?_eq_none (hk : keyword ∉ partKeywords) : Fields.get? node keyword = none := by
  cases hv : Fields.get? node keyword with
  | none       => rfl
  | some value => exact absurd (h.get? hv).mem hk

theorem Simple.property {schemas : Fields} {name : String}
    (hp : Fields.get? node "properties" = some (.object schemas)) (hs : Fields.get? schemas name = some s) :
    Simple s := by
  obtain ⟨_, he, hp⟩ := (h.get? hp).exists_properties
  cases he
  exact hp name s (Fields.mem_of_get? hs)

theorem Simple.list {list : Fields} (hi : Fields.get? node "items" = some (.object list)) :
    Simple (.object list) := by
  obtain ⟨_, he, hl⟩ | ⟨_, he, _⟩ := (h.get? hi).exists_items
  case inr => cases he
  case inl =>
    cases he
    exact hl

theorem Simple.slot {slots : List Json} (hi : Fields.get? node "items" = some (.array slots))
    (hs : s ∈ slots) : Simple s := by
  obtain ⟨_, he, _⟩ | ⟨_, he, hp⟩ := (h.get? hi).exists_items
  case inl => cases he
  case inr =>
    cases he
    exact hp s hs

end Simple

section Simple

variable {s j : Json}

theorem Simple.subschema {node : Fields} (hs : (Json.object node).Subschema s) (h : Simple s) :
    Simple (.object node) := by
  induction hs with
  | self => exact h
  | inner hb hs ih =>
    obtain ⟨keyword, value, hm, ha⟩ := hb
    obtain hp | ⟨slots, rfl⟩ := (h.of_mem hm).of_appliedBy ha
    case inl => exact ih hp
    case inr => cases hs

theorem Simple.requiresNames (h : Simple s) : s.RequiresNames :=
  fun _ _ hs hm => absurd ((Simple.subschema hs h).of_mem hm).mem (by decide)

theorem Simple.passes_iff (h : Simple s) {part : Option Json} :
    (ofSchema s).Passes part ↔ ∀ j, part = some j → Accepts s j := by
  cases part with
  | none   => exact iff_of_true (silentOn_none_ofSchema h.requiresNames false) (by simp)
  | some j => simp [Accepts]

theorem Simple.accepts_of_canonical {t : Json} (hs : Simple s) (ht : Simple t)
    (h : s.canonical = t.canonical) : Accepts s j ↔ Accepts t j :=
  accepts_iff_of_canonical hs.signed ht.signed h

end Simple

section Demands

variable {node : Fields} {keyword : String} {value j : Json}

-- The keyword whose rule is that of a keyword in a node, where the flag of an exclusive bound may be set.
def ruleKeyword (node : Fields) (keyword : String) : String :=
  ((strictKeyword? keyword).filter (hasFlag node)).getD keyword

theorem ofKeywordIn?_ruleKeyword (hk : keyword ∈ partKeywords) :
    ofKeywordIn? node none keyword value = ofKeywordIn? [] none (ruleKeyword node keyword) value := by
  have hn (flag : String) : hasFlag [] flag = false := rfl
  obtain rfl | rfl | hs := strictKeyword?_cases keyword
  case inr.inr =>
    simp only [ruleKeyword, hs, Option.filter_none, Option.getD_none]
    simp only [partKeywords, leafKeywords, List.mem_cons, List.not_mem_nil, or_false] at hk
    rcases hk with rfl | rfl | rfl | rfl | rfl | rfl | rfl | rfl | rfl | rfl | rfl | rfl | rfl | rfl | rfl |
      rfl | rfl | rfl | rfl
    all_goals first
      | exact absurd hs (by decide)
      | rfl
      | cases value <;> rfl
  all_goals
    simp only [ruleKeyword, strictKeyword?, Option.filter_some]
    split
    all_goals
      cases value
      case number =>
        simp [*, ofKeywordIn?, Applicator.ofName?, ofPlainIn?, ofPlain?, JsonSchema.Rule.ofKeyword?,
          Json.asNumber?]
      all_goals rfl

theorem demands_of_accepts (hn : Fields.get? node "additionalItems" = none) (h : Accepts (.object node) j)
    (hk : keyword ∈ partKeywords) (hv : Fields.get? node keyword = some value) :
    Demands (ruleKeyword node keyword) value j := by
  have h := passes_ofSchema.mp h keyword value
  rw [ofAdditionalItems_eq, hn, Option.map_none, ofKeywordIn?_ruleKeyword hk] at h
  exact fun v ho => h v (Fields.mem_of_get? hv) ho

theorem Simple.accepts_iff (h : Simple (.object node)) :
    Accepts (.object node) j ↔
      ∀ keyword value, Fields.get? node keyword = some value →
        Demands (ruleKeyword node keyword) value j := by
  have hn : Fields.get? node "additionalItems" = none := h.get?_eq_none (by decide)
  constructor
  case mp  => exact fun ha keyword value hv => demands_of_accepts hn ha (h.get? hv).mem hv
  case mpr =>
    intro hd
    refine passes_ofSchema.mpr fun keyword value v hm ho => ?_
    rw [ofAdditionalItems_eq, hn, Option.map_none, ofKeywordIn?_ruleKeyword (h.of_mem hm).mem] at ho
    exact hd keyword value ((Json.wellFormed_object.mp h.wellFormed).left.get? hm) v ho

theorem demands_properties {schemas : Fields} :
    Demands "properties" (.object schemas) j ↔
      ∀ fields, j = .object fields → ∀ name s, (name, s) ∈ schemas →
        (ofSchema s).Passes (Fields.get? fields name) := by
  rw [demands_eq_some (ofKeywordIn?_properties ..)]
  simp only [passes_all, mem_ofProperties]
  constructor
  case mp =>
    intro h fields hf name s hm
    exact passes_atProperty.mp (h _ ⟨name, s, hm, rfl⟩) fields hf
  case mpr =>
    rintro h v ⟨name, s, hm, rfl⟩
    exact passes_atProperty.mpr fun fields hf => h fields hf name s hm

theorem demands_tuple {slots : List Json} :
    Demands "items" (.array slots) j ↔
      ∀ items, j = .array items → ∀ (i : Nat) s, slots[i]? = some s → (ofSchema s).Passes items[i]? := by
  have hk : ofKeywordIn? [] none "items" (.array slots) = some (all (ofTuple 0 slots)) := by
    simp [ofKeywordIn?, Applicator.ofName?, ofItemsIn?]
  rw [demands_eq_some hk]
  simp only [passes_all, mem_ofTuple, Nat.zero_add]
  constructor
  case mp =>
    intro h items hi i s hs
    exact passes_atIndex.mp (h _ ⟨i, s, hs, rfl⟩) items hi
  case mpr =>
    rintro h v ⟨i, s, hs, rfl⟩
    exact passes_atIndex.mpr fun items hi => h items hi i s hs

def only (keyword : String) (value : Json) : Json := .object [(keyword, value)]

theorem accepts_only (hk : keyword ∈ partKeywords) :
    Accepts (only keyword value) j ↔ Demands keyword value j := by
  have hr : ruleKeyword [(keyword, value)] keyword = keyword := by
    obtain rfl | rfl | hs := strictKeyword?_cases keyword
    case inr.inr => simp [ruleKeyword, hs]
    all_goals rfl
  have hn : Fields.get? [(keyword, value)] "additionalItems" = none := by
    rw [Fields.get?, if_neg]
    · rfl
    · rintro rfl
      exact absurd hk (by decide)
  constructor
  case mp  => exact fun h => hr ▸ demands_of_accepts hn h hk (by simp [Fields.get?])
  case mpr =>
    intro h
    refine passes_ofSchema.mpr fun k config v hm ho => ?_
    cases List.mem_singleton.mp hm
    rw [ofAdditionalItems_eq, hn, Option.map_none, ofKeywordIn?_ruleKeyword hk, hr] at ho
    exact h v ho

theorem simple_only (hk : PartKeyword Simple keyword value) (hw : value.WellFormed) (hs : value.Signed) :
    Simple (only keyword value) := by
  refine ⟨.object fun k config hm => ?_, Json.wellFormed_object.mpr ⟨List.pairwise_singleton _ _, ?_⟩, ?_⟩
  case refine_1 =>
    cases List.mem_singleton.mp hm
    exact hk.imp fun _ h => h.partwise
  case refine_2 =>
    intro k config hm
    cases List.mem_singleton.mp hm
    exact hw
  case refine_3 =>
    intro negative magnitude ho
    cases ho with
    | field hm ho =>
      cases List.mem_singleton.mp hm
      exact hs negative magnitude ho

theorem Simple.only (h : Simple (.object node)) (hv : Fields.get? node keyword = some value) :
    Simple (Merge.only keyword value) :=
  simple_only (h.get? hv) (h.wellFormed.get? hv) (h.signed.field (Fields.mem_of_get? hv))

theorem demands_iff_of_canonical {other : Json} (hv : value.Signed) (ho : other.Signed)
    (h : value.canonical = other.canonical) : Demands keyword value j ↔ Demands keyword other j := by
  have hc {value : Json} (hv : value.Signed) :
      Demands keyword value j ↔ Demands keyword value.canonical j := by
    have hl : ∀ s : Json, s.AppliedBy keyword value → Likened s := fun s hs => likened (hv.occurs hs.occurs)
    have hr : Option.Rel Alike (ofKeywordIn? [] none keyword value)
        (ofKeywordIn? (Json.canonicalFields []) none keyword value.canonical) :=
      alike_ofKeywordIn? .none hv hl
    simp only [Json.canonicalFields] at hr
    unfold Demands
    generalize ofKeywordIn? [] none keyword value = v at hr ⊢
    generalize ofKeywordIn? [] none keyword value.canonical = w at hr ⊢
    cases hr with
    | none   => simp
    | some h => simpa using h.passes_iff
  rw [hc hv, hc ho, h]

end Demands

end JsonSchema.Merge
