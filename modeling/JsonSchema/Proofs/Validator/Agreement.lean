import JsonSchema.Proofs.Merge.Meaning
import JsonSchema.Proofs.Validator.Satisfaction

namespace JsonSchema

open Validator

namespace Validator

variable {v : Validator} {members : List Validator} {j s : Json} {node : Fields} {keyword : String}
  {config : Json} {additionalItems : Option Validator}

section Passes

attribute [local simp] check

theorem passes_contains (hj : Json.isEmpty (some j) = false) :
    Passes (contains s v) (some j) ↔
      ∀ items, j = .array items → ∃ part ∈ items, v.Passes (some part) := by
  simp only [Passes, check, filled?_eq_some hj, Option.bind_some]
  cases j <;> simp [Json.asArray?]

theorem passes_atIndex {index : Nat} :
    Passes (within (atIndex index) v) (some j) ↔
      ∀ items, j = .array items → v.Passes items[index]? := by
  have h {v : Validator} : Passes (atIndex index v) (some j) ↔
      ∀ items, j = .array items → v.Passes items[index]? := by
    simp only [Passes, check, focus_false, itemOf?]
    cases j <;> simp [Json.asArray?]
  rw [passes_within (h.mpr fun _ _ => passes_accept), h]

theorem countPassing_active (members : List Validator) (value : Option Json) :
    countPassing (active members) value + members.countP isNull =
      members.countP fun v => (v.check false value).isNone := by
  induction members with
  | nil => rfl
  | cons v vs ih =>
    by_cases hv : v.isNull = true
    case pos =>
      obtain rfl := eq_accept_of_isNull hv
      simp only [active, List.filter_cons, List.countP_cons, isNull, check] at ih ⊢
      simp at ih ⊢
      omega
    case neg =>
      simp only [active, List.filter_cons, List.countP_cons, hv] at ih ⊢
      simp [countPassing] at ih ⊢
      omega

theorem passes_one (hj : Json.isEmpty (some j) = false) :
    Passes (one members) (some j) ↔
      members = [] ∨ members.countP (fun v => (v.check false (some j)).isNone) = 1 := by
  have hc := countPassing_active members (some j)
  simp only [one]
  split
  case isTrue h =>
    rw [Bool.and_eq_true, List.isEmpty_iff, decide_eq_true_eq] at h
    rw [h.left, countPassing, Nat.zero_add] at hc
    refine iff_of_true passes_accept ?_
    cases members with
    | nil       => exact .inl rfl
    | cons v vs =>
      have hv : v.isNull = true := by simpa using List.filter_eq_nil_iff.mp h.left v List.mem_cons_self
      have := List.countP_cons_of_pos (l := vs) hv
      omega
  case isFalse h =>
    by_cases ho : members.countP (fun v => (v.check false (some j)).isNone) = 1
    case pos => simp [Passes, hc, ho]
    case neg =>
      have hf : (failWith "oneOf" (some j) .oneOf (failures (active members) false (some j) ++
          inverseOfPassing (active members) (some j))).isNone = false :=
        failWith_isNone hj
      have hm : members ≠ [] := by
        rintro rfl
        exact h rfl
      simp [Passes, hc, ho, hm, ← Option.isNone_iff_eq_none, hf]

end Passes

end Validator

namespace Json

theorem Full.item {items : List Json} {part : Json} (h : (Json.array items).Full) (hm : part ∈ items) :
    part.Full := by
  cases h
  case array _ h => exact h part hm

theorem Full.field {fields : Fields} {name : String} {part : Json} (h : (Json.object fields).Full)
    (hm : (name, part) ∈ fields) : part.Full := by
  cases h
  case object _ h => exact h name part hm

-- In a value of which no part is empty, a property that is there has a value.
theorem Full.hasValue_iff {fields : Fields} (h : (Json.object fields).Full) (name : String) :
    Json.hasValue (Fields.get? fields name) = true ↔ Fields.contains fields name = true := by
  unfold Fields.contains
  cases hg : Fields.get? fields name with
  | none      => simp [Json.hasValue]
  | some part => simp [(h.field (Fields.mem_of_get? hg)).hasValue]

end Json

theorem hasNames_iff {fields : Fields} (h : (Json.object fields).Full) (names : List Json) :
    HasNames names fields ↔ HasValues names (.object fields) := by
  simp only [HasNames, HasValues, Json.object.injEq, ← h.hasValue_iff]
  constructor
  case mp  => rintro hn _ rfl name hm; exact hn name hm
  case mpr => exact fun hn name hm => hn fields rfl name hm

theorem exactlyOne_cons {P : Json → Json → Prop} {s : Json} {members : List Json} {j : Json} :
    ExactlyOne P (s :: members) j ↔
      P s j ∧ (∀ t ∈ members, ¬ P t j) ∨ ¬ P s j ∧ ExactlyOne P members j := by
  constructor
  case mp =>
    rintro ⟨front, t, back, he, ht, hn⟩
    cases front with
    | nil =>
      cases he
      exact .inl ⟨ht, hn⟩
    | cons first front =>
      cases he
      exact .inr ⟨hn s List.mem_cons_self, front, t, back, rfl, ht,
        fun u hu => hn u (List.mem_cons_of_mem _ hu)⟩
  case mpr =>
    rintro (⟨hs, hn⟩ | ⟨hs, front, t, back, rfl, ht, hn⟩)
    · exact ⟨[], s, members, rfl, hs, hn⟩
    · exact ⟨s :: front, t, back, rfl, ht, List.forall_mem_cons.mpr ⟨hs, hn⟩⟩

-- The validator of a schema passes the values that a relation has with the schema, and has nothing to
-- say about a value that is absent.
structure Agrees (P : Json → Json → Prop) (s : Json) : Prop where
  silentOn   : SilentOn none (ofSchema s)
  passes_iff : ∀ part, part.Full → ((ofSchema s).Passes (some part) ↔ P s part)

section Keywords

variable {P : Json → Json → Prop} {s j : Json} {node : Fields} {keyword : String} {config : Json}

theorem Agrees.passes_iff_forall (h : Agrees P s) {value : Option Json}
    (hv : ∀ part, value = some part → part.Full) :
    (ofSchema s).Passes value ↔ ∀ part, value = some part → P s part := by
  cases value with
  | none      => simp [Passes, h.silentOn false]
  | some part => simpa using h.passes_iff part (hv part rfl)

theorem passes_properties {schemas : Fields} (hj : j.Full)
    (hs : ∀ name s, (name, s) ∈ schemas → Agrees P s) :
    (all (ofProperties schemas)).Passes (some j) ↔
      ∀ fields, j = .object fields → ∀ name s part, (name, s) ∈ schemas →
        Fields.get? fields name = some part → P s part := by
  rw [passes_all]
  simp only [mem_ofProperties]
  constructor
  case mp =>
    rintro h fields rfl name s part hm hg
    have h := passes_atProperty.mp (h _ ⟨name, s, hm, rfl⟩) fields rfl
    exact ((hs name s hm).passes_iff part (hj.field (Fields.mem_of_get? hg))).mp (hg ▸ h)
  case mpr =>
    rintro h v ⟨name, s, hm, rfl⟩
    rw [passes_atProperty]
    rintro fields rfl
    refine ((hs name s hm).passes_iff_forall fun part hg => ?_).mpr fun part hg => ?_
    case refine_1 => exact hj.field (Fields.mem_of_get? hg)
    case refine_2 => exact h fields rfl name s part hm hg

theorem passes_tuple {slots : List Json} {additionalItems : Option Json} (hj : j.Full)
    (hs : ∀ s ∈ slots, Agrees P s) (ha : ∀ s, additionalItems = some s → Agrees P s) :
    (all (ofTuple 0 slots ++
      ((additionalItems.map ofSchema).map (within (everyItem slots.length))).toList)).Passes (some j) ↔
    ∀ items, j = .array items →
      (∀ (i : Nat) s part, slots[i]? = some s → items[i]? = some part → P s part) ∧
      ∀ s, additionalItems = some s → ∀ part ∈ items.drop slots.length, P s part := by
  rw [passes_all]
  simp only [List.mem_append, mem_ofTuple, Nat.zero_add, Option.mem_toList, Option.map_eq_some_iff]
  constructor
  case mp =>
    rintro h items rfl
    constructor
    case left =>
      intro i s part hm hg
      have h := passes_atIndex.mp (h _ (.inl ⟨i, s, hm, rfl⟩)) items rfl
      have hs := hs s (List.mem_of_getElem? hm)
      exact (hs.passes_iff part (hj.item (List.mem_of_getElem? hg))).mp (hg ▸ h)
    case right =>
      intro s hm part hp
      have h := passes_everyItem_from.mp (h _ (.inr ⟨_, ⟨s, hm, rfl⟩, rfl⟩)) items rfl part hp
      exact ((ha s hm).passes_iff part (hj.item (List.mem_of_mem_drop hp))).mp h
  case mpr =>
    rintro h v (⟨i, s, hm, rfl⟩ | ⟨_, ⟨s, hm, rfl⟩, rfl⟩)
    · rw [passes_atIndex]
      rintro items rfl
      have hs := hs s (List.mem_of_getElem? hm)
      refine (hs.passes_iff_forall fun part hg => ?_).mpr fun part hg => ?_
      case refine_1 => exact hj.item (List.mem_of_getElem? hg)
      case refine_2 => exact (h items rfl).left i s part hm hg
    · rw [passes_everyItem_from]
      rintro items rfl part hp
      exact ((ha s hm).passes_iff part (hj.item (List.mem_of_mem_drop hp))).mpr
        ((h items rfl).right s hm part hp)

theorem passes_oneOf {members : List Json} (hj : j.Full) (hs : ∀ s ∈ members, Agrees P s) :
    (one (members.map ofSchema)).Passes (some j) ↔ members = [] ∨ ExactlyOne P members j := by
  rw [passes_one hj.isEmpty, List.map_eq_nil_iff, List.countP_map]
  refine or_congr Iff.rfl ?_
  induction members with
  | nil            => simp [ExactlyOne]
  | cons s rest ih =>
    have ⟨h, hr⟩ := List.forall_mem_cons.mp hs
    have hp : ((ofSchema s).check false (some j)).isNone = true ↔ P s j := by
      rw [← h.passes_iff j hj, Passes, Option.isNone_iff_eq_none]
    have hz : rest.countP ((fun v => (v.check false (some j)).isNone) ∘ ofSchema) = 0 ↔
        ∀ t ∈ rest, ¬ P t j := by
      rw [List.countP_eq_zero]
      refine forall₂_congr fun t ht => not_congr ?_
      rw [← (hr t ht).passes_iff j hj, Passes, Function.comp_apply, Option.isNone_iff_eq_none]
    rw [exactlyOne_cons, ← ih hr, ← hz, ← hp, List.countP_cons, Function.comp_apply]
    cases ((ofSchema s).check false (some j)).isNone <;> simp

theorem meets_iff {fields : Fields} {d : Json} (hj : (Json.object fields).Full) (hd : Agrees P d) :
    (∀ m, Merge.dependencyOf? d = some m → Meets fields m) ↔ DependencyHolds P fields d := by
  cases d <;> simp only [Merge.dependencyOf?, Option.some.injEq, forall_eq', reduceCtorEq,
    false_imp_iff, implies_true, DependencyHolds]
  case array names => rw [Merge.meets_names, hasNames_iff hj]
  case object      => exact hd.passes_iff _ hj
  case bool        => exact hd.passes_iff _ hj

theorem passes_dependencies {rules : Fields} (hj : j.Full)
    (hs : ∀ name d, (name, d) ∈ rules → Agrees P d) :
    (dependent (ofDependencies rules)).Passes (some j) ↔
      ∀ fields, j = .object fields → ∀ name d, (name, d) ∈ rules →
        Fields.contains fields name = true → DependencyHolds P fields d := by
  rw [passes_dependent]
  refine forall₂_congr fun fields hf => ?_
  subst hf
  simp only [Merge.mem_ofDependencies, hj.hasValue_iff]
  constructor
  case mp =>
    exact fun h name d hd hc => (meets_iff hj (hs name d hd)).mp fun m hm => h name m ⟨d, hd, hm⟩ hc
  case mpr =>
    rintro h name m ⟨d, hd, hm⟩ hc
    exact (meets_iff hj (hs name d hd)).mpr (h name d hd hc) m hm

theorem passes_anyOf {members : List Json} (hj : j.Full) (hs : ∀ s ∈ members, Agrees P s) :
    (any (members.map ofSchema)).Passes (some j) ↔ members = [] ∨ ∃ s ∈ members, P s j := by
  cases members with
  | nil            => exact iff_of_true passes_accept (.inl rfl)
  | cons first rest =>
    rw [passes_any (by simp) hj.isEmpty]
    constructor
    case mp =>
      rintro ⟨v, hv, h⟩
      obtain ⟨s, hm, rfl⟩ := List.mem_map.mp hv
      exact .inr ⟨s, hm, ((hs s hm).passes_iff j hj).mp h⟩
    case mpr =>
      intro h
      obtain ⟨s, hm, h⟩ := h.resolve_left (by simp)
      exact ⟨_, List.mem_map_of_mem hm, ((hs s hm).passes_iff j hj).mpr h⟩

theorem obeys_rule {r : Rule} (h : ofKeyword? keyword config = some (.rule r)) :
    Obeys keyword config j ↔ (Validator.rule r).Passes (some j) := by
  simp [Obeys, h, isValid_iff]

theorem passes_plain (hj : j.Full) (ha : Applicator.ofName? keyword = none) :
    (∀ v, ofPlainIn? node keyword config = some v → v.Passes (some j)) ↔
      PlainHolds node keyword config j := by
  unfold PlainHolds
  split
  case h_1 limit =>
    simp only [ofPlainIn?, Option.some.injEq, forall_eq']
    cases hasFlag node "exclusiveMinimum"
    case false => exact (obeys_rule rfl).symm
    case true  => exact (obeys_rule rfl).symm
  case h_2 limit =>
    simp only [ofPlainIn?, Option.some.injEq, forall_eq']
    cases hasFlag node "exclusiveMaximum"
    case false => exact (obeys_rule rfl).symm
    case true  => exact (obeys_rule rfl).symm
  case h_3 names =>
    simp only [ofPlainIn?, Option.some.injEq, forall_eq', passes_requiredNames]
    constructor
    case mp =>
      rintro h fields rfl
      exact (hasNames_iff hj names).mpr h
    case mpr =>
      rintro h fields rfl
      exact (hasNames_iff hj names).mp (h fields rfl) fields rfl
  case h_4 _ _ hmin hmax hreq =>
    have ho : ofKeyword? keyword config = ofPlain? keyword config := by
      simp only [ofKeyword?, ha]
    have hp : ofPlainIn? node keyword config = ofPlain? keyword config := by
      unfold ofPlainIn?
      split
      case h_1 | h_2 => rfl
      case h_3 limit => exact (hmin limit rfl rfl).elim
      case h_4 limit => exact (hmax limit rfl rfl).elim
      case h_5 names => exact (hreq names rfl rfl).elim
      case h_6       => rfl
    rw [Obeys, hp, ho]
    simp only [isValid_iff]

theorem keywordHolds_iff (hj : j.Full) (hs : ∀ s : Json, s.Below node → Agrees P s)
    (hm : (keyword, config) ∈ node) :
    (∀ v, ofKeywordIn? node (ofAdditionalItems node) keyword config = some v → v.Passes (some j)) ↔
      KeywordHolds P node keyword config j := by
  have hb {s : Json} (h : s.AppliedBy keyword config) : Agrees P s := hs s ⟨keyword, config, hm, h⟩
  simp only [ofKeywordIn?, KeywordHolds]
  cases ha : Applicator.ofName? keyword with
  | none => exact passes_plain hj ha
  | some a =>
    obtain rfl := Applicator.eq_name ha
    cases a
    case properties =>
      cases config <;> simp only [ofPropertiesIn?, Option.some.injEq, forall_eq', reduceCtorEq,
        false_imp_iff, implies_true]
      exact passes_properties hj fun name s h => hb (.property h)
    case additionalProperties =>
      simp only [Option.some.injEq, forall_eq', passes_otherProperties]
      refine forall₂_congr fun fields hf => forall₄_congr fun name part hp _ => ?_
      subst hf
      exact (hb .otherProperties).passes_iff part (hj.field hp)
    case items =>
      cases config <;> simp only [ofItemsIn?, Option.some.injEq, forall_eq', reduceCtorEq,
        false_imp_iff, implies_true]
      case array slots =>
        rw [ofAdditionalItems_eq]
        refine passes_tuple hj (fun s h => hb (.slot h)) fun s h => ?_
        exact hs s ⟨_, s, Fields.mem_of_get? h, .otherItems⟩
      all_goals
        rw [passes_everyItem]
        refine forall₂_congr fun items hi => forall₂_congr fun part hp => ?_
        subst hi
        exact (hb .items).passes_iff part (hj.item hp)
    case contains =>
      simp only [Option.some.injEq, forall_eq', passes_contains hj.isEmpty]
      refine forall₂_congr fun items hi => exists_congr fun part => and_congr_right fun hp => ?_
      subst hi
      exact (hb .contains).passes_iff part (hj.item hp)
    case dependencies =>
      cases config <;> simp only [ofDependenciesIn?, Option.some.injEq, forall_eq', reduceCtorEq,
        false_imp_iff, implies_true]
      exact passes_dependencies hj fun name d h => hb (.dependency h)
    case allOf =>
      cases config <;> simp only [ofMembersIn?, Option.map_some, Option.map_none, Option.some.injEq,
        forall_eq', reduceCtorEq, false_imp_iff, implies_true]
      rw [ofSchemas_eq_map, passes_all, List.forall_mem_map]
      exact forall₂_congr fun s h => (hb (.allOf h)).passes_iff j hj
    case anyOf =>
      cases config <;> simp only [ofMembersIn?, Option.map_some, Option.map_none, Option.some.injEq,
        forall_eq', reduceCtorEq, false_imp_iff, implies_true]
      rw [ofSchemas_eq_map]
      exact passes_anyOf hj fun s h => hb (.anyOf h)
    case oneOf =>
      cases config <;> simp only [ofMembersIn?, Option.map_some, Option.map_none, Option.some.injEq,
        forall_eq', reduceCtorEq, false_imp_iff, implies_true]
      rw [ofSchemas_eq_map]
      exact passes_oneOf hj fun s h => hb (.oneOf h)
    case not =>
      simp only [Option.some.injEq, forall_eq', passes_negation (definite_ofSchema config) hj.isEmpty]
      exact not_congr ((hb .not).passes_iff j hj)

end Keywords

-- By induction on the schema: the validator of a schema passes the values that satisfy it.
theorem agrees_satisfies {schema : Json} (h : schema.RequiresNames) : Agrees Satisfies schema := by
  refine ⟨silentOn_none_ofSchema h, ?_⟩
  induction schema using Json.schema_induct
  case bool b =>
    intro j hj
    rw [satisfies_bool]
    cases b
    case false => exact iff_of_false (passes_falseSchema hj.isEmpty) (by simp)
    case true  => exact iff_of_true passes_accept rfl
  case object node ih =>
    intro j hj
    have hs (s : Json) (hs : s.Below node) : Agrees Satisfies s :=
      ⟨silentOn_none_ofSchema (h.below hs), ih s hs (h.below hs)⟩
    rw [satisfies_object, passes_ofSchema]
    refine forall₂_congr fun keyword config => ?_
    constructor
    case mp  => exact fun h hm => (keywordHolds_iff hj hs hm).mp fun v => h v hm
    case mpr => exact fun h v hm => (keywordHolds_iff hj hs hm).mpr (h hm) v
  case other s hb ho =>
    intro j hj
    cases s
    case bool b      => exact absurd rfl (hb b)
    case object node => exact absurd rfl (ho node)
    all_goals exact iff_of_true passes_accept (by simp [Satisfies])

-- No part of the value is empty, and no `required` of the schema is a truth value: all other keywords have
-- nothing to say about a value that is absent, so the validator of a property may be asked about properties
-- that an object does not have.
theorem isValid_ofSchema_iff {schema j : Json} (h : schema.RequiresNames) (hj : j.Full) :
    (ofSchema schema).isValid j = true ↔ Satisfies schema j := by
  rw [isValid_iff]
  exact (agrees_satisfies h).passes_iff j hj

def orderSchema : Json :=
  .object [
    ("dependencies", .object [("items", .array [.string "total"])]),
    ("oneOf", .array [
      .object [("required", .array [.string "items"])],
      .object [("required", .array [.string "note"])]]),
    ("properties", .object [
      ("items", .object [
        ("additionalItems", .object [("type", .string "boolean")]),
        ("items", .array [
          .object [("type", .string "string")],
          .object [("exclusiveMinimum", .bool true), ("minimum", .ofNat 1)]])])])]

theorem satisfies_orderSchema :
    let order := Json.object [
      ("items", .array [.string "pen", .ofNat 2, .bool true]), ("total", .ofNat 3)]
    orderSchema.RequiresNames ∧ order.Full ∧ Satisfies orderSchema order := by
  intro order
  have hr : orderSchema.RequiresNames := by
    have hall : (orderSchema.nodes .root).all fun entry =>
        (entry.2.asObject?.getD []).all fun field => field.1 != "required" || field.2.isArray := by
      decide +kernel
    refine Json.requiresNames_of_occurs fun node b ho hm => ?_
    obtain ⟨p, hp⟩ := ho.exists_mem_nodes .root
    have := List.all_eq_true.mp (List.all_eq_true.mp hall _ hp) _ hm
    simp [Json.isArray] at this
  have hf : order.Full := by
    refine .object (by simp) fun key j hm => ?_
    simp only [List.mem_cons, Prod.mk.injEq, List.not_mem_nil, or_false] at hm
    rcases hm with ⟨_, rfl⟩ | ⟨_, rfl⟩
    · refine .array (by simp) fun j hm => ?_
      simp only [List.mem_cons, List.not_mem_nil, or_false] at hm
      rcases hm with rfl | rfl | rfl
      · exact .string (by decide)
      · exact .number _
      · exact .bool true
    · exact .number _
  exact ⟨hr, hf, (isValid_ofSchema_iff hr hf).mp (by decide +kernel)⟩

end JsonSchema
