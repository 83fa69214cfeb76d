import JsonSchema.Proofs.Validator.Report

namespace JsonSchema

open Validator
open Failure (Step)

-- A schema is violated by a value: some constraint, which is at a place in the schema, by the part of
-- the value at a path, with what is to be reported about that part. An absent property is at a path.
inductive Violates : (schema value : Json) → (place path : List Step) → Failure → Prop
  | never {j} :
    Json.isEmpty (some j) = false → Violates (.bool false) j [] [] .falseSchema
  | rule {node keyword config r j} :
    (keyword, config) ∈ node → Applicator.ofName? keyword = none →
      ofPlainIn? node keyword config = some (.rule r) → Json.isEmpty (some j) = false →
      r.holds j = false → Violates (.object node) j [.property keyword] [] (.rule r j)
  | required {node names i name fields} :
    ("required", .array names) ∈ node → names[i]? = some (.string name) →
      Json.hasValue (Fields.get? fields name) = false →
      Violates (.object node) (.object fields) [.property "required", .item i] [.property name]
        .required
  | property {node schemas name s fields part place path record} :
    ("properties", .object schemas) ∈ node → (name, s) ∈ schemas →
      Fields.get? fields name = some part → Violates s part place path record →
      Violates (.object node) (.object fields) (.property "properties" :: .property name :: place)
        (.property name :: path) record
  | otherProperty {node s name fields part place path record} :
    ("additionalProperties", s) ∈ node → name ∉ knownNames node → (name, part) ∈ fields →
      Violates s part place path record →
      Violates (.object node) (.object fields) (.property "additionalProperties" :: place)
        (.property name :: path) record
  | item {node s i items part place path record} :
    ("items", s) ∈ node → items[i]? = some part → Violates s part place path record →
      Violates (.object node) (.array items) (.property "items" :: place) (.item i :: path) record
  | slot {node slots s i items part place path record} :
    ("items", .array slots) ∈ node → slots[i]? = some s → items[i]? = some part →
      Violates s part place path record →
      Violates (.object node) (.array items) (.property "items" :: .item i :: place) (.item i :: path)
        record
  | otherItem {node slots s i items part place path record} :
    ("items", .array slots) ∈ node → Fields.get? node "additionalItems" = some s →
      slots.length ≤ i → items[i]? = some part → Violates s part place path record →
      Violates (.object node) (.array items) (.property "additionalItems" :: place) (.item i :: path)
        record
  | member {node members s i j place path record} :
    ("allOf", .array members) ∈ node → members[i]? = some s → Violates s j place path record →
      Violates (.object node) j (.property "allOf" :: .item i :: place) path record

-- The violations of a kind, below a place and a path.
def Under (steps parts : List Step) (C : (place path : List Step) → Failure → Prop)
    (place path : List Step) (record : Failure) : Prop :=
  ∃ inner below, place = steps ++ inner ∧ path = parts ++ below ∧ C inner below record

def ViolatesPart (s : Json) (part : Option (Option Json)) (steps parts : List Step)
    (place path : List Step) (record : Failure) : Prop :=
  ∃ j, part = some (some j) ∧ Under steps parts (Violates s j) place path record

def LacksName (j : Json) (entry : Json × Nat) (place path : List Step) (record : Failure) : Prop :=
  ∃ name fields, entry.1 = .string name ∧ j = .object fields ∧
    Json.hasValue (Fields.get? fields name) = false ∧
      place = [.property "required", .item entry.2] ∧ path = [.property name] ∧ record = .required

def PlainViolates (node : Fields) (keyword : String) (config j : Json) (place path : List Step)
    (record : Failure) : Prop :=
  (∃ r, ofPlainIn? node keyword config = some (.rule r) ∧ Json.isEmpty (some j) = false ∧
    r.holds j = false ∧ place = [.property keyword] ∧ path = [] ∧ record = .rule r j) ∨
  ∃ names, keyword = "required" ∧ config = .array names ∧
    ∃ entry ∈ names.zipIdx, LacksName j entry place path record

def ViolatesBy (node : Fields) (keyword : String) (config j : Json) (place path : List Step)
    (record : Failure) : Prop :=
  match Applicator.ofName? keyword, config with
  | none, config => PlainViolates node keyword config j place path record
  | some .properties, .object schemas =>
    ∃ field ∈ schemas, ViolatesPart field.2 (propertyOf? field.1 (some j))
      [.property "properties", .property field.1] [.property field.1] place path record
  | some .additionalProperties, s =>
    ∃ field ∈ propertiesBut (knownNames node) (some j), ViolatesPart s (some (some field.2))
      [.property "additionalProperties"] [.property field.1] place path record
  | some .items, .array slots =>
    (∃ entry ∈ slots.zipIdx, ViolatesPart entry.1 (itemOf? entry.2 (some j))
      [.property "items", .item entry.2] [.item entry.2] place path record) ∨
    ∃ s ∈ Fields.get? node "additionalItems", ∃ entry ∈ itemsFrom slots.length (some j),
      ViolatesPart s (some (some entry.1)) [.property "additionalItems"] [.item entry.2]
        place path record
  | some .items, s =>
    ∃ entry ∈ itemsFrom 0 (some j),
      ViolatesPart s (some (some entry.1)) [.property "items"] [.item entry.2] place path record
  | some .allOf, .array members =>
    ∃ entry ∈ members.zipIdx, ViolatesPart entry.1 (some (some j))
      [.property "allOf", .item entry.2] [] place path record
  | _, _ => False

theorem mem_itemsFrom {start i : Nat} {j part : Json} :
    (part, i) ∈ itemsFrom start (some j) ↔
      ∃ items, j = .array items ∧ start ≤ i ∧ items[i]? = some part := by
  cases j <;> simp [itemsFrom, Json.asArray?]
  case array items =>
    simp only [List.mem_iff_getElem?, List.getElem?_drop, List.getElem?_zipIdx,
      Option.map_eq_some_iff, Prod.mk.injEq, Nat.zero_add]
    constructor
    case mp =>
      rintro ⟨k, _, hk, rfl, rfl⟩
      exact ⟨Nat.le_add_right start k, hk⟩
    case mpr =>
      rintro ⟨hl, hi⟩
      exact ⟨i - start, part, by rwa [Nat.add_sub_cancel' hl], rfl, Nat.add_sub_cancel' hl⟩

theorem mem_propertiesBut {known : List String} {name : String} {j part : Json} :
    (name, part) ∈ propertiesBut known (some j) ↔
      ∃ fields, j = .object fields ∧ (name, part) ∈ fields ∧ name ∉ known := by
  cases j <;> simp [propertiesBut, Json.asObject?]

theorem propertyOf?_eq_some {name : String} {j part : Json} :
    propertyOf? name (some j) = some (some part) ↔
      ∃ fields, j = .object fields ∧ Fields.get? fields name = some part := by
  cases j <;> simp [propertyOf?, Json.asObject?]

theorem itemOf?_eq_some {i : Nat} {j part : Json} :
    itemOf? i (some j) = some (some part) ↔ ∃ items, j = .array items ∧ items[i]? = some part := by
  cases j <;> simp [itemOf?, Json.asArray?]

theorem violates_object {node : Fields} {j : Json} {place path : List Step} {record : Failure} :
    Violates (.object node) j place path record ↔
      ∃ field ∈ node, ViolatesBy node field.1 field.2 j place path record := by
  constructor
  case mp =>
    intro h
    cases h with
    | @rule _ keyword config r _ hm ha hr he hh =>
      refine ⟨(keyword, config), hm, ?_⟩
      simp only [ViolatesBy, ha]
      exact .inl ⟨r, hr, he, hh, rfl, rfl, rfl⟩
    | @required _ names i name fields hm hn hv =>
      exact ⟨_, hm, .inr ⟨names, rfl, rfl, (.string name, i), List.mem_zipIdx_iff_getElem?.mpr hn,
        name, fields, rfl, rfl, hv, rfl, rfl, rfl⟩⟩
    | property hm hs hg h =>
      exact ⟨_, hm, _, hs, _, propertyOf?_eq_some.mpr ⟨_, rfl, hg⟩, _, _, rfl, rfl, h⟩
    | otherProperty hm hn hp h =>
      exact ⟨_, hm, _, mem_propertiesBut.mpr ⟨_, rfl, hp, hn⟩, _, rfl, _, _, rfl, rfl, h⟩
    | @item _ s i items part place path _ hm hi h =>
      refine ⟨_, hm, ?_⟩
      have hb : ∃ entry ∈ itemsFrom 0 (some (.array items)),
          ViolatesPart s (some (some entry.1)) [.property "items"] [.item entry.2]
            (.property "items" :: place) (.item i :: path) record :=
        ⟨(part, i), mem_itemsFrom.mpr ⟨_, rfl, Nat.zero_le _, hi⟩, _, rfl, _, _, rfl, rfl, h⟩
      cases s
      case array => cases h
      all_goals exact hb
    | slot hm hs hi h =>
      exact ⟨_, hm, .inl ⟨(_, _), List.mem_zipIdx_iff_getElem?.mpr hs, _,
        itemOf?_eq_some.mpr ⟨_, rfl, hi⟩, _, _, rfl, rfl, h⟩⟩
    | otherItem hm hs hl hi h =>
      exact ⟨_, hm, .inr ⟨_, hs, (_, _), mem_itemsFrom.mpr ⟨_, rfl, hl, hi⟩, _, rfl, _, _, rfl,
        rfl, h⟩⟩
    | member hm hs h =>
      exact ⟨_, hm, (_, _), List.mem_zipIdx_iff_getElem?.mpr hs, _, rfl, _, _, rfl, rfl, h⟩
  case mpr =>
    rintro ⟨⟨keyword, config⟩, hm, h⟩
    simp only [ViolatesBy] at h
    cases ha : Applicator.ofName? keyword with
    | none =>
      rw [ha] at h
      rcases h with ⟨r, hr, he, hh, rfl, rfl, rfl⟩ |
        ⟨names, rfl, rfl, ⟨_, i⟩, hi, name, fields, rfl, rfl, hv, rfl, rfl, rfl⟩
      case inl => exact .rule hm ha hr he hh
      case inr => exact .required hm (List.mem_zipIdx_iff_getElem?.mp hi) hv
    | some a =>
      obtain rfl := Applicator.eq_name ha
      cases a
      case properties =>
        cases config <;> try exact h.elim
        case object schemas =>
          obtain ⟨⟨name, s⟩, hs, part, hp, _, _, rfl, rfl, h⟩ := h
          obtain ⟨fields, rfl, hg⟩ := propertyOf?_eq_some.mp hp
          exact .property hm hs hg h
      case additionalProperties =>
        obtain ⟨⟨name, part⟩, hp, _, ⟨⟩, _, _, rfl, rfl, h⟩ := h
        obtain ⟨fields, rfl, hp, hn⟩ := mem_propertiesBut.mp hp
        exact .otherProperty hm hn hp h
      case items =>
        have hb (h : ∃ entry ∈ itemsFrom 0 (some j),
            ViolatesPart config (some (some entry.1)) [.property "items"] [.item entry.2] place path
              record) : Violates (.object node) j place path record := by
          obtain ⟨⟨part, i⟩, hp, _, ⟨⟩, _, _, rfl, rfl, hv⟩ := h
          obtain ⟨items, rfl, _, hi⟩ := mem_itemsFrom.mp hp
          exact .item hm hi hv
        cases config
        case array slots =>
          rcases h with ⟨⟨s, i⟩, hs, part, hp, _, _, rfl, rfl, h⟩ |
            ⟨s, hs, ⟨part, i⟩, hp, _, ⟨⟩, _, _, rfl, rfl, h⟩
          case inl =>
            obtain ⟨items, rfl, hi⟩ := itemOf?_eq_some.mp hp
            exact .slot hm (List.mem_zipIdx_iff_getElem?.mp hs) hi h
          case inr =>
            obtain ⟨items, rfl, hl, hi⟩ := mem_itemsFrom.mp hp
            exact .otherItem hm hs hl hi h
        all_goals exact hb h
      case allOf =>
        cases config <;> try exact h.elim
        case array members =>
          obtain ⟨⟨s, i⟩, hs, _, ⟨⟩, _, _, rfl, rfl, h⟩ := h
          exact .member hm (List.mem_zipIdx_iff_getElem?.mp hs) h
      all_goals exact h.elim

def Apart (C D : (place path : List Step) → Failure → Prop) : Prop :=
  ∀ place path left right, C place path left → ¬ D place path right

theorem apart_under {C D : (place path : List Step) → Failure → Prop}
    {steps others parts rests : List Step} (hs : steps.length = others.length)
    (hp : parts.length = rests.length) (hne : steps ≠ others ∨ parts ≠ rests) :
    Apart (Under steps parts C) (Under others rests D) := by
  rintro place path left right ⟨_, _, rfl, rfl, _⟩ ⟨_, _, hplace, hpath, _⟩
  cases hne
  case inl hne => exact hne (List.append_inj_left hplace hs)
  case inr hne => exact hne (List.append_inj_left hpath hp)

-- The keyword that looks after the violations at a place.
def owner : List Step → Option String
  | .property keyword :: _ => some (if keyword = "additionalItems" then "items" else keyword)
  | _                      => none

theorem requiredNames_ne_rule (names : List Json) (r : Rule) : requiredNames names ≠ .rule r := by
  unfold requiredNames all
  split
  case h_1 => simp
  case h_3 => simp
  case h_2 v h =>
    have hv : v ∈ active _ := h ▸ List.mem_singleton_self v
    obtain ⟨name, _, rfl⟩ := List.mem_map.mp (List.mem_filter.mp hv).left
    simp [within]

theorem PlainViolates.owner_eq {node : Fields} {keyword : String} {config j : Json}
    {place path : List Step} {record : Failure}
    (h : PlainViolates node keyword config j place path record) : owner place = some keyword := by
  rcases h with ⟨r, hr, _, _, rfl, _, _⟩ | ⟨_, rfl, _, _, _, _, _, _, _, _, rfl, _⟩
  case inr => rfl
  case inl =>
    have hn : keyword ≠ "additionalItems" := by
      rintro rfl
      cases config <;> cases hr
    exact congrArg some (if_neg hn)

theorem ViolatesBy.owner_eq {node : Fields} {keyword : String} {config j : Json}
    {place path : List Step} {record : Failure}
    (h : ViolatesBy node keyword config j place path record) : owner place = some keyword := by
  unfold ViolatesBy at h
  split at h
  case h_1 => exact h.owner_eq
  case h_7 => exact h.elim
  case h_4 ha =>
    cases Applicator.eq_name ha
    rcases h with ⟨_, _, _, _, _, _, rfl, _⟩ | ⟨_, _, _, _, _, _, _, _, rfl, _⟩ <;> rfl
  case h_2 ha | h_3 ha | h_5 ha _ | h_6 ha =>
    cases Applicator.eq_name ha
    obtain ⟨_, _, _, _, _, _, rfl, _⟩ := h
    rfl

theorem apart_violatesBy {node : Fields} {j : Json} {x y : String × Json} (hne : x.1 ≠ y.1) :
    Apart (ViolatesBy node x.1 x.2 j) (ViolatesBy node y.1 y.2 j) :=
  fun _ _ _ _ hx hy => hne (Option.some.inj (hx.owner_eq.symm.trans hy.owner_eq))

end JsonSchema
