import JsonSchema.Proofs.Validator.Agreement
import JsonSchema.Proofs.Validator.Flags

namespace JsonSchema

open Validator

-- A keyword of a node hands a part of a value on to a schema, which has to be satisfied by that part.
inductive Hands (node : Fields) (s part : Json) : (keyword : String) → (config j : Json) → Prop
  | property {name schemas fields} :
    (name, s) ∈ schemas → Fields.get? fields name = some part →
      Hands node s part "properties" (.object schemas) (.object fields)
  | otherProperty {name fields} :
    (name, part) ∈ fields → name ∉ knownNames node →
      Hands node s part "additionalProperties" s (.object fields)
  | item {items} : part ∈ items → Hands node s part "items" s (.array items)
  | dependency {name rules fields} :
    (name, s) ∈ rules → Fields.contains fields name = true → part = .object fields →
      Hands node s part "dependencies" (.object rules) (.object fields)
  | member {members} : s ∈ members → Hands node s part "allOf" (.array members) part

-- A schema is imposed on a part of a value by another schema, which is imposed on the value.
inductive Json.Imposed (t inner : Json) : (s j : Json) → Prop
  | self : Imposed t inner t inner
  | step {node keyword config s part j} :
    (keyword, config) ∈ node → Hands node s part keyword config j → Imposed t inner s part →
      Imposed t inner (.object node) j

-- The keywords looked at apart: those with a choice of what is to be satisfied, and those that are about
-- numbers with rounding.
def Approximate (keyword : String) (config j : Json) : Prop :=
  keyword ∈ ["anyOf", "oneOf", "contains", "multipleOf"] ∨
    (keyword = "items" ∧ config.isArray = true) ∨ (keyword = "enum" ∧ ¬ j.NumberFree)

-- The fields of a node that make up a keyword: beside a tuple is the schema for the items behind it.
def Fields.only (node : Fields) (keyword : String) : Fields :=
  node.filter fun (k, _) => k = keyword || keyword = "items" && k = "additionalItems"

-- A keyword looked at apart that a schema imposes on a part of a value.
def Json.Clause (c part s j : Json) : Prop :=
  ∃ node keyword config, (object node).Imposed part s j ∧ (keyword, config) ∈ node ∧
    Approximate keyword config part ∧ c = object (Fields.only node keyword)

-- What a keyword asks of a value by itself, apart from handing parts of it on to schemas.
def AsksOwn (node : Fields) (keyword : String) (config j : Json) : Prop :=
  KeywordHolds (fun s part => keyword = "not" → Satisfies s part) node keyword config j

-- A value satisfies a schema, apart from the clauses.
def Lenient (s j : Json) : Prop :=
  ∀ t part : Json, t.Imposed part s j → t ≠ .bool false ∧
    ∀ node keyword config, t = .object node → (keyword, config) ∈ node →
      ¬ Approximate keyword config part → AsksOwn node keyword config part

variable {node : Fields} {keyword : String} {config s t part j : Json}

section Hands

variable {node : Fields} {s part config j : Json}

theorem hands_properties (h : Hands node s part "properties" config j) :
    ∃ name schemas fields, config = .object schemas ∧ j = .object fields ∧ (name, s) ∈ schemas ∧
      Fields.get? fields name = some part := by
  generalize hk : "properties" = keyword at h
  cases h <;> simp only [String.reduceEq] at hk
  case property hs hg => exact ⟨_, _, _, rfl, rfl, hs, hg⟩

theorem hands_additionalProperties (h : Hands node s part "additionalProperties" config j) :
    s = config ∧ ∃ name fields, j = .object fields ∧ (name, part) ∈ fields ∧ name ∉ knownNames node := by
  generalize hk : "additionalProperties" = keyword at h
  cases h <;> simp only [String.reduceEq] at hk
  case otherProperty hp hn => exact ⟨rfl, _, _, rfl, hp, hn⟩

theorem hands_items (h : Hands node s part "items" config j) :
    s = config ∧ ∃ items, j = .array items ∧ part ∈ items := by
  generalize hk : "items" = keyword at h
  cases h <;> simp only [String.reduceEq] at hk
  case item hp => exact ⟨rfl, _, rfl, hp⟩

theorem hands_dependencies (h : Hands node s part "dependencies" config j) :
    part = j ∧ ∃ name rules fields, config = .object rules ∧ j = .object fields ∧ (name, s) ∈ rules ∧
      Fields.contains fields name = true := by
  generalize hk : "dependencies" = keyword at h
  cases h <;> simp only [String.reduceEq] at hk
  case dependency hd hc he => exact ⟨he, _, _, _, rfl, rfl, hd, hc⟩

theorem hands_allOf (h : Hands node s part "allOf" config j) :
    part = j ∧ ∃ members, config = .array members ∧ s ∈ members := by
  generalize hk : "allOf" = keyword at h
  cases h <;> simp only [String.reduceEq] at hk
  case member hs => exact ⟨rfl, _, rfl, hs⟩

end Hands

theorem not_hands (hn : Applicator.ofName? keyword = none) : ¬ Hands node s part keyword config j := by
  intro h
  cases h <;> simp [Applicator.ofName?] at hn

theorem Hands.appliedBy (h : Hands node s part keyword config j) : s.AppliedBy keyword config := by
  cases h with
  | property hs _       => exact .property hs
  | otherProperty       => exact .otherProperties
  | item                => exact .items
  | dependency hd _ _   => exact .dependency hd
  | member hs           => exact .allOf hs

theorem satisfies_of_hands (h : KeywordHolds Satisfies node keyword config j)
    (hh : Hands node s part keyword config j) : Satisfies s part := by
  cases hh with
  | property hs hg         => exact h _ rfl _ _ _ hs hg
  | otherProperty hp hn    => exact h _ rfl _ _ hp hn
  | item hp                =>
    cases config
    case object | bool => exact h _ rfl _ hp
    all_goals simp [Satisfies]
  | dependency hd hc he    =>
    subst he
    cases s
    case object | bool => exact h _ rfl _ _ hd hc
    all_goals simp [Satisfies]
  | member hs              => exact h _ hs

theorem satisfies_of_imposed (h : Satisfies s j) (hi : t.Imposed part s j) : Satisfies t part := by
  induction hi with
  | self            => exact h
  | step hm hh _ ih => exact ih (satisfies_of_hands (satisfies_object.mp h _ _ hm) hh)

theorem keywordHolds_of_hands {P Q : Json → Json → Prop} (ha : ¬ Approximate keyword config j)
    (h : KeywordHolds P node keyword config j) (hn : keyword = "not" → Q config j → P config j)
    (hh : ∀ s part, Hands node s part keyword config j → P s part → Q s part) :
    KeywordHolds Q node keyword config j := by
  simp only [KeywordHolds] at h ⊢
  cases hk : Applicator.ofName? keyword with
  | none   => simpa only [hk] using h
  | some a =>
    obtain rfl := Applicator.eq_name hk
    cases a
    case contains | anyOf | oneOf => exact absurd (.inl (by decide)) ha
    case not                      => exact fun hs => h (hn rfl hs)
    case properties =>
      cases config
      case object schemas =>
        rintro fields rfl name s part hs hg
        exact hh s part (.property hs hg) (h fields rfl name s part hs hg)
      all_goals trivial
    case additionalProperties =>
      rintro fields rfl name part hp hk
      exact hh _ part (.otherProperty hp hk) (h fields rfl name part hp hk)
    case items =>
      cases config
      case array => exact absurd (.inr (.inl ⟨rfl, rfl⟩)) ha
      case object | bool =>
        rintro items rfl part hp
        exact hh _ part (.item hp) (h items rfl part hp)
      all_goals trivial
    case dependencies =>
      cases config
      case object rules =>
        rintro fields rfl name d hd hc
        have h := h fields rfl name d hd hc
        have hh := hh d _ (.dependency hd hc rfl)
        cases d
        case array         => exact h
        case object | bool => exact hh h
        all_goals trivial
      all_goals trivial
    case allOf =>
      cases config
      case array members => exact fun s hs => hh s j (.member hs) (h s hs)
      all_goals trivial

-- A tuple depends on its node, and only for the schema of the items behind it.
theorem keywordHolds_only {P : Json → Json → Prop} (ha : Approximate keyword config part)
    (value : Json) :
    KeywordHolds P (Fields.only node keyword) keyword value j ↔ KeywordHolds P node keyword value j := by
  obtain ha | ⟨rfl, _⟩ | ⟨rfl, _⟩ := ha
  case inl =>
    simp only [List.mem_cons, List.not_mem_nil, or_false] at ha
    rcases ha with rfl | rfl | rfl | rfl <;> cases value <;> exact .rfl
  case inr.inr => exact .rfl
  case inr.inl =>
    have hf : Fields.get? (Fields.only node "items") "additionalItems" =
        Fields.get? node "additionalItems" := Fields.get?_filter fun _ => rfl
    cases value
    case array => simp only [KeywordHolds, Applicator.ofName?, hf]
    all_goals exact .rfl

theorem keywordHolds_additionalItems {P : Json → Json → Prop} (value : Json) :
    KeywordHolds P node "additionalItems" value j := by
  cases value <;> exact fun _ hv => nomatch hv

theorem satisfies_only (ha : Approximate keyword config part) :
    Satisfies (.object (Fields.only node keyword)) j ↔
      ∀ value, (keyword, value) ∈ node → KeywordHolds Satisfies node keyword value j := by
  rw [satisfies_object]
  constructor
  case mp =>
    intro h value hm
    exact (keywordHolds_only ha value).mp (h keyword value (List.mem_filter.mpr ⟨hm, by simp⟩))
  case mpr =>
    intro h k value hm
    obtain ⟨hm, hk⟩ := List.mem_filter.mp hm
    by_cases he : k = keyword
    case pos =>
      rw [he] at hm ⊢
      exact (keywordHolds_only ha value).mpr (h value hm)
    case neg =>
      obtain ⟨_, rfl⟩ : keyword = "items" ∧ k = "additionalItems" := by simpa [he] using hk
      exact keywordHolds_additionalItems value

-- A value satisfies a schema if it does so apart from the clauses, and satisfies every clause.
theorem satisfies_iff_clauses :
    Satisfies s j ↔ Lenient s j ∧ ∀ c part : Json, c.Clause part s j → Satisfies c part := by
  constructor
  case mp =>
    intro h
    constructor
    case left =>
      intro t part hi
      have ht := satisfies_of_imposed h hi
      refine ⟨by rintro rfl; simp [satisfies_bool] at ht, ?_⟩
      rintro node keyword config rfl hm ha
      have hk := satisfies_object.mp ht keyword config hm
      exact keywordHolds_of_hands ha hk (fun hn hs => hs hn) fun _ _ _ hs _ => hs
    case right =>
      rintro _ part ⟨node, keyword, config, hi, _, ha, rfl⟩
      have hn := satisfies_object.mp (satisfies_of_imposed h hi)
      exact (satisfies_only ha).mpr fun config => hn keyword config
  case mpr =>
    induction s using Json.schema_induct generalizing j
    case bool b =>
      rintro ⟨h, _⟩
      rw [satisfies_bool]
      cases b
      case true  => rfl
      case false => exact absurd rfl (h _ _ .self).left
    case other s hb ho =>
      cases s
      case bool b      => exact absurd rfl (hb b)
      case object node => exact absurd rfl (ho node)
      all_goals simp [Satisfies]
    case object node ih =>
      rintro ⟨h, hc⟩
      refine satisfies_object.mpr fun keyword config hm => ?_
      by_cases ha : Approximate keyword config j
      case pos =>
        have hs := hc _ _ ⟨node, keyword, config, .self, hm, ha, rfl⟩
        exact (satisfies_only ha).mp hs config hm
      case neg =>
        have ho := (h _ _ .self).right node keyword config rfl hm ha
        refine keywordHolds_of_hands ha ho (fun _ hs _ => hs) fun s part hh _ => ?_
        refine ih s ⟨keyword, config, hm, hh.appliedBy⟩ ⟨fun t inner hi => ?_, ?_⟩
        case refine_1 => exact h t inner (.step hm hh hi)
        case refine_2 =>
          rintro c inner ⟨other, k, v, hi, hr⟩
          exact hc c inner ⟨other, k, v, .step hm hh hi, hr⟩

-- A node satisfies a value apart from the clauses if its keywords do what they ask by themselves, and
-- the schemas that they hand parts on to are satisfied in the same way.
theorem lenient_object : Lenient (.object node) j ↔
    ∀ keyword config, (keyword, config) ∈ node →
      (¬ Approximate keyword config j → AsksOwn node keyword config j) ∧
        ∀ s part, Hands node s part keyword config j → Lenient s part := by
  constructor
  case mp =>
    intro h keyword config hm
    refine ⟨(h _ _ .self).right node keyword config rfl hm, ?_⟩
    exact fun s part hh t inner hi => h t inner (.step hm hh hi)
  case mpr =>
    intro h t part hi
    cases hi with
    | self          => exact ⟨by simp, fun _ k v he hm => by cases he; exact (h k v hm).left⟩
    | step hm hh hi => exact (h _ _ hm).right _ _ hh t part hi

theorem lenient_bool {b : Bool} : Lenient (.bool b) j ↔ b = true := by
  constructor
  case mp  => exact fun h => by simpa using (h _ _ .self).left
  case mpr =>
    rintro rfl t part hi
    cases hi
    exact ⟨by simp, by simp⟩

theorem lenient_array {items : List Json} : Lenient (.array items) j := by
  intro t part hi
  cases hi
  exact ⟨by simp, by simp⟩

theorem Json.FlagFree.only (h : (object node).FlagFree) (keyword : String) :
    (object (Fields.only node keyword)).FlagFree :=
  flagFree_object.mpr fun k v hm => flagFree_object.mp h k v (List.mem_filter.mp hm).left

theorem Json.Imposed.flagFree (hi : t.Imposed part s j) (h : s.FlagFree) : t.FlagFree := by
  induction hi with
  | self            => exact h
  | step hm hh _ ih => exact ih ((flagFree_object.mp h _ _ hm).below _ hh.appliedBy)

theorem Hands.instance (h : Hands node s part keyword config j) (hj : j.Instance) :
    part.Instance := by
  cases h with
  | property _ hg      => exact hj.field (Fields.mem_of_get? hg)
  | otherProperty hp _ => exact hj.field hp
  | item hp            => exact hj.item hp
  | dependency _ _ he  => exact he ▸ hj
  | member             => exact hj

theorem Json.Imposed.instance (hi : t.Imposed part s j) (hj : j.Instance) : part.Instance := by
  induction hi with
  | self           => exact hj
  | step _ hh _ ih => exact ih (hh.instance hj)

theorem Json.Clause.flagFree {c : Json} (h : c.Clause part s j) (hs : s.FlagFree) : c.FlagFree := by
  obtain ⟨node, keyword, config, hi, _, _, rfl⟩ := h
  exact (hi.flagFree hs).only keyword

theorem Json.Clause.instance {c : Json} (h : c.Clause part s j) (hj : j.Instance) :
    part.Instance := by
  obtain ⟨_, _, _, hi, _⟩ := h
  exact hi.instance hj

end JsonSchema
