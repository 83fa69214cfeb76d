import JsonSchema.Validator.Schema

namespace JsonSchema.Validator

attribute [local simp] check

theorem eq_accept_of_isNull {v : Validator} (h : v.isNull = true) : v = accept := by
  cases v <;> simp [isNull] at h ⊢

-- A validator decides if its inversion passes exactly the values (that are not empty) that it does
-- not pass itself.
def Decides (v : Validator) : Prop :=
  ∀ j, Json.isEmpty (some j) = false →
    (v.check true (some j)).isNone = !(v.check false (some j)).isNone

-- What is true of all validators that can be built. `accept` is the only one that does not decide.
def Definite (v : Validator) : Prop :=
  v = accept ∨ v.Decides

theorem Decides.definite {v : Validator} (h : v.Decides) : v.Definite :=
  .inr h

theorem definite_accept : Definite accept :=
  .inl rfl

theorem Definite.decides {v : Validator} (h : v.Definite) (hn : v.isNull = false) : v.Decides := by
  cases h
  case inl h => simp [h, isNull] at hn
  case inr h => exact h

section Parts

variable {label : String} {j : Json}

theorem matched_isNone (hj : Json.isEmpty (some j) = false) :
    (matched label (some j)).isNone = false := by
  simp [matched, hj]

theorem failWith_isNone {wrap : List Failure → Failure} {parts : List Failure}
    (hj : Json.isEmpty (some j) = false) : (failWith label (some j) wrap parts).isNone = false := by
  simp only [failWith]
  split
  case isTrue  => exact matched_isNone hj
  case isFalse => rfl

theorem focus_isNone {check : Bool → Option Failure} (hj : Json.isEmpty (some j) = false) :
    (focus label (some j) true check).isNone = !(focus label (some j) false check).isNone := by
  cases h : check false
  case some => simp [focus, h]
  case none =>
    simp only [focus, h, Option.isNone_none, Bool.not_true]
    cases check true
    case some => rfl
    case none => exact matched_isNone hj

theorem checkParts_isNone {failures : Bool → List Failure} (hj : Json.isEmpty (some j) = false) :
    (checkParts label (some j) true failures).isNone =
      !(checkParts label (some j) false failures).isNone := by
  cases h : (failures false).isEmpty <;> simp [checkParts, h, failWith_isNone hj]

end Parts

theorem decides_reject : Decides reject := by
  intro j hj
  simp [check, matched_isNone hj]

theorem decides_falseSchema : Decides falseSchema := by
  intro j hj
  simp [check, hj]

theorem hasValue_of_not_isEmpty {value : Option Json} (h : Json.isEmpty value = false) :
    Json.hasValue value = true := by
  unfold Json.isEmpty at h
  unfold Json.hasValue
  split at h <;> simp_all

theorem decides_required : Decides required := by
  intro j hj
  simp [check, hasValue_of_not_isEmpty hj]

theorem filled?_eq_some {j : Json} (hj : Json.isEmpty (some j) = false) :
    Json.filled? (some j) = some j := by
  simp [Json.filled?, hj]

theorem decides_rule (r : Rule) : Decides (rule r) := by
  intro j hj
  cases h : r.holds j <;> simp [check, filled?_eq_some hj, h]

theorem decides_contains (schema : Json) (v : Validator) : Decides (contains schema v) := by
  intro j hj
  simp only [check, filled?_eq_some hj, Option.bind_some]
  cases j.asArray?.all _ <;> rfl

theorem decides_dependencies (rules : List (String × Dependency Validator)) :
    Decides (dependencies rules) := by
  intro j hj
  simp only [check, filled?_eq_some hj, Option.bind_some]
  cases ((j.asObject?.map _).getD []).isEmpty <;> rfl

theorem decides_allOf (members : List Validator) : Decides (allOf members) := by
  intro j hj
  cases h : (failures members false (some j)).isEmpty <;> simp [check, h, failWith_isNone hj]

theorem decides_anyOf (members : List Validator) : Decides (anyOf members) := by
  intro j hj
  cases h : anyPasses members (some j) <;> simp [check, h, failWith_isNone hj]

theorem decides_oneOf (passing : Nat) (members : List Validator) :
    Decides (oneOf passing members) := by
  intro j hj
  by_cases h : countPassing members (some j) + passing = 1 <;> simp [check, h, failWith_isNone hj]

theorem Decides.not {v : Validator} (h : v.Decides) : Decides (not v) := by
  intro j hj
  simp [check, h j hj]

theorem Decides.inverse {v : Validator} (h : v.Decides) : Decides (inverse v) := by
  intro j hj
  simp [check, h j hj]

theorem decides_atProperty (name : String) (v : Validator) : Decides (atProperty name v) := by
  intro j hj
  simp only [check]
  exact focus_isNone hj

theorem decides_atIndex (index : Nat) (v : Validator) : Decides (atIndex index v) := by
  intro j hj
  simp only [check]
  exact focus_isNone hj

theorem decides_everyItem (start : Nat) (v : Validator) : Decides (everyItem start v) := by
  intro j hj
  simp only [check]
  exact checkParts_isNone hj

theorem decides_otherProperties (known : List String) (v : Validator) :
    Decides (otherProperties known v) := by
  intro j hj
  simp only [check]
  exact checkParts_isNone hj

section Combining

variable {v : Validator} {members : List Validator}

theorem definite_of_mem_active (h : ∀ v ∈ members, v.Definite) : ∀ v ∈ active members, v.Decides := by
  intro v hv
  simp only [active, List.mem_filter, Bool.not_eq_true'] at hv
  exact (h v hv.left).decides hv.right

theorem definite_all (h : ∀ v ∈ members, v.Definite) : (all members).Definite := by
  have hd := definite_of_mem_active h
  unfold all
  split
  case h_1      => exact definite_accept
  case h_2 v hv => exact (hd v <| by simp [hv]).definite
  case h_3      => exact (decides_allOf _).definite

theorem definite_any : (any members).Definite := by
  unfold any
  split
  case isTrue  => exact definite_accept
  case isFalse => exact (decides_anyOf _).definite

theorem definite_one : (one members).Definite := by
  simp only [one]
  split
  case isTrue  => exact definite_accept
  case isFalse => exact (decides_oneOf _ _).definite

theorem Definite.negation (h : v.Definite) : v.negation.Definite := by
  cases h
  case inl h => exact h ▸ decides_reject.definite
  case inr h =>
    unfold Validator.negation
    split
    case h_1 => exact decides_reject.definite
    case h_2 => exact h.not.definite

theorem Definite.negate (h : v.Definite) : v.negate.Definite := by
  cases h
  case inl h => exact h ▸ decides_reject.definite
  case inr h =>
    unfold Validator.negate
    split
    case h_1 => exact decides_reject.definite
    case h_2 => exact h.inverse.definite

theorem definite_within {step : Validator → Validator} (h : ∀ v, (step v).Decides) :
    (within step v).Definite := by
  unfold within
  split
  case h_1 => exact definite_accept
  case h_2 => exact (h _).definite

end Combining

theorem definite_requiredIf (on : Bool) : (requiredIf on).Definite := by
  cases on
  case false => exact definite_accept
  case true  => exact decides_required.definite

theorem definite_uniqueItemsIf (on : Bool) : (uniqueItemsIf on).Definite := by
  cases on
  case false => exact definite_accept
  case true  => exact (decides_rule _).definite

theorem definite_pattern (text : String) (whole : Bool) : (pattern text whole).Definite := by
  unfold pattern
  split
  case h_1 => exact (decides_rule _).definite
  case h_2 => exact definite_accept

theorem definite_format (name : String) : (format name).Definite := by
  unfold format
  split
  case h_1 => exact (decides_rule _).definite
  case h_2 => exact definite_accept

theorem definite_multipleOf (divisor : Number) : (multipleOf divisor).Definite := by
  unfold multipleOf
  split
  case isTrue  => exact (decides_rule _).definite
  case isFalse => exact definite_accept

theorem definite_dependent (rules : List (String × Dependency Validator)) :
    (dependent rules).Definite := by
  unfold dependent
  split
  case isTrue  => exact definite_accept
  case isFalse => exact (decides_dependencies _).definite

theorem definite_requiredNames (names : List Json) : (requiredNames names).Definite := by
  apply definite_all
  intro v hv
  obtain ⟨name, _, rfl⟩ := List.mem_map.mp hv
  exact definite_within (decides_atProperty name)

theorem definite_ofPlain? {keyword : String} {config : Json} {v : Validator}
    (h : ofPlain? keyword config = some v) : v.Definite := by
  unfold ofPlain? at h
  split at h <;> obtain ⟨_, _, rfl⟩ := Option.map_eq_some_iff.mp h
  · exact definite_requiredIf _
  · exact definite_uniqueItemsIf _
  · exact definite_pattern _ _
  · exact definite_format _
  · exact definite_multipleOf _
  · exact (decides_rule _).definite

theorem definite_ofPlainIn? {node : Fields} {keyword : String} {config : Json} {v : Validator}
    (h : ofPlainIn? node keyword config = some v) : v.Definite := by
  unfold ofPlainIn? at h
  split at h
  case h_1 | h_2 => simp at h
  case h_3 | h_4 => cases h; exact (decides_rule _).definite
  case h_5       => cases h; exact definite_requiredNames _
  case h_6       => exact definite_ofPlain? h

theorem definite_ofPropertiesIn? {config : Json} {v : Validator} :
    ofPropertiesIn? config = some v → v.Definite := by
  intro h
  cases config <;> simp only [ofPropertiesIn?, Option.some.injEq, reduceCtorEq] at h
  case object schemas =>
    subst h
    apply definite_all
    intro v hv
    induction schemas with
    | nil => simp [ofProperties] at hv
    | cons field rest ih =>
      simp only [ofProperties, List.mem_cons] at hv
      cases hv
      case inl h => exact h ▸ definite_within (decides_atProperty _)
      case inr h => exact ih h

theorem definite_ofTuple (index : Nat) (schemas : List Json) :
    ∀ v ∈ ofTuple index schemas, v.Definite := by
  intro v hv
  induction schemas generalizing index with
  | nil => simp [ofTuple] at hv
  | cons schema rest ih =>
    simp only [ofTuple, List.mem_cons] at hv
    cases hv
    case inl h => exact h ▸ definite_within (decides_atIndex _)
    case inr h => exact ih _ h

theorem definite_ofItemsIn? {additionalItems : Option Validator} {schema : Json} {v w : Validator}
    (h : ofItemsIn? additionalItems schema v = some w) : w.Definite := by
  cases schema <;> simp only [ofItemsIn?, Option.some.injEq, reduceCtorEq] at h <;> subst h
  case array schemas =>
    apply definite_all
    intro v hv
    cases List.mem_append.mp hv
    case inl hv => exact definite_ofTuple 0 schemas v hv
    case inr hv =>
      obtain ⟨v, _, rfl⟩ := Option.map_eq_some_iff.mp (Option.mem_toList.mp hv)
      exact definite_within (decides_everyItem _)
  all_goals exact definite_within (decides_everyItem _)

mutual
theorem definite_ofSchema : (schema : Json) → (ofSchema schema).Definite
  | .bool false   => by simp only [ofSchema]; exact decides_falseSchema.definite
  | .bool true    => by simp only [ofSchema]; exact definite_accept
  | .object node  => by simp only [ofSchema]; exact definite_all (definite_ofKeywords node _ node)
  | .null         => by simp only [ofSchema]; exact definite_accept
  | .number _     => by simp only [ofSchema]; exact definite_accept
  | .string _     => by simp only [ofSchema]; exact definite_accept
  | .array _      => by simp only [ofSchema]; exact definite_accept

theorem definite_ofKeywords (node : Fields) (additionalItems : Option Validator) :
    (fields : Fields) → ∀ v ∈ ofKeywords node additionalItems fields, v.Definite
  | []                        => by simp [ofKeywords]
  | (keyword, config) :: rest => by
    intro v hv
    simp only [ofKeywords, List.mem_append, Option.mem_toList] at hv
    cases hv
    case inr hv => exact definite_ofKeywords node additionalItems rest v hv
    case inl hv =>
      split at hv
      case h_1  => exact definite_ofPropertiesIn? hv
      case h_2  => cases hv; exact definite_within (decides_otherProperties _)
      case h_3  => exact definite_ofItemsIn? hv
      case h_4  => cases hv; exact (decides_contains _ _).definite
      case h_5  =>
        cases config <;> simp only [ofDependenciesIn?, Option.some.injEq, reduceCtorEq] at hv
        exact hv ▸ definite_dependent _
      case h_6  =>
        obtain ⟨members, hm, rfl⟩ := Option.map_eq_some_iff.mp hv
        exact definite_all (definite_ofMembersIn? config members hm)
      case h_7  => obtain ⟨_, _, rfl⟩ := Option.map_eq_some_iff.mp hv; exact definite_any
      case h_8  => obtain ⟨_, _, rfl⟩ := Option.map_eq_some_iff.mp hv; exact definite_one
      case h_9  => cases hv; exact (definite_ofSchema config).negation
      case h_10 => exact definite_ofPlainIn? hv

theorem definite_ofMembersIn? :
    (config : Json) → ∀ members, ofMembersIn? config = some members → ∀ v ∈ members, v.Definite
  | .array schemas => by
    intro members h
    simp only [ofMembersIn?, Option.some.injEq] at h
    exact h ▸ definite_ofSchemas schemas
  | .null | .bool _ | .number _ | .string _ | .object _ => by simp [ofMembersIn?]

theorem definite_ofSchemas : (schemas : List Json) → ∀ v ∈ ofSchemas schemas, v.Definite
  | []             => by simp [ofSchemas]
  | schema :: rest => by
    intro v hv
    simp only [ofSchemas, List.mem_cons] at hv
    cases hv
    case inl hv => exact hv ▸ definite_ofSchema schema
    case inr hv => exact definite_ofSchemas rest v hv
end

theorem definite_ofKeyword? {keyword : String} {config : Json} {v : Validator}
    (h : ofKeyword? keyword config = some v) : v.Definite := by
  unfold ofKeyword? at h
  split at h
  case h_1 => cases h; exact (decides_contains _ _).definite
  case h_2 =>
    cases config <;> simp only [ofDependenciesIn?, Option.some.injEq, reduceCtorEq] at h
    exact h ▸ definite_dependent _
  case h_7 => simp at h
  case h_8 => exact definite_ofPlain? h
  all_goals
    cases h
    exact definite_ofSchema _

-- The validators that can be built: by the maker of a single keyword, from a keyword or a schema as
-- they are written, and by combining and focusing such validators.
inductive Built : Validator → Prop
  | accept                                        : Built accept
  | required (on : Bool)                          : Built (requiredIf on)
  | rule (r : Rule)                               : Built (rule r)
  | uniqueItems (on : Bool)                       : Built (uniqueItemsIf on)
  | pattern (text : String) (whole : Bool)        : Built (pattern text whole)
  | format (name : String)                        : Built (format name)
  | multipleOf (divisor : Number)                 : Built (multipleOf divisor)
  | contains (schema : Json)                      : Built (contains schema (ofSchema schema))
  | dependencies (rules : Fields)                 : Built (dependent (ofDependencies rules))
  | schema (schema : Json)                        : Built (ofSchema schema)
  | keyword : ofKeyword? keyword config = some v  → Built v
  | keywords (node : Fields)                      : Built (ofKeywordsApart node)
  | all {vs}       : (∀ v ∈ vs, Built v) → Built (all vs)
  | any {vs}       : (∀ v ∈ vs, Built v) → Built (any vs)
  | one {vs}       : (∀ v ∈ vs, Built v) → Built (one vs)
  | negation {v}   : Built v → Built v.negation
  | negate {v}     : Built v → Built v.negate
  | atProperty {v} (name : String) : Built v → Built (within (atProperty name) v)
  | atIndex {v} (index : Nat)      : Built v → Built (within (atIndex index) v)
  | everyItem {v} (start : Nat)    : Built v → Built (within (everyItem start) v)

theorem Built.definite {v : Validator} (b : v.Built) : v.Definite := by
  induction b
  case accept               => exact definite_accept
  case required on          => exact definite_requiredIf on
  case rule r               => exact (decides_rule r).definite
  case uniqueItems on       => exact definite_uniqueItemsIf on
  case pattern text whole   => exact definite_pattern text whole
  case format name          => exact definite_format name
  case multipleOf divisor   => exact definite_multipleOf divisor
  case contains schema      => exact (decides_contains _ _).definite
  case dependencies rules   => exact definite_dependent _
  case schema schema        => exact definite_ofSchema schema
  case keyword h            => exact definite_ofKeyword? h
  case keywords node        =>
    apply definite_all
    intro v hv
    have ⟨_, _, h⟩ := List.mem_filterMap.mp hv
    exact definite_ofKeyword? h
  case all ih               => exact definite_all ih
  case any                  => exact definite_any
  case one                  => exact definite_one
  case negation ih          => exact ih.negation
  case negate ih            => exact ih.negate
  case atProperty name _ _  => exact definite_within (decides_atProperty name)
  case atIndex index _ _    => exact definite_within (decides_atIndex index)
  case everyItem start _ _  => exact definite_within (decides_everyItem start)

-- A value that is not empty passes the inversion of a validator if and only if it fails the
-- validator itself, except that everything passes both if the validator is `accept`.
theorem Built.check_inverted_eq_none_iff {v : Validator} (b : v.Built) (hn : v.isNull = false)
    {x : Json} (hx : Json.isEmpty (some x) = false) :
    v.check true (some x) = none ↔ v.check false (some x) ≠ none := by
  have h := b.definite.decides hn x hx
  cases hf : v.check false (some x) <;> simp_all [← Option.isNone_iff_eq_none]

-- The object has no property "a" and one property only, so the negated members both pass: one
-- because there is nothing to look at, the other because its single rule fails.
theorem check_inverted_negation_absent :
    let v := negation <| all
      [within (atProperty "a") (rule (.minLength 2)), one [.accept, rule (.minProperties 2)]]
    let x := Json.object [("c", .bool true)]
    v.Built ∧ v.isNull = false ∧ Json.isEmpty (some x) = false ∧ v.check true (some x) = none := by
  intro v x
  have ho : Built (one [.accept, rule (.minProperties 2)]) := .one <| by
    simp [Built.accept, Built.rule]
  have hb : v.Built := .negation <| .all <| by
    simp only [List.mem_cons, List.not_mem_nil, or_false, forall_eq_or_imp, forall_eq]
    exact ⟨.atProperty "a" (.rule _), ho⟩
  refine ⟨hb, rfl, rfl, (hb.check_inverted_eq_none_iff rfl rfl).mpr ?_⟩
  exact Option.isSome_iff_ne_none.mp rfl

end JsonSchema.Validator
