import JsonSchema.Proofs.Validator.Acceptance
import JsonSchema.Proofs.Validator.Satisfaction

namespace JsonSchema

namespace Validator

attribute [local simp] check

variable {v : Validator} {members : List Validator} {value : Option Json} {keyword : String}
  {config : Json} {node : Fields} {additionalItems : Option Validator}

-- Neither a validator nor its inversion has anything to say about a value.
def SilentOn (value : Option Json) (v : Validator) : Prop := ∀ invert, v.check invert value = none

theorem silentOn_accept : SilentOn value accept := by
  simp [SilentOn]

theorem failures_of_silentOn (h : ∀ v ∈ members, SilentOn value v) (invert : Bool) :
    failures members invert value = [] :=
  (failures_eq_nil_iff members invert value).mpr fun v hv => h v hv invert

theorem inverseOfPassing_of_silentOn (h : ∀ v ∈ members, SilentOn value v) :
    inverseOfPassing members value = [] := by
  induction members with
  | nil => rfl
  | cons v vs ih =>
    have ⟨hv, hvs⟩ := List.forall_mem_cons.mp h
    simp [inverseOfPassing, hv false, hv true, ih hvs]

theorem SilentOn.negate (h : SilentOn value v) (he : Json.isEmpty value = true) :
    SilentOn value v.negate := by
  unfold Validator.negate
  intro invert
  split
  case h_1 => cases invert <;> simp [matched, he]
  case h_2 => simp [h (!invert)]

theorem SilentOn.negation (h : SilentOn value v) (he : Json.isEmpty value = true) :
    SilentOn value v.negation := by
  unfold Validator.negation
  intro invert
  split
  case h_1 => cases invert <;> simp [matched, he]
  case h_2 => simp [h (!invert)]

theorem silentOn_within {step : Validator → Validator} (h : SilentOn value (step v)) :
    SilentOn value (within step v) := by
  unfold within
  split
  case h_1 => exact silentOn_accept
  case h_2 => exact h

section Empty

variable (he : Json.isEmpty value = true)

include he

theorem matched_of_isEmpty (label : String) : matched label value = none := by
  simp [matched, he]

theorem filled?_of_isEmpty : Json.filled? value = none := by
  cases value <;> simp [Json.filled?, he]

theorem silentOn_falseSchema : SilentOn value falseSchema := by
  simp [SilentOn, he]

theorem silentOn_rule (r : Rule) : SilentOn value (rule r) := by
  simp [SilentOn, filled?_of_isEmpty he]

theorem silentOn_uniqueItemsIf (on : Bool) : SilentOn value (uniqueItemsIf on) := by
  cases on
  case false => exact silentOn_accept
  case true  => exact silentOn_rule he _

theorem silentOn_pattern (text : String) (whole : Bool) : SilentOn value (pattern text whole) := by
  unfold pattern
  split
  case h_1 => exact silentOn_rule he _
  case h_2 => exact silentOn_accept

theorem silentOn_format (name : String) : SilentOn value (format name) := by
  unfold format
  split
  case h_1 => exact silentOn_rule he _
  case h_2 => exact silentOn_accept

theorem silentOn_multipleOf (divisor : Number) : SilentOn value (multipleOf divisor) := by
  unfold multipleOf
  split
  case isTrue  => exact silentOn_rule he _
  case isFalse => exact silentOn_accept

theorem silentOn_contains (schema : Json) (v : Validator) : SilentOn value (contains schema v) := by
  simp [SilentOn, filled?_of_isEmpty he]

theorem silentOn_dependent (rules : List (String × Dependency Validator)) :
    SilentOn value (dependent rules) := by
  unfold dependent
  split
  case isTrue  => exact silentOn_accept
  case isFalse => simp [SilentOn, filled?_of_isEmpty he]

theorem silentOn_all (h : ∀ v ∈ members, SilentOn value v) : SilentOn value (all members) := by
  have ha : ∀ v ∈ active members, SilentOn value v := fun v hv => h v (List.mem_filter.mp hv).left
  unfold all
  split
  case h_1    => exact silentOn_accept
  case h_2 hm => exact ha _ (by simp [hm])
  case h_3 =>
    intro invert
    cases invert <;>
      simp [failures_of_silentOn ha, inverseOfPassing_of_silentOn ha, failWith, matched_of_isEmpty he]

theorem silentOn_any (h : ∀ v ∈ members, SilentOn value v) : SilentOn value (any members) := by
  unfold any
  split
  case isTrue => exact silentOn_accept
  case isFalse hn =>
    have hp : anyPasses members value = true := by
      obtain ⟨v, hv⟩ := List.exists_mem_of_ne_nil members (by rintro rfl; simp at hn)
      exact anyPasses_iff.mpr ⟨v, hv, h v hv false⟩
    intro invert
    cases invert <;>
      simp [hp, inverseOfPassing_of_silentOn h, failWith, matched_of_isEmpty he]

-- Members that pass are too many or too few, but there is no failure to show for it.
theorem silentOn_one (h : ∀ v ∈ members, SilentOn value v) : SilentOn value (one members) := by
  have ha : ∀ v ∈ active members, SilentOn value v := fun v hv => h v (List.mem_filter.mp hv).left
  simp only [one]
  split
  case isTrue => exact silentOn_accept
  case isFalse =>
    intro invert
    simp [failures_of_silentOn ha, inverseOfPassing_of_silentOn ha, failWith, matched_of_isEmpty he]

theorem focus_of_isEmpty {check : Bool → Option Failure} (h : ∀ invert, check invert = none)
    (label : String) (invert : Bool) : focus label value invert check = none := by
  cases invert <;> simp [focus, h, matched_of_isEmpty he]

theorem checkParts_of_isEmpty {failures : Bool → List Failure} (h : ∀ invert, failures invert = [])
    (label : String) (invert : Bool) : checkParts label value invert failures = none := by
  cases invert <;> simp [checkParts, h, failWith, matched_of_isEmpty he]

theorem propertyOf?_of_isEmpty {name : String} {part : Option Json}
    (h : propertyOf? name value = some part) : value ≠ none ∧ part = none := by
  obtain ⟨j, rfl, hj⟩ := Option.bind_eq_some_iff.mp h
  refine ⟨by simp, ?_⟩
  cases j <;> simp [Json.asObject?, Json.isEmpty] at hj he
  subst he
  exact hj.symm

theorem itemOf?_of_isEmpty {index : Nat} {part : Option Json} (h : itemOf? index value = some part) :
    value ≠ none ∧ part = none := by
  obtain ⟨j, rfl, hj⟩ := Option.bind_eq_some_iff.mp h
  refine ⟨by simp, ?_⟩
  cases j <;> simp [Json.asArray?, Json.isEmpty] at hj he
  subst he
  exact hj.symm

theorem silentOn_atProperty (name : String) (h : value ≠ none → SilentOn none v) :
    SilentOn value (atProperty name v) := by
  refine focus_of_isEmpty he (fun invert => ?_) _
  cases hp : propertyOf? name value with
  | none      => rfl
  | some part =>
    obtain ⟨hn, rfl⟩ := propertyOf?_of_isEmpty he hp
    simp [h hn invert]

theorem silentOn_atIndex (index : Nat) (h : value ≠ none → SilentOn none v) :
    SilentOn value (atIndex index v) := by
  refine focus_of_isEmpty he (fun invert => ?_) _
  cases hp : itemOf? index value with
  | none      => rfl
  | some part =>
    obtain ⟨hn, rfl⟩ := itemOf?_of_isEmpty he hp
    simp [h hn invert]

theorem silentOn_everyItem (start : Nat) (v : Validator) : SilentOn value (everyItem start v) := by
  refine checkParts_of_isEmpty he (fun invert => ?_) _
  have hi : ((value.bind Json.asArray?).getD []) = [] := by
    cases value with
    | none   => rfl
    | some j => cases j <;> simp_all [Json.asArray?, Json.isEmpty]
  simp [itemsFrom, hi]

theorem silentOn_otherProperties (known : List String) (v : Validator) :
    SilentOn value (otherProperties known v) := by
  refine checkParts_of_isEmpty he (fun invert => ?_) _
  have hf : ((value.bind Json.asObject?).getD []) = [] := by
    cases value with
    | none   => rfl
    | some j => cases j <;> simp_all [Json.asObject?, Json.isEmpty]
  simp [propertiesBut, hf]

-- An absent value need not have the names of a list, unlike an object without properties.
omit he in
theorem silentOn_requiredNames (names : List Json) : SilentOn none (requiredNames names) := by
  apply silentOn_all rfl
  intro v hv
  obtain ⟨name, _, rfl⟩ := List.mem_map.mp hv
  exact silentOn_within (silentOn_atProperty rfl name fun hn => absurd rfl hn)

theorem silentOn_ofPlain? (hr : ∀ b, keyword = "required" → config ≠ .bool b)
    (h : ofPlain? keyword config = some v) : SilentOn value v := by
  unfold ofPlain? at h
  split at h
  case h_1 =>
    cases config <;> simp [Json.asBool?] at h
    case bool b => exact absurd rfl (hr b rfl)
  case h_2 =>
    obtain ⟨b, _, rfl⟩ := Option.map_eq_some_iff.mp h
    exact silentOn_uniqueItemsIf he b
  case h_3 =>
    obtain ⟨text, _, rfl⟩ := Option.map_eq_some_iff.mp h
    exact silentOn_pattern he text false
  case h_4 =>
    obtain ⟨name, _, rfl⟩ := Option.map_eq_some_iff.mp h
    exact silentOn_format he name
  case h_5 =>
    obtain ⟨divisor, _, rfl⟩ := Option.map_eq_some_iff.mp h
    exact silentOn_multipleOf he divisor
  case h_6 =>
    obtain ⟨r, _, rfl⟩ := Option.map_eq_some_iff.mp h
    exact silentOn_rule he r

theorem silentOn_ofPlainIn? (hr : ∀ b, keyword = "required" → config ≠ .bool b)
    (hn : value ≠ none → ∀ names, keyword = "required" → config ≠ .array names)
    (h : ofPlainIn? node keyword config = some v) : SilentOn value v := by
  unfold ofPlainIn? at h
  split at h
  case h_1 | h_2 => simp at h
  case h_3 | h_4 => cases h; exact silentOn_rule he _
  case h_5 names =>
    cases h
    cases value with
    | none   => exact silentOn_requiredNames names
    | some j => exact absurd rfl (hn (by simp) names rfl)
  case h_6 => exact silentOn_ofPlain? he hr h

-- Steps into a value that is empty but not absent hand an absent part to the schemas below.
theorem silentOn_ofKeywordIn? (hr : ∀ b, keyword = "required" → config ≠ .bool b)
    (hn : value ≠ none → ∀ names, keyword = "required" → config ≠ .array names)
    (hs : ∀ s : Json, s.AppliedBy keyword config → SilentOn value (ofSchema s))
    (hp : value ≠ none → ∀ s : Json, s.AppliedBy keyword config → SilentOn none (ofSchema s))
    (h : ofKeywordIn? node additionalItems keyword config = some v) : SilentOn value v := by
  have hmembers (members : List Json) (hm : ∀ s ∈ members, s.AppliedBy keyword config) :
      ∀ v ∈ ofSchemas members, SilentOn value v := by
    intro v hv
    rw [ofSchemas_eq_map] at hv
    obtain ⟨s, hs', rfl⟩ := List.mem_map.mp hv
    exact hs s (hm s hs')
  simp only [ofKeywordIn?] at h
  cases ha : Applicator.ofName? keyword with
  | none => exact silentOn_ofPlainIn? he hr hn (by simpa [ha] using h)
  | some a =>
    obtain rfl := Applicator.eq_name ha
    simp only [ha] at h
    cases a
    case properties =>
      cases config <;> simp only [ofPropertiesIn?, Option.some.injEq, reduceCtorEq] at h
      subst h
      apply silentOn_all he
      intro v hv
      obtain ⟨name, s, hm, rfl⟩ := mem_ofProperties.mp hv
      exact silentOn_within (silentOn_atProperty he name fun hn => hp hn s (.property hm))
    case additionalProperties => cases h; exact silentOn_within (silentOn_otherProperties he _ _)
    case items =>
      cases config <;> simp only [ofItemsIn?, Option.some.injEq, reduceCtorEq] at h <;> subst h
      case array slots =>
        apply silentOn_all he
        intro v hv
        cases List.mem_append.mp hv
        case inl hv =>
          obtain ⟨i, s, hi, rfl⟩ := mem_ofTuple.mp hv
          have hm : s ∈ slots := List.mem_of_getElem? hi
          exact silentOn_within (silentOn_atIndex he _ fun hn => hp hn s (.slot hm))
        case inr hv =>
          obtain ⟨v, _, rfl⟩ := Option.map_eq_some_iff.mp (Option.mem_toList.mp hv)
          exact silentOn_within (silentOn_everyItem he _ v)
      all_goals exact silentOn_within (silentOn_everyItem he 0 _)
    case contains => cases h; exact silentOn_contains he _ _
    case dependencies =>
      cases config <;> simp only [ofDependenciesIn?, Option.some.injEq, reduceCtorEq] at h
      exact h ▸ silentOn_dependent he _
    case allOf =>
      obtain ⟨_, hm, rfl⟩ := Option.map_eq_some_iff.mp h
      cases config <;> simp only [ofMembersIn?, Option.some.injEq, reduceCtorEq] at hm
      exact hm ▸ silentOn_all he (hmembers _ fun _ hm => .allOf hm)
    case anyOf =>
      obtain ⟨_, hm, rfl⟩ := Option.map_eq_some_iff.mp h
      cases config <;> simp only [ofMembersIn?, Option.some.injEq, reduceCtorEq] at hm
      exact hm ▸ silentOn_any he (hmembers _ fun _ hm => .anyOf hm)
    case oneOf =>
      obtain ⟨_, hm, rfl⟩ := Option.map_eq_some_iff.mp h
      cases config <;> simp only [ofMembersIn?, Option.some.injEq, reduceCtorEq] at hm
      exact hm ▸ silentOn_one he (hmembers _ fun _ hm => .oneOf hm)
    case not => cases h; exact (hs config .not).negation he

end Empty

theorem silentOn_none_ofSchema {schema : Json} (h : schema.RequiresNames) :
    SilentOn none (ofSchema schema) := by
  induction schema using Json.schema_induct
  case bool b =>
    cases b
    case false => exact silentOn_falseSchema rfl
    case true  => exact silentOn_accept
  case object node ih =>
    rw [ofSchema]
    apply silentOn_all rfl
    intro v hv
    obtain ⟨keyword, config, hm, hv⟩ := mem_ofKeywords.mp hv
    refine silentOn_ofKeywordIn? rfl ?_ (fun hn => absurd rfl hn) (fun s hs => ?_)
      (fun hn => absurd rfl hn) hv
    case refine_1 =>
      rintro b rfl rfl
      exact h node b .self hm
    case refine_2 =>
      have hs : s.Below node := ⟨keyword, config, hm, hs⟩
      exact ih s hs (h.below hs)
  case other s hb ho =>
    cases s
    case bool b      => exact absurd rfl (hb b)
    case object node => exact absurd rfl (ho node)
    all_goals exact silentOn_accept

end Validator

-- Nowhere in a schema does `required` ask for values: neither of the value itself nor by a list.
structure Json.RequiresNothing (schema : Json) : Prop where
  names : schema.RequiresNames
  lists : ∀ node names, (Json.object node).Subschema schema → ("required", .array names) ∉ node

theorem Json.RequiresNothing.below {s : Json} {node : Fields} (h : (object node).RequiresNothing)
    (hs : s.Below node) : s.RequiresNothing where
  names := h.names.below hs
  lists inner names hi := h.lists inner names (.inner hs hi)

theorem Json.requiresNothing_of_nodes {schema : Json}
    (h : (schema.nodes .root).all fun entry =>
      !Fields.contains (entry.2.asObject?.getD []) "required") : schema.RequiresNothing := by
  have hn {node : Fields} {config : Json} (hs : (object node).Subschema schema) :
      ("required", config) ∉ node := by
    intro hm
    obtain ⟨p, hp⟩ := hs.occurs.exists_mem_nodes .root
    have hc : Fields.contains node "required" = true := Fields.get?_isSome_iff.mpr (List.mem_map_of_mem hm)
    simpa [Json.asObject?, hc] using List.all_eq_true.mp h _ hp
  exact ⟨fun _ _ hs => hn hs, fun _ _ hs => hn hs⟩

theorem Json.RequiresNothing.of_mem {node : Fields} {keyword : String} {config : Json}
    (h : (object node).RequiresNothing) (hm : (keyword, config) ∈ node) :
    (object [(keyword, config)]).RequiresNothing := by
  have hb {s : Json} (hs : s.Subschema (object [(keyword, config)])) :
      s = object [(keyword, config)] ∨ s.Subschema (object node) := by
    cases hs with
    | self => exact .inl rfl
    | inner hb hs =>
      obtain ⟨_, _, hk, ha⟩ := hb
      cases List.mem_singleton.mp hk
      exact .inr (.inner ⟨keyword, config, hm, ha⟩ hs)
  refine ⟨fun inner b hi hr => ?_, fun inner names hi hr => ?_⟩
  case refine_1 =>
    obtain hi | hi := hb hi
    case inl =>
      cases hi
      exact h.names node b .self (List.mem_singleton.mp hr ▸ hm)
    case inr => exact h.names inner b hi hr
  case refine_2 =>
    obtain hi | hi := hb hi
    case inl =>
      cases hi
      exact h.lists node names .self (List.mem_singleton.mp hr ▸ hm)
    case inr => exact h.lists inner names hi hr

namespace Validator

variable {v : Validator} {value : Option Json} {keyword : String} {config : Json} {node : Fields}
  {additionalItems : Option Validator}

theorem silentOn_of_mem (he : Json.isEmpty value = true) (h : (Json.object node).RequiresNothing)
    (hm : (keyword, config) ∈ node)
    (hs : ∀ s : Json, s.Below node → s.RequiresNothing → SilentOn value (ofSchema s))
    (hv : ofKeywordIn? node additionalItems keyword config = some v) : SilentOn value v := by
  have hb {s : Json} (ha : s.AppliedBy keyword config) : s.Below node := ⟨keyword, config, hm, ha⟩
  refine silentOn_ofKeywordIn? he ?_ (fun _ => ?_) (fun s ha => hs s (hb ha) (h.below (hb ha)))
    (fun _ s ha => silentOn_none_ofSchema (h.below (hb ha)).names) hv
  case refine_1 =>
    rintro b rfl rfl
    exact h.names node b .self hm
  case refine_2 =>
    rintro names rfl rfl
    exact h.lists node names .self hm

theorem silentOn_ofSchema (he : Json.isEmpty value = true) {schema : Json}
    (h : schema.RequiresNothing) : SilentOn value (ofSchema schema) := by
  induction schema using Json.schema_induct
  case bool b =>
    cases b
    case false => exact silentOn_falseSchema he
    case true  => exact silentOn_accept
  case object node ih =>
    rw [ofSchema]
    apply silentOn_all he
    intro v hv
    obtain ⟨keyword, config, hm, hv⟩ := mem_ofKeywords.mp hv
    exact silentOn_of_mem he h hm ih hv
  case other s hb ho =>
    cases s
    case bool b      => exact absurd rfl (hb b)
    case object node => exact absurd rfl (ho node)
    all_goals exact silentOn_accept

theorem ofKeyword?_cases (node : Fields) (hv : ofKeyword? keyword config = some v) :
    v = ofSchema (.object [(keyword, config)]) ∨ ofPlain? keyword config = some v ∨
      ofKeywordIn? node none keyword config = some v := by
  simp only [ofKeyword?] at hv
  simp only [ofKeywordIn?]
  cases ha : Applicator.ofName? keyword with
  | none => exact .inr (.inl (by simpa [ha] using hv))
  | some a =>
    simp only [ha] at hv
    cases a
    case properties | additionalProperties | items => simp at hv
    case contains | dependencies                   => exact .inr (.inr hv)
    all_goals exact .inl (Option.some.inj hv).symm

theorem silentOn_ofKeyword? (he : Json.isEmpty value = true)
    (h : (Json.object [(keyword, config)]).RequiresNothing)
    (hv : ofKeyword? keyword config = some v) : SilentOn value v := by
  have hm : (keyword, config) ∈ [(keyword, config)] := List.mem_singleton_self _
  obtain rfl | hv | hv := ofKeyword?_cases [(keyword, config)] hv
  case inl => exact silentOn_ofSchema he h
  case inr.inl =>
    refine silentOn_ofPlain? he ?_ hv
    rintro b rfl rfl
    exact h.names _ b .self hm
  case inr.inr => exact silentOn_of_mem he h hm (fun s _ hs => silentOn_ofSchema he hs) hv

-- The validators that can be built as `Built` says, but without the maker of `required` and from schemas
-- and keywords without it.
inductive WithoutRequired : Validator → Prop
  | accept                                 : WithoutRequired accept
  | rule (r : Rule)                        : WithoutRequired (rule r)
  | uniqueItems (on : Bool)                : WithoutRequired (uniqueItemsIf on)
  | pattern (text : String) (whole : Bool) : WithoutRequired (pattern text whole)
  | format (name : String)                 : WithoutRequired (format name)
  | multipleOf (divisor : Number)          : WithoutRequired (multipleOf divisor)
  | contains {schema : Json} :
    schema.RequiresNothing → WithoutRequired (contains schema (ofSchema schema))
  | dependencies {rules : Fields} :
    (∀ name s, (name, s) ∈ rules → s.RequiresNothing) →
      WithoutRequired (dependent (ofDependencies rules))
  | schema {schema : Json} : schema.RequiresNothing → WithoutRequired (ofSchema schema)
  | keyword {keyword : String} {config : Json} {v : Validator} :
    (Json.object [(keyword, config)]).RequiresNothing → ofKeyword? keyword config = some v →
      WithoutRequired v
  | keywords {node : Fields} :
    (Json.object node).RequiresNothing → WithoutRequired (ofKeywordsApart node)
  | all {vs} : (∀ v ∈ vs, WithoutRequired v) → WithoutRequired (all vs)
  | any {vs} : (∀ v ∈ vs, WithoutRequired v) → WithoutRequired (any vs)
  | one {vs} : (∀ v ∈ vs, WithoutRequired v) → WithoutRequired (one vs)
  | negation {v : Validator} : WithoutRequired v → WithoutRequired v.negation
  | negate {v : Validator}   : WithoutRequired v → WithoutRequired v.negate
  | atProperty {v : Validator} (name : String) :
    WithoutRequired v → WithoutRequired (within (atProperty name) v)
  | atIndex {v : Validator} (index : Nat) :
    WithoutRequired v → WithoutRequired (within (atIndex index) v)
  | everyItem {v : Validator} (start : Nat) :
    WithoutRequired v → WithoutRequired (within (everyItem start) v)

-- By induction for all empty values at once, since a step turns other empty values into an absent one.
theorem WithoutRequired.silentOn (h : v.WithoutRequired) (he : Json.isEmpty value = true) :
    SilentOn value v := by
  induction h generalizing value
  case accept                => exact silentOn_accept
  case rule r                => exact silentOn_rule he r
  case uniqueItems on        => exact silentOn_uniqueItemsIf he on
  case pattern text whole    => exact silentOn_pattern he text whole
  case format name           => exact silentOn_format he name
  case multipleOf divisor    => exact silentOn_multipleOf he divisor
  case contains              => exact silentOn_contains he _ _
  case dependencies          => exact silentOn_dependent he _
  case schema hs             => exact silentOn_ofSchema he hs
  case keyword hk hv         => exact silentOn_ofKeyword? he hk hv
  case keywords node hn =>
    apply silentOn_all he
    intro v hv
    obtain ⟨⟨keyword, config⟩, hm, hv⟩ := List.mem_filterMap.mp hv
    exact silentOn_ofKeyword? he (hn.of_mem hm) hv
  case all ih                => exact silentOn_all he fun v hv => ih v hv he
  case any ih                => exact silentOn_any he fun v hv => ih v hv he
  case one ih                => exact silentOn_one he fun v hv => ih v hv he
  case negation ih           => exact (ih he).negation he
  case negate ih             => exact (ih he).negate he
  case atProperty name _ ih  => exact silentOn_within (silentOn_atProperty he name fun _ => ih rfl)
  case atIndex index _ ih    => exact silentOn_within (silentOn_atIndex he index fun _ => ih rfl)
  case everyItem start _ _   => exact silentOn_within (silentOn_everyItem he start _)

-- A value that is absent, null or an empty text, array or object passes every validator without
-- `required`, and its inversion.
theorem WithoutRequired.check_eq_none_of_isEmpty (h : v.WithoutRequired)
    (he : Json.isEmpty value = true) (invert : Bool) : v.check invert value = none :=
  h.silentOn he invert

-- Both alternatives pass, and so does the member that the negation is about; all that is left to tell
-- is that the object is empty.
theorem check_negation_of_empty :
    let lengths := one [rule (.minLength 1), rule (.maxLength 3)]
    let schema := Json.object [
      ("minProperties", .ofNat 1),
      ("properties", .object [("a", .object [("not", .object [("type", .string "string")])])])]
    let v := negation (all [lengths, within (atProperty "a") lengths, ofSchema schema])
    v.WithoutRequired ∧ Json.isEmpty (some (.object [])) = true ∧
      v.check false (some (.object [])) = none ∧ v.check true (some (.object [])) = none := by
  intro lengths schema v
  have hl : lengths.WithoutRequired := .one <| by
    simp [WithoutRequired.rule]
  have hs : schema.RequiresNothing := Json.requiresNothing_of_nodes (by decide +kernel)
  have hv : v.WithoutRequired := .negation <| .all <| by
    simp only [List.mem_cons, List.not_mem_nil, or_false, forall_eq_or_imp, forall_eq]
    exact ⟨hl, .atProperty "a" hl, .schema hs⟩
  have he : Json.isEmpty (some (.object [])) = true := rfl
  exact ⟨hv, he, hv.check_eq_none_of_isEmpty he false, hv.check_eq_none_of_isEmpty he true⟩

end Validator

end JsonSchema
