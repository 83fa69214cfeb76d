import JsonSchema.Proofs.Binary64.Integer
import JsonSchema.Proofs.Json.Similarity
import JsonSchema.Proofs.Validator.Likeness
import JsonSchema.Proofs.Validator.Satisfaction

namespace JsonSchema

namespace Binary64

theorem value?_canonical (x : Binary64) : x.canonical.value? = x.value? := by
  unfold canonical
  cases h : x.value? with
  | none   => exact h
  | some q => exact value?_ofValue q

theorem numLt_canonical (x y : Binary64) : x.canonical.numLt y = x.numLt y := by
  cases x with
  | infinite _ => rfl
  | nan        => rfl
  | finite m p =>
    obtain ⟨n, q, h⟩ := exists_canonical m p
    have hv := value?_canonical (finite m p)
    rw [h] at hv ⊢
    cases y <;> simp only [numLt, hv]

theorem numLt_canonical_right (x y : Binary64) : x.numLt y.canonical = x.numLt y := by
  cases y with
  | infinite _ => rfl
  | nan        => rfl
  | finite m p =>
    obtain ⟨n, q, h⟩ := exists_canonical m p
    have hv := value?_canonical (finite m p)
    rw [h] at hv ⊢
    cases x <;> simp only [numLt, hv]

theorem numEq_canonical_right (x y : Binary64) : x.numEq y.canonical = x.numEq y := by
  cases y with
  | infinite _ => rfl
  | nan        => rfl
  | finite m p =>
    obtain ⟨n, q, h⟩ := exists_canonical m p
    have hv := value?_canonical (finite m p)
    rw [h] at hv ⊢
    cases x <;> simp only [numEq, hv]

theorem canonical_of_pos {x : Binary64} (hs : ∀ m q, x = finite m q → 0 ≤ q)
    (h : (ofInt 0).numLt x = true) : x.canonical = x := by
  have hz : ofInt 0 = finite false 0 := ofInt_natCast (Nat.zero_le _)
  rw [hz] at h
  cases x with
  | infinite _ => rfl
  | nan        => rfl
  | finite m q =>
    have hq := hs m q rfl
    cases m <;> simp only [numLt, value?, decide_eq_true_eq] at h
    case false => simp [canonical, value?, ofValue, Rat.not_lt.mpr hq]
    case true  => grind

end Binary64

namespace Number

variable (n : Number) (x : Binary64)

theorem numLt_canonical : n.canonical.toBinary64.numLt x = n.toBinary64.numLt x := by
  cases n with
  | integer _ => rfl
  | float y   => exact Binary64.numLt_canonical y x

theorem numLt_canonical_right : x.numLt n.canonical.toBinary64 = x.numLt n.toBinary64 := by
  cases n with
  | integer _ => rfl
  | float y   => exact Binary64.numLt_canonical_right x y

theorem numLe_canonical : n.canonical.toBinary64.numLe x = n.toBinary64.numLe x := by
  cases n with
  | integer _ => rfl
  | float y   =>
    simp only [canonical, toBinary64, Binary64.numLe, Binary64.numLt_canonical, Binary64.numEq_canonical]

theorem numLe_canonical_right : x.numLe n.canonical.toBinary64 = x.numLe n.toBinary64 := by
  cases n with
  | integer _ => rfl
  | float y   =>
    simp only [canonical, toBinary64, Binary64.numLe, Binary64.numLt_canonical_right,
      Binary64.numEq_canonical_right]

end Number

namespace Json

variable (j : Json)

theorem asBool?_canonical : j.canonical.asBool? = j.asBool? := by
  cases j <;> rfl

theorem asNumber?_canonical : j.canonical.asNumber? = j.asNumber?.map Number.canonical := by
  cases j <;> rfl

theorem asNat?_canonical : j.canonical.asNat? = j.asNat? := by
  simp only [asNat?, asNumber?_canonical]
  cases j.asNumber? with
  | none   => rfl
  | some n => cases n <;> rfl

theorem asArray?_canonical : j.canonical.asArray? = j.asArray?.map (·.map canonical) := by
  cases j <;> simp [canonical, asArray?, canonicalItems_eq_map]

theorem filterMap_asString?_canonical (names : List Json) :
    (names.map canonical).filterMap asString? = names.filterMap asString? := by
  simp [List.filterMap_map, asString?_canonical]

-- The sign of each number stands beside its magnitude, as in all numbers that are read.
def Signed (j : Json) : Prop :=
  ∀ negative magnitude, Occurs (.number (.float (.finite negative magnitude))) j → 0 ≤ magnitude

def hasSignedNumber : Json → Bool
  | number (.float (.finite _ magnitude)) => 0 ≤ magnitude
  | _                                     => true

variable {j}

theorem signed_of_nodes (h : (j.nodes .root).all fun entry => entry.2.hasSignedNumber) : j.Signed := by
  intro negative magnitude ho
  obtain ⟨p, hp⟩ := ho.exists_mem_nodes .root
  simpa [hasSignedNumber] using List.all_eq_true.mp h _ hp

theorem Signed.occurs {i : Json} (h : j.Signed) (ho : i.Occurs j) : i.Signed :=
  fun negative magnitude hi => h negative magnitude (hi.trans ho)

theorem Signed.item {items : List Json} (h : (array items).Signed) (hm : j ∈ items) : j.Signed :=
  h.occurs (.item hm .self)

theorem Signed.field {fields : Fields} {key : String} (h : (object fields).Signed)
    (hm : (key, j) ∈ fields) : j.Signed :=
  h.occurs (.field hm .self)

end Json

namespace Validator

open List (Forall₂)

variable {node : Fields} {keyword : String} {config : Json}

def SameRule (r r' : Rule) : Prop := ∀ j, r.holds j = r'.holds j

theorem sameRule_of_eq {o o' : Option Rule} (h : o' = o) : Option.Rel SameRule o o' := by
  subst h
  cases o' with
  | none   => exact .none
  | some r => exact .some fun _ => rfl

theorem sameRule_number {make : Number → Rule} (hn : ∀ n, SameRule (make n) (make n.canonical)) :
    Option.Rel SameRule (config.asNumber?.map make) (config.canonical.asNumber?.map make) := by
  rw [Json.asNumber?_canonical]
  cases config.asNumber? with
  | none   => exact .none
  | some n => exact .some (hn n)

theorem sameRule_canonical (keyword : String) (config : Json) :
    Option.Rel SameRule (Rule.ofKeyword? keyword config) (Rule.ofKeyword? keyword config.canonical) := by
  unfold Rule.ofKeyword?
  split
  case h_1 =>
    rw [Json.asArray?_canonical]
    cases config.asArray? with
    | none         => exact .none
    | some allowed =>
      have hs (i : Json) : (allowed.map Json.canonical).any (Json.similar · i) =
          allowed.any (Json.similar · i) := by
        simp only [List.any_map, Function.comp_def, Json.similar_canonical]
      exact .some fun j => by cases j <;> simp only [Rule.holds, hs]
  case h_2 => exact .some fun j => by simp only [Rule.holds, Json.similar_canonical]
  case h_5 => exact sameRule_number fun n j => by simp only [Rule.holds, Number.numLe_canonical]
  case h_6 => exact sameRule_number fun n j => by simp only [Rule.holds, Number.numLt_canonical]
  case h_7 => exact sameRule_number fun n j => by simp only [Rule.holds, Number.numLe_canonical_right]
  case h_8 => exact sameRule_number fun n j => by simp only [Rule.holds, Number.numLt_canonical_right]
  case h_13 =>
    cases config with
    | array names =>
      have hs : ((names.map Json.canonical).all fun name => name.asString?.isSome) =
          names.all fun name => name.asString?.isSome := by
        simp only [List.all_map, Function.comp_def, Json.asString?_canonical]
      simp only [Json.canonical, Json.canonicalItems_eq_map, hs]
      split
      case isFalse => exact .none
      case isTrue  =>
        refine .some fun j => ?_
        simp only [Rule.holds, Rule.typeNames, Json.filterMap_asString?_canonical]
    | string _ => exact .some fun _ => rfl
    | _        => exact .none
  case h_14 => exact .none
  all_goals exact sameRule_of_eq (by rw [Json.asNat?_canonical])

theorem alike_of_eq {o o' : Option Validator} (h : o' = o) : Option.Rel Alike o o' := by
  subst h
  cases o' with
  | none   => exact .none
  | some v => exact .some (.refl v)

theorem multipleOf_canonical {n : Number} (hs : (Json.number n).Signed) :
    multipleOf n.canonical = multipleOf n := by
  simp only [multipleOf, Number.numLt_canonical_right]
  split
  case isFalse => rfl
  case isTrue h =>
    cases n with
    | integer _ => rfl
    | float x   =>
      have hx : ∀ m q, x = .finite m q → 0 ≤ q := fun m q he => hs m q (he ▸ .self)
      rw [Number.canonical, Binary64.canonical_of_pos hx h]

theorem alike_ofPlain? (keyword : String) (hs : config.Signed) :
    Option.Rel Alike (ofPlain? keyword config) (ofPlain? keyword config.canonical) := by
  unfold ofPlain?
  split
  case h_1 | h_2 => exact alike_of_eq (by rw [Json.asBool?_canonical])
  case h_3 | h_4 => exact alike_of_eq (by rw [Json.asString?_canonical])
  case h_5 =>
    refine alike_of_eq ?_
    cases config with
    | number n => simp only [Json.canonical, Json.asNumber?, Option.map_some, multipleOf_canonical hs]
    | _        => rfl
  case h_6 =>
    have hr := sameRule_canonical keyword config
    generalize Rule.ofKeyword? keyword config = o at hr ⊢
    generalize Rule.ofKeyword? keyword config.canonical = o' at hr ⊢
    cases hr with
    | none   => exact .none
    | some h => exact .some (alike_rule h)

theorem requiredNames_canonical (names : List Json) :
    requiredNames (names.map Json.canonical) = requiredNames names := by
  rw [requiredNames, Json.filterMap_asString?_canonical, requiredNames]

theorem hasFlag_canonical (node : Fields) (keyword : String) :
    hasFlag (Json.canonicalFields node) keyword = hasFlag node keyword := by
  simp only [hasFlag, Json.get?_canonicalFields]
  cases Fields.get? node keyword with
  | none   => rfl
  | some j => simp only [Option.map_some, Option.bind_some, Json.asBool?_canonical]

theorem alike_ofPlainIn? (node : Fields) (keyword : String) (hs : config.Signed) :
    Option.Rel Alike (ofPlainIn? node keyword config)
      (ofPlainIn? (Json.canonicalFields node) keyword config.canonical) := by
  unfold ofPlainIn?
  split
  case h_1 | h_2 => exact .none
  case h_3 limit =>
    refine .some (alike_rule ?_)
    rw [hasFlag_canonical]
    split
    case isTrue  => exact fun j => by simp only [Rule.holds, Number.numLt_canonical]
    case isFalse => exact fun j => by simp only [Rule.holds, Number.numLe_canonical]
  case h_4 limit =>
    refine .some (alike_rule ?_)
    rw [hasFlag_canonical]
    split
    case isTrue  => exact fun j => by simp only [Rule.holds, Number.numLt_canonical_right]
    case isFalse => exact fun j => by simp only [Rule.holds, Number.numLe_canonical_right]
  case h_5 names =>
    simp only [Json.canonical, Json.canonicalItems_eq_map, requiredNames_canonical]
    exact .some (.refl _)
  case h_6 =>
    have hp := alike_ofPlain? keyword hs
    cases config <;> simp only [Json.canonical] at hp ⊢
    case number | array => split <;> simp_all
    all_goals exact hp

def Likened (s : Json) : Prop := Alike (ofSchema s) (ofSchema s.canonical)

theorem alike_ofProperties {schemas : Fields} (h : ∀ name s, (name, s) ∈ schemas → Likened s) :
    Forall₂ Alike (ofProperties schemas) (ofProperties (Json.canonicalFields schemas)) := by
  induction schemas with
  | nil => exact .nil
  | cons field rest ih =>
    obtain ⟨name, s⟩ := field
    refine .cons ?_ (ih fun name s hm => h name s (List.mem_cons_of_mem _ hm))
    exact (h name s List.mem_cons_self).within fun hs => hs.atProperty name

theorem alike_ofTuple {slots : List Json} (h : ∀ s ∈ slots, Likened s) (index : Nat) :
    Forall₂ Alike (ofTuple index slots) (ofTuple index (slots.map Json.canonical)) := by
  induction slots generalizing index with
  | nil => exact .nil
  | cons s rest ih =>
    have ⟨hs, hr⟩ := List.forall_mem_cons.mp h
    exact .cons (hs.within fun hs => hs.atIndex index) (ih hr (index + 1))

theorem alike_ofSchemas {members : List Json} (h : ∀ s ∈ members, Likened s) :
    Forall₂ Alike (ofSchemas members) (ofSchemas (members.map Json.canonical)) := by
  induction members with
  | nil => exact .nil
  | cons s rest ih =>
    have ⟨hs, hr⟩ := List.forall_mem_cons.mp h
    exact .cons hs (ih hr)

theorem alike_ofDependencies {rules : Fields} (h : ∀ name s, (name, s) ∈ rules → Likened s) :
    Forall₂ AlikeDependency (ofDependencies rules) (ofDependencies (Json.canonicalFields rules)) := by
  induction rules with
  | nil => exact .nil
  | cons field rest ih =>
    obtain ⟨name, d⟩ := field
    have ih := ih fun name s hm => h name s (List.mem_cons_of_mem _ hm)
    have hd := h name d List.mem_cons_self
    cases d with
    | array names =>
      simp only [ofDependencies, Json.canonicalFields, Json.canonical, Json.canonicalItems_eq_map,
        Json.filterMap_asString?_canonical]
      exact .cons (.names name _) ih
    | object fields => exact .cons (.schema name hd) ih
    | bool b        => exact .cons (.schema name hd) ih
    | _             => exact ih

theorem alike_ofAdditionalItems
    (h : ∀ s, ("additionalItems", s) ∈ node → Likened s) :
    Option.Rel Alike (ofAdditionalItems node) (ofAdditionalItems (Json.canonicalFields node)) := by
  rw [ofAdditionalItems_eq, ofAdditionalItems_eq, Json.get?_canonicalFields]
  cases hg : Fields.get? node "additionalItems" with
  | none   => exact .none
  | some s => exact .some (h s (Fields.mem_of_get? hg))

theorem knownNames_canonical (node : Fields) : knownNames (Json.canonicalFields node) = knownNames node := by
  simp only [knownNames, Json.get?_canonicalFields]
  cases Fields.get? node "properties" with
  | none   => rfl
  | some j =>
    cases j <;> simp [Json.canonical, Json.asObject?, Json.canonicalFields_eq_map, Fields.keys]

theorem alike_toList {o o' : Option Validator} (h : Option.Rel Alike o o') :
    Forall₂ Alike o.toList o'.toList := by
  cases h with
  | none   => exact .nil
  | some h => exact .cons h .nil

theorem alike_ofMembersIn? {combine : List Validator → Validator}
    (hs : ∀ members, config = .array members → ∀ s ∈ members, Likened s)
    (hc : ∀ {vs ws}, Forall₂ Alike vs ws → Alike (combine vs) (combine ws)) :
    Option.Rel Alike ((ofMembersIn? config).map combine)
      ((ofMembersIn? config.canonical).map combine) := by
  cases config with
  | array members =>
    simp only [ofMembersIn?, Json.canonical, Json.canonicalItems_eq_map, Option.map_some]
    exact .some (hc (alike_ofSchemas (hs members rfl)))
  | _ => exact .none

theorem alike_ofItemsIn? {additionalItems additionalItems' : Option Validator}
    (ha : Option.Rel Alike additionalItems additionalItems') (hl : Likened config)
    (hs : ∀ slots, config = .array slots → ∀ s ∈ slots, Likened s) :
    Option.Rel Alike (ofItemsIn? additionalItems config (ofSchema config))
      (ofItemsIn? additionalItems' config.canonical (ofSchema config.canonical)) := by
  have hitems : Alike (within (everyItem 0) (ofSchema config))
      (within (everyItem 0) (ofSchema config.canonical)) := hl.within fun h => h.everyItem 0
  cases config with
  | array slots =>
    have hothers : Option.Rel Alike (additionalItems.map (within (everyItem slots.length)))
        (additionalItems'.map (within (everyItem slots.length))) := by
      cases ha with
      | none   => exact .none
      | some h => exact .some (h.within fun h => h.everyItem _)
    simp only [ofItemsIn?, Json.canonical, Json.canonicalItems_eq_map, List.length_map]
    exact .some (alike_all (List.rel_append (alike_ofTuple (hs slots rfl) 0) (alike_toList hothers)))
  | object fields => exact .some hitems
  | bool b        => exact .some hitems
  | _             => exact .none

theorem alike_ofKeywordIn? {additionalItems additionalItems' : Option Validator}
    (ha : Option.Rel Alike additionalItems additionalItems') (hn : config.Signed)
    (hs : ∀ s : Json, s.AppliedBy keyword config → Likened s) :
    Option.Rel Alike (ofKeywordIn? node additionalItems keyword config)
      (ofKeywordIn? (Json.canonicalFields node) additionalItems' keyword config.canonical) := by
  simp only [ofKeywordIn?]
  cases hname : Applicator.ofName? keyword with
  | none   => exact alike_ofPlainIn? node keyword hn
  | some a =>
    obtain rfl := Applicator.eq_name hname
    cases a
    case properties =>
      cases config with
      | object schemas => exact .some (alike_all (alike_ofProperties fun _ s hm => hs s (.property hm)))
      | _              => exact .none
    case additionalProperties =>
      simp only [knownNames_canonical]
      exact .some ((hs config .otherProperties).within fun h => h.otherProperties _)
    case items =>
      refine alike_ofItemsIn? ha (hs config .items) ?_
      rintro slots rfl s hm
      exact hs s (.slot hm)
    case contains => exact .some (hs config .contains).contains
    case dependencies =>
      cases config with
      | object rules =>
        exact .some (alike_dependent (alike_ofDependencies fun _ s hm => hs s (.dependency hm)))
      | _ => exact .none
    case allOf =>
      refine alike_ofMembersIn? ?_ alike_all
      rintro members rfl s hm
      exact hs s (.allOf hm)
    case anyOf =>
      refine alike_ofMembersIn? ?_ alike_any
      rintro members rfl s hm
      exact hs s (.anyOf hm)
    case oneOf =>
      refine alike_ofMembersIn? ?_ alike_one
      rintro members rfl s hm
      exact hs s (.oneOf hm)
    case not => exact .some (hs config .not).negation

theorem alike_ofKeywords {additionalItems additionalItems' : Option Validator} {fields : Fields}
    (h : ∀ keyword config, (keyword, config) ∈ fields →
      Option.Rel Alike (ofKeywordIn? node additionalItems keyword config)
        (ofKeywordIn? (Json.canonicalFields node) additionalItems' keyword config.canonical)) :
    Forall₂ Alike (ofKeywords node additionalItems fields)
      (ofKeywords (Json.canonicalFields node) additionalItems' (Json.canonicalFields fields)) := by
  induction fields with
  | nil => exact .nil
  | cons field rest ih =>
    obtain ⟨keyword, config⟩ := field
    have ih := ih fun keyword config hm => h keyword config (List.mem_cons_of_mem _ hm)
    exact List.rel_append (alike_toList (h keyword config List.mem_cons_self)) ih

theorem likened {s : Json} (h : s.Signed) : Likened s := by
  induction s using Json.schema_induct
  case bool b => exact .refl _
  case object node ih =>
    have hb {s : Json} (hs : s.Below node) : Likened s := by
      obtain ⟨keyword, config, hm, ha⟩ := id hs
      exact ih s hs (h.occurs (.field hm ha.occurs))
    have ha := alike_ofAdditionalItems fun s hm => hb (s := s) ⟨_, s, hm, .otherItems⟩
    refine alike_all (alike_ofKeywords fun keyword config hm => ?_)
    exact alike_ofKeywordIn? ha (h.field hm) fun s hs => hb ⟨keyword, config, hm, hs⟩
  case other s hb ho =>
    cases s
    case bool b      => exact absurd rfl (hb b)
    case object node => exact absurd rfl (ho node)
    all_goals exact .refl _

theorem alike_of_canonical {s t : Json} (hs : s.Signed) (ht : t.Signed)
    (h : s.canonical = t.canonical) : Alike (ofSchema s) (ofSchema t) :=
  (likened hs).trans (h ▸ (likened ht).symm)

end Validator

end JsonSchema
