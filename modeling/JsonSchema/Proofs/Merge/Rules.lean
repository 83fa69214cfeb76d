import JsonSchema.Proofs.Json.Update
import JsonSchema.Proofs.Merge.Congruence
import JsonSchema.Proofs.Merge.WellFormed

namespace JsonSchema.Merge

open Validator

-- One core schema that says what the given ones say together. It is an object if they are.
structure StandsFor (merged : Json) (schemas : List Json) : Prop where
  core    : Core merged
  object  : (∀ s ∈ schemas, ∃ fields, s = .object fields) → ∃ fields, merged = .object fields
  accepts : ∀ j, j.Instance → (Accepts merged j ↔ ∀ s ∈ schemas, Accepts s j)

def Conjoins (merge : List Json → Option Json) : Prop :=
  ∀ schemas merged, (∀ s ∈ schemas, Core s ∧ s.WellFormed) → merge schemas = some merged →
    StandsFor merged schemas

-- A core value of a keyword that demands what two values do.
structure Joins (keyword : String) (current incoming value : Json) : Prop where
  core    : CoreKeyword Core keyword value
  demands : ∀ j, j.Instance →
    (Demands keyword value j ↔ Demands keyword current j ∧ Demands keyword incoming j)

-- What becomes of two values, each of which may be missing: a value that is fit and means what both do.
structure Joint (Fit : Json → Prop) (Means : Json → Json → Prop) (left right merged : Option Json) :
    Prop where
  fit  : ∀ v ∈ merged, Fit v
  means : ∀ j, j.Instance →
    ((∀ v ∈ merged, Means v j) ↔ (∀ v ∈ left, Means v j) ∧ ∀ v ∈ right, Means v j)

namespace Joint

variable {Fit : Json → Prop} {Means : Json → Json → Prop} {left right : Option Json} {value : Json}

theorem symm {merged : Option Json} (h : Joint Fit Means left right merged) :
    Joint Fit Means right left merged where
  fit  := h.fit
  means := fun j hj => (h.means j hj).trans And.comm

theorem left_of (hf : ∀ v ∈ left, Fit v) (h : ∀ v ∈ right, ∀ j, j.Instance → Means v j) :
    Joint Fit Means left right left where
  fit  := hf
  means := fun j hj => (and_iff_left fun v hv => h v hv j hj).symm

theorem right_of (hf : ∀ v ∈ right, Fit v) (h : ∀ v ∈ left, ∀ j, j.Instance → Means v j) :
    Joint Fit Means left right right where
  fit  := hf
  means := fun j hj => (and_iff_right fun v hv => h v hv j hj).symm

theorem some_of {a b : Json} (hf : Fit value)
    (h : ∀ j, j.Instance → (Means value j ↔ Means a j ∧ Means b j)) :
    Joint Fit Means (some a) (some b) (some value) where
  fit  := by simpa using hf
  means := by simpa using h

end Joint

def United (combine : Json → Json → Option Json) (_ : String) :
    Option Json → Json → Option Json → Prop
  | none, value, merged          => merged = some value
  | some existing, value, merged =>
    (existing == value) = true ∧ merged = some existing ∨
      (existing == value) = false ∧
        ∃ combined, combine existing value = some combined ∧ merged = some combined

section United

variable {combine : Json → Json → Option Json} {key : String} {left merged : Option Json} {value : Json}
variable (h : United combine key left value merged)

include h

theorem United.elim {P : (left merged : Option Json) → Prop} (alone : P none (some value))
    (same : ∀ existing ∈ left, (existing == value) = true → P (some existing) (some existing))
    (combined : ∀ existing ∈ left, ∀ combined, combine existing value = some combined →
      P (some existing) (some combined)) :
    P left merged := by
  cases left with
  | none =>
    obtain rfl := h
    exact alone
  | some existing =>
    rcases h with ⟨he, rfl⟩ | ⟨_, v, he, rfl⟩
    case inl => exact same existing rfl he
    case inr => exact combined existing rfl v he

theorem United.exists_eq_some : ∃ v, merged = some v :=
  h.elim (P := fun _ merged => ∃ v, merged = some v) ⟨_, rfl⟩ (fun _ _ _ => ⟨_, rfl⟩)
    (fun _ _ _ _ => ⟨_, rfl⟩)

theorem United.joint {Fit : Json → Prop} {Means : Json → Json → Prop} (hl : ∀ v ∈ left, Fit v)
    (hv : Fit value)
    (hs : ∀ existing ∈ left, (existing == value) = true → ∀ j, j.Instance →
      (Means existing j ↔ Means value j))
    (hc : ∀ existing ∈ left, ∀ combined, combine existing value = some combined →
      Joint Fit Means (some existing) (some value) (some combined)) :
    Joint Fit Means left (some value) merged := by
  refine h.elim (P := (Joint Fit Means · (some value) ·)) ?alone ?same hc
  case alone => exact .right_of (by simpa using hv) (by simp)
  case same  =>
    intro existing he hsame
    refine .some_of (hl existing he) fun j hj => ?_
    simp [hs existing he hsame j hj]

theorem United.both {Says : Json → Prop} (hm : ∀ v ∈ merged, Says v)
    (same : ∀ existing ∈ left, (existing == value) = true → Says existing → Says value)
    (combined : ∀ existing ∈ left, (existing == value) = false → ∀ combined,
      combine existing value = some combined → Says combined → Says existing ∧ Says value) :
    (∀ v ∈ left, Says v) ∧ Says value := by
  cases left with
  | none =>
    obtain rfl := h
    exact ⟨by simp, hm value rfl⟩
  | some existing =>
    simp only [Option.mem_def, Option.some.injEq, forall_eq'] at same combined ⊢
    rcases h with ⟨he, rfl⟩ | ⟨hn, v, hv, rfl⟩
    case inl => exact ⟨hm existing rfl, same he (hm existing rfl)⟩
    case inr => exact combined hn v hv (hm v rfl)

end United

section Identity

variable {j : Json} {schemas : List Json}

theorem accepts_of_isIdentity {s : Json} (hj : j.Instance) (h : isIdentity s = true) : Accepts s j := by
  cases s <;> simp [isIdentity] at h
  case bool b => exact (accepts_bool hj b).mpr h
  case object fields =>
    subst h
    simp [Accepts, ofSchema, ofKeywords, passes_all]

theorem forall_substantial (hj : j.Instance) :
    (∀ s ∈ substantial schemas, Accepts s j) ↔ ∀ s ∈ schemas, Accepts s j := by
  constructor
  case mpr => exact fun h s hs => h s (mem_of_mem_substantial hs)
  case mp =>
    intro h s hs
    by_cases hi : isIdentity s
    case pos => exact accepts_of_isIdentity hj hi
    case neg => exact h s (List.mem_filter.mpr ⟨hs, by simp [hi]⟩)

end Identity

theorem core_allOf {members : List Json} (h : ∀ s ∈ members, Core s) : Core (allOf members) := by
  refine .object fun keyword value hm => ?_
  cases List.mem_singleton.mp hm
  exact .allOf h

theorem standsFor_allOf {schemas : List Json} (h : ∀ s ∈ schemas, Core s) :
    StandsFor (allOf (substantial schemas)) schemas where
  core    := core_allOf fun s hs => h s (mem_of_mem_substantial hs)
  object  := fun _ => ⟨_, rfl⟩
  accepts := fun _ hj => accepts_allOf.trans (forall_substantial hj)

section Schemas

variable {merge : List Json → Option Json} (hm : Conjoins merge)

include hm

theorem Conjoins.conjoin {schemas : List Json} (h : ∀ s ∈ schemas, Core s ∧ s.WellFormed) :
    StandsFor (conjoin merge schemas) schemas := by
  unfold Merge.conjoin
  cases hs : merge schemas
  case some merged => exact hm _ _ h hs
  case none        => exact standsFor_allOf fun s hs => (h s hs).left

theorem Conjoins.conjoin_pair {a b : Json} (ha : Core a ∧ a.WellFormed)
    (hb : Core b ∧ b.WellFormed) : StandsFor (Merge.conjoin merge [a, b]) [a, b] :=
  hm.conjoin <| by simp [ha, hb]

theorem Conjoins.mergeConjunction {left right : List Json}
    (hl : ∀ s ∈ left, Core s ∧ s.WellFormed) (hr : ∀ s ∈ right, Core s ∧ s.WellFormed) :
    (mergeConjunction merge (.array left) (.array right)).Ensures
      (Joins "allOf" (.array left) (.array right)) := by
  have h : ∀ s ∈ left ++ right, Core s ∧ s.WellFormed := fun s hs =>
    (List.mem_append.mp hs).elim (hl s) (hr s)
  have happ {j : Json} : (∀ s ∈ left ++ right, Accepts s j) ↔
      (∀ s ∈ left, Accepts s j) ∧ ∀ s ∈ right, Accepts s j := List.forall_mem_append
  simp only [Merge.mergeConjunction]
  cases hs : merge (left ++ right)
  case some single =>
    have hs := hm _ _ h hs
    refine ⟨.allOf (by simpa using hs.core), fun j hj => ?_⟩
    simp only [demands_allOf, List.mem_singleton, forall_eq]
    exact (hs.accepts j hj).trans happ
  case none =>
    refine ⟨.allOf fun s hs => (h s (mem_of_mem_substantial hs)).left, fun j hj => ?_⟩
    simp only [demands_allOf]
    exact (forall_substantial hj).trans happ

theorem Conjoins.mergeItems {left right : Fields}
    (hl : Core (.object left) ∧ (Json.object left).WellFormed)
    (hr : Core (.object right) ∧ (Json.object right).WellFormed) :
    (mergeItems merge (.object left) (.object right)).Ensures
      (Joins "items" (.object left) (.object right)) := by
  have hs := hm.conjoin_pair hl hr
  obtain ⟨fields, he⟩ := hs.object (by simp)
  have hs : StandsFor (.object fields) [.object left, .object right] := he ▸ hs
  simp only [Merge.mergeItems, he]
  refine ⟨.items hs.core, fun j hj => ?_⟩
  simp only [demands_items]
  constructor
  case mp =>
    intro h
    have hp items (hi : j = .array items) i (hmem : i ∈ items) :
        Accepts (.object left) i ∧ Accepts (.object right) i := by
      subst hi
      simpa using (hs.accepts i (hj.item hmem)).mp (h items rfl i hmem)
    exact ⟨fun items hi i hmem => (hp items hi i hmem).left,
      fun items hi i hmem => (hp items hi i hmem).right⟩
  case mpr =>
    rintro ⟨hl, hr⟩ items rfl i hmem
    refine (hs.accepts i (hj.item hmem)).mpr ?_
    simpa using ⟨hl items rfl i hmem, hr items rfl i hmem⟩

end Schemas

-- What has to be among the values that are allowed: each item of an array, or else the value.
def enumerated : Json → List Json
  | .array items => items
  | j            => [j]

theorem wellFormed_of_mem_enumerated {j i : Json} (hj : j.WellFormed) (hi : i ∈ enumerated j) :
    i.WellFormed := by
  cases j
  case array items => exact Json.wellFormed_array.mp hj i hi
  all_goals exact List.mem_singleton.mp hi ▸ hj

theorem holds_enum {j : Json} {allowed : List Json} :
    (JsonSchema.Rule.enum allowed).holds j = true ↔
      ∀ i ∈ enumerated j, ∃ a ∈ allowed, Json.similar a i = true := by
  cases j <;> simp [JsonSchema.Rule.holds, enumerated]

theorem holds_enum_iff {j : Json} (hj : j.WellFormed) {allowed : List Json}
    (hn : ∀ i ∈ allowed, i.NumberFree) (hw : ∀ i ∈ allowed, i.WellFormed) :
    (JsonSchema.Rule.enum allowed).holds j = true ↔ ∀ i ∈ enumerated j, i ∈ allowed := by
  have hs {i : Json} (hi : i.WellFormed) : (∃ a ∈ allowed, Json.similar a i = true) ↔ i ∈ allowed := by
    constructor
    case mp =>
      rintro ⟨a, ha, he⟩
      exact ((hn a ha).similar_iff (hw a ha) hi).mp he ▸ ha
    case mpr => exact fun h => ⟨i, h, ((hn i h).similar_iff hi hi).mpr rfl⟩
  rw [holds_enum]
  exact forall₂_congr fun i hi => hs (wellFormed_of_mem_enumerated hj hi)

theorem joins_mergeAlternatives {left right : List Json} (hl : ∀ j ∈ left, j.NumberFree)
    (hr : ∀ j ∈ right, j.NumberFree) (hwl : ∀ j ∈ left, j.WellFormed)
    (hwr : ∀ j ∈ right, j.WellFormed) :
    (mergeAlternatives (.array left) (.array right)).Ensures
      (Joins "enum" (.array left) (.array right)) := by
  unfold mergeAlternatives
  simp only
  split
  case isTrue => trivial
  case isFalse =>
    have hc (j : Json) : j ∈ Json.intersect left right ↔ j ∈ left ∧ j ∈ right :=
      Json.mem_intersect hr
    have hn : ∀ j ∈ Json.intersect left right, j.NumberFree := fun j h => hl j ((hc j).mp h).left
    have hw : ∀ j ∈ Json.intersect left right, j.WellFormed := fun j h => hwl j ((hc j).mp h).left
    refine ⟨.enum hn, fun j hj => ?_⟩
    simp only [demands_enum hj]
    rw [holds_enum_iff hj.wellFormed hn hw, holds_enum_iff hj.wellFormed hl hwl,
      holds_enum_iff hj.wellFormed hr hwr]
    simp only [hc, imp_and, forall_and]

theorem hasValues_union {left right : List Json} {j : Json} :
    HasValues (Json.union left right) j ↔ HasValues left j ∧ HasValues right j := by
  simp only [HasValues, Json.string_mem_union, or_imp, imp_and, forall_and]

theorem joins_mergeNames (left right : List Json) :
    (mergeNames (.array left) (.array right)).Ensures
      (Joins "required" (.array left) (.array right)) := by
  refine ⟨.required _, fun j hj => ?_⟩
  simp only [demands_required]
  exact hasValues_union

theorem joins_mergeFlags (left right : Bool) :
    (mergeFlags (.bool left) (.bool right)).Ensures
      (Joins "uniqueItems" (.bool left) (.bool right)) := by
  refine ⟨.uniqueItems _, fun j hj => ?_⟩
  simp only [demands_uniqueItems hj]
  cases left <;> cases right <;> simp

section Limits

variable {m n : Nat} (hm : m ≤ Binary64.exactLimit) (hn : n ≤ Binary64.exactLimit)

include hm hn

-- The limits are exact as binary64 numbers, so these are compared as the limits are.
theorem mergeBound_upper :
    mergeBound Binary64.numLt (.ofNat m) (.ofNat n) = .keep (.ofNat (min m n)) := by
  have h : (mergeBound Binary64.numLt (.ofNat m) (.ofNat n)) =
      if (Binary64.ofInt n).numLt (.ofInt m) then .keep (.ofNat n) else .keep (.ofNat m) := rfl
  rw [h, Binary64.numLt_ofInt hn hm, Nat.min_def]
  by_cases hl : n < m
  case pos => simp [hl, Nat.not_le.mpr hl]
  case neg => simp [hl, Nat.not_lt.mp hl]

theorem mergeBound_lower :
    mergeBound (fun x y => y.numLt x) (.ofNat m) (.ofNat n) = .keep (.ofNat (max m n)) := by
  have h : (mergeBound (fun x y => y.numLt x) (.ofNat m) (.ofNat n)) =
      if (Binary64.ofInt m).numLt (.ofInt n) then .keep (.ofNat n) else .keep (.ofNat m) := rfl
  rw [h, Binary64.numLt_ofInt hm hn, Nat.max_def]
  by_cases hl : m < n
  case pos => simp [hl, Nat.le_of_lt hl]
  case neg =>
    by_cases he : m ≤ n
    case pos => simp [Nat.le_antisymm he (Nat.not_lt.mp hl)]
    case neg => simp [hl, he]

end Limits

theorem holds_limitRule_min {keyword : String} (h : keyword ∈ upperLimits) (m n : Nat) (j : Json) :
    (limitRule keyword (min m n)).holds j =
      ((limitRule keyword m).holds j && (limitRule keyword n).holds j) := by
  have ha (size : Option Nat) :
      size.all (· ≤ min m n) = (size.all (· ≤ m) && size.all (· ≤ n)) := by
    cases size with
    | none   => rfl
    | some k => simp only [Option.all_some, Nat.le_min, Bool.decide_and]
  simp only [upperLimits, List.mem_cons, List.not_mem_nil, or_false] at h
  rcases h with rfl | rfl | rfl <;> exact ha _

theorem holds_limitRule_max {keyword : String} (h : keyword ∈ lowerLimits) (m n : Nat) (j : Json) :
    (limitRule keyword (max m n)).holds j =
      ((limitRule keyword m).holds j && (limitRule keyword n).holds j) := by
  have ha (size : Option Nat) :
      size.all (max m n ≤ ·) = (size.all (m ≤ ·) && size.all (n ≤ ·)) := by
    cases size with
    | none   => rfl
    | some k => simp only [Option.all_some, Nat.max_le, Bool.decide_and]
  simp only [lowerLimits, List.mem_cons, List.not_mem_nil, or_false] at h
  rcases h with rfl | rfl | rfl <;> exact ha _

theorem joins_upperBound {keyword : String} (h : keyword ∈ upperLimits) {m n : Nat}
    (hm : m ≤ Binary64.exactLimit) (hn : n ≤ Binary64.exactLimit) :
    (mergeBound Binary64.numLt (.ofNat m) (.ofNat n)).Ensures
      (Joins keyword (.ofNat m) (.ofNat n)) := by
  have hk := List.mem_append_left lowerLimits h
  rw [mergeBound_upper hm hn]
  refine ⟨.limit hk (Nat.le_trans (Nat.min_le_left m n) hm), fun j hj => ?_⟩
  simp only [demands_limit hj hk, holds_limitRule_min h, Bool.and_eq_true]

theorem joins_lowerBound {keyword : String} (h : keyword ∈ lowerLimits) {m n : Nat}
    (hm : m ≤ Binary64.exactLimit) (hn : n ≤ Binary64.exactLimit) :
    (mergeBound (fun x y => y.numLt x) (.ofNat m) (.ofNat n)).Ensures
      (Joins keyword (.ofNat m) (.ofNat n)) := by
  have hk := List.mem_append_right upperLimits h
  rw [mergeBound_lower hm hn]
  refine ⟨.limit hk (Nat.max_le.mpr ⟨hm, hn⟩), fun j hj => ?_⟩
  simp only [demands_limit hj hk, holds_limitRule_max h, Bool.and_eq_true]

-- A value has two types only if these are equal or one of them is `integer` and the other `number`.
theorem isOfType_commonType? {j : Json} {left right : String} {names : List String}
    (hl : j.isOfType left = true) (hr : j.isOfType right = true) (h : right ∈ names) :
    ∃ name, commonType? names left = some name ∧ j.isOfType name = true := by
  unfold commonType?
  split
  case isTrue => exact ⟨left, rfl, hl⟩
  case isFalse hn =>
    have hne : left ≠ right := by
      rintro rfl
      exact hn (List.contains_iff_mem.mpr h)
    cases j <;> simp only [Json.isOfType, Bool.or_eq_true, Bool.and_eq_true, decide_eq_true_eq] at hl hr
    case number n =>
      rcases hl with rfl | ⟨rfl, hw⟩ <;> rcases hr with rfl | ⟨rfl, hw⟩
      case inl.inl | inr.inr => exact absurd rfl hne
      all_goals exact ⟨"integer", by simp [h], by simp [Json.isOfType, hw]⟩
    all_goals exact absurd (hl.trans hr.symm) hne

theorem isOfType_of_commonType? {j : Json} {name common : String} {names : List String}
    (hc : commonType? names name = some common) (h : j.isOfType common = true) :
    j.isOfType name = true ∧ ∃ other ∈ names, j.isOfType other = true := by
  have hi (h : j.isOfType "integer" = true) : j.isOfType "number" = true := by
    cases j <;> simp [Json.isOfType, Json.typeName] at h ⊢
  unfold commonType? at hc
  split at hc
  case isTrue hn =>
    cases hc
    exact ⟨h, name, List.contains_iff_mem.mp hn, h⟩
  case isFalse =>
    split at hc
    case isFalse => simp at hc
    case isTrue hn =>
      cases hc
      rcases hn with ⟨rfl, hn⟩ | ⟨rfl, hn⟩
      case inl => exact ⟨h, "number", List.contains_iff_mem.mp hn, hi h⟩
      case inr => exact ⟨hi h, "integer", List.contains_iff_mem.mp hn, h⟩

theorem mem_foldl_unseen (names found : List String) (name : String) :
    name ∈ names.foldl (fun found name => if found.contains name then found else found ++ [name])
      found ↔ name ∈ found ∨ name ∈ names := by
  induction names generalizing found with
  | nil => simp
  | cons first rest ih =>
    rw [List.foldl_cons, ih]
    split
    case isTrue hf =>
      have hm := List.contains_iff_mem.mp hf
      constructor
      case mp  => exact fun h => h.imp id (List.mem_cons_of_mem _)
      case mpr =>
        rintro (h | h)
        case inl => exact .inl h
        case inr => cases List.mem_cons.mp h <;> simp [*]
    case isFalse => simp [or_assoc]

theorem typeNames?_ofStrings (names : List String) : typeNames? (.ofStrings names) = some names := by
  simp only [typeNames?, Json.ofStrings, mapM_asString?]
  simp [Json.asString?, List.all_map, List.filterMap_map, Function.comp_def]

theorem joins_type {j : Json} (hj : j.Instance) {left right common : Json}
    {names others both : List String} (hl : typeNames? left = some names)
    (hr : typeNames? right = some others) (hc : typeNames? common = some both)
    (hb : ∀ name, name ∈ both ↔ name ∈ names.filterMap (commonType? others)) :
    Demands "type" common j ↔ Demands "type" left j ∧ Demands "type" right j := by
  simp only [demands_type hj, hl, hr, hc, Option.some.injEq, forall_eq', hb, List.mem_filterMap]
  constructor
  case mp =>
    rintro ⟨name, ⟨l, hl, hn⟩, h⟩
    have ⟨hj, hr⟩ := isOfType_of_commonType? hn h
    exact ⟨⟨l, hl, hj⟩, hr⟩
  case mpr =>
    rintro ⟨⟨l, hl, hjl⟩, r, hr, hjr⟩
    obtain ⟨name, hn, h⟩ := isOfType_commonType? hjl hjr hr
    exact ⟨name, ⟨l, hl, hn⟩, h⟩

theorem joins_mergeTypes (left right : Json) :
    (mergeTypes left right).Ensures (Joins "type" left right) := by
  unfold mergeTypes
  split
  case h_2 => trivial
  case h_1 names others hl hr =>
    have hm := mem_foldl_unseen (names.filterMap (commonType? others)) []
    simp only [List.not_mem_nil, false_or] at hm ⊢
    split
    case h_1 => trivial
    case h_2 single he =>
      rw [he] at hm
      exact ⟨.type _, fun j hj => joins_type hj hl hr rfl hm⟩
    case h_3 several _ _ =>
      exact ⟨.type _, fun j hj => joins_type hj hl hr (typeNames?_ofStrings _) hm⟩

theorem refused_core {s : Json}
    (h : Core s ∨ ∃ members, members ≠ [] ∧ s = anyOf members ∧ ∀ s ∈ members, Core s) :
    refused s ≠ [] ∧ (∀ r ∈ refused s, Core r) ∧
      ∀ j, j.Instance → (Accepts s j ↔ ∃ r ∈ refused s, Accepts r j) := by
  cases h
  case inr h =>
    obtain ⟨members, hn, rfl, hc⟩ := h
    exact ⟨hn, hc, fun j hj => accepts_anyOf hj hn⟩
  case inl h =>
    have he : refused s = [s] := by
      unfold refused
      split
      case h_1 => exact (not_core_anyOf h rfl).elim
      case h_2 => rfl
    simp [he, h]

theorem joins_mergeNegation {left right : Json} (hl : CoreKeyword Core "not" left)
    (hr : CoreKeyword Core "not" right) (hwl : left.WellFormed) (hwr : right.WellFormed) :
    (mergeNegation left right).Ensures (Joins "not" left right) := by
  unfold mergeNegation
  split
  case h_2 => trivial
  case h_1 current incoming =>
    have ⟨hnl, hcl, hal⟩ := refused_core (hl.forms.not rfl)
    have ⟨_, hcr, har⟩   := refused_core (hr.forms.not rfl)
    generalize hls : refused (.object current) = ls at *
    generalize hrs : refused (.object incoming) = rs at *
    have hc : ∀ s ∈ ls ++ rs, Core s ∧ s.WellFormed := by
      intro s hs
      cases List.mem_append.mp hs
      case inl hs => exact ⟨hcl s hs, wellFormed_of_mem_refused hwl (hls ▸ hs)⟩
      case inr hs => exact ⟨hcr s hs, wellFormed_of_mem_refused hwr (hrs ▸ hs)⟩
    have hu : ∀ s ∈ Json.union ls rs, Core s ∧ s.WellFormed := fun s hs =>
      hc s (List.mem_append.mpr (Json.mem_of_mem_union hs))
    have hn : Json.union ls rs ≠ [] := by
      obtain ⟨s, hs⟩ := List.exists_mem_of_ne_nil _ hnl
      obtain ⟨t, ht, _⟩ := Json.exists_mem_union (.inl hs)
      exact List.ne_nil_of_mem ht
    refine ⟨.notAny hn fun s hs => (hu s hs).left, fun j hj => ?_⟩
    simp only [demands_not hj, accepts_anyOf hj hn, hal j hj, har j hj, ← not_or]
    apply not_congr
    constructor
    case mp =>
      rintro ⟨s, hs, ha⟩
      exact (Json.mem_of_mem_union hs).imp (fun h => ⟨s, h, ha⟩) (fun h => ⟨s, h, ha⟩)
    case mpr =>
      intro h
      obtain ⟨s, hs, ha⟩ : ∃ s ∈ ls ++ rs, Accepts s j := by
        rcases h with ⟨s, hs, ha⟩ | ⟨s, hs, ha⟩ <;> exact ⟨s, by simp [hs], ha⟩
      obtain ⟨t, ht, he⟩ := Json.exists_mem_union (List.mem_append.mp hs)
      have ⟨hcs, hws⟩ := hc s hs
      have ⟨hct, hwt⟩ := hu t ht
      exact ⟨t, ht, (hct.canonical s j hwt hcs hws he hj).mpr ha⟩

theorem CoreDependency.imp {P Q : Json → Prop} {d : Json} (hi : ∀ s, P s → Q s)
    (h : CoreDependency P d) : CoreDependency Q d := by
  cases h
  case names names => exact .names names
  case schema h    => exact .schema (hi _ h)

theorem updates_unionFields? {combine : Json → Json → Option Json} {current incoming merged : Fields}
    (h : unionFields? combine current incoming = some merged) :
    Fields.Updates (United combine) current incoming merged := by
  induction incoming generalizing current with
  | nil =>
    cases h
    exact .nil
  | cons field rest ih =>
    obtain ⟨key, value⟩ := field
    simp only [unionFields?] at h
    split at h
    case h_1 hn => exact .insert (by simp [hn, United]) (ih h)
    case h_2 existing he =>
      split at h
      case isTrue hs  => exact .keep (by simp [he, United, hs]) (ih h)
      case isFalse hs =>
        split at h
        case h_2 => simp at h
        case h_1 combined hc => exact .insert (by simp [he, United, hs, hc]) (ih h)

theorem exists_dependencySchema? {d : Json} (h : CoreDependency Core d) (hw : d.WellFormed) :
    ∃ fields, dependencySchema? d = some (.object fields) ∧
      (Core (.object fields) ∧ (Json.object fields).WellFormed) ∧
      ∀ j, Requires j d ↔ Accepts (.object fields) j := by
  cases h
  case schema fields h => exact ⟨fields, rfl, ⟨h, hw⟩, fun _ => .rfl⟩
  case names names =>
    refine ⟨_, rfl, ⟨.object fun keyword value hm => ?_, hw.singleton⟩, fun _ =>
      accepts_required.symm⟩
    cases List.mem_singleton.mp hm
    exact .required names

theorem Conjoins.mergeDependency? {merge : List Json → Option Json} (hm : Conjoins merge)
    {left right merged : Json} (hl : CoreDependency Core left) (hr : CoreDependency Core right)
    (hwl : left.WellFormed) (hwr : right.WellFormed)
    (h : mergeDependency? merge left right = some merged) :
    Joint (CoreDependency Core) (fun d j => Requires j d) (some left) (some right) (some merged) := by
  obtain ⟨ls, hls, hcl, hal⟩ := exists_dependencySchema? hl hwl
  obtain ⟨rs, hrs, hcr, har⟩ := exists_dependencySchema? hr hwr
  unfold Merge.mergeDependency? at h
  split at h
  case h_1 =>
    cases h
    exact Joint.some_of (.names _) fun j _ => hasValues_union
  case h_2 =>
    simp only [hls, hrs, Option.some.injEq] at h
    have hs := hm.conjoin_pair hcl hcr
    obtain ⟨fields, he⟩ := hs.object (by simp)
    rw [h] at hs he
    subst he
    refine Joint.some_of (.schema hs.core) fun j hj => ?_
    have ha := hs.accepts j hj
    simp only [List.mem_cons, List.not_mem_nil, or_false, forall_eq_or_imp, forall_eq] at ha
    simp only [hal, har]
    exact ha

theorem demands_dependencies_iff {rules : Fields} (hw : (Json.object rules).WellFormed) {j : Json} :
    Demands "dependencies" (.object rules) j ↔
      ∀ fields, j = .object fields → ∀ name, Json.hasValue (Fields.get? fields name) = true →
        ∀ d ∈ Fields.get? rules name, Requires j d := by
  have ⟨hs, _⟩ := Json.wellFormed_object.mp hw
  rw [demands_dependencies]
  constructor
  case mp  => exact fun h fields hf name hv d hd => h fields hf name d (Fields.mem_of_get? hd) hv
  case mpr => exact fun h fields hf name d hd hv => h fields hf name hv d (hs.get? hd)

theorem Conjoins.mergeDependencies {merge : List Json → Option Json} (hm : Conjoins merge)
    (hp : Preserves merge) {left right : Fields}
    (hl : CoreKeyword Core "dependencies" (.object left))
    (hr : CoreKeyword Core "dependencies" (.object right))
    (hwl : (Json.object left).WellFormed) (hwr : (Json.object right).WellFormed) :
    (mergeFields (Merge.mergeDependency? merge) (.object left) (.object right)).Ensures
      (Joins "dependencies" (.object left) (.object right)) := by
  obtain ⟨_, he, hcl⟩ := hl.forms.dependencies rfl
  cases he
  obtain ⟨_, he, hcr⟩ := hr.forms.dependencies rfl
  cases he
  obtain ⟨hsl, hwls⟩ := Json.wellFormed_object.mp hwl
  obtain ⟨hsr, hwrs⟩ := Json.wellFormed_object.mp hwr
  refine Outcome.ensures_ofOption fun value hv => ?_
  obtain ⟨merged, hu, rfl⟩ := Option.map_eq_some_iff.mp hv
  have hwm : (Json.object merged).WellFormed :=
    wellFormed_unionFields? (fun _ _ _ ha hb => hp.mergeDependency? ha hb) hwl hwrs hu
  obtain ⟨hsm, _⟩ := Json.wellFormed_object.mp hwm
  have hj name : Joint (CoreDependency Core) (fun d j => Requires j d) (Fields.get? left name)
      (Fields.get? right name) (Fields.get? merged name) := by
    have hu := updates_unionFields? hu
    have hfl : ∀ d ∈ Fields.get? left name, CoreDependency Core d := fun d hd =>
      hcl name d (Fields.mem_of_get? hd)
    cases hr : Fields.get? right name with
    | none   =>
      rw [hu.get?_of_none hr]
      exact .left_of hfl (by simp)
    | some d =>
      have hfr := hcr name d (Fields.mem_of_get? hr)
      refine United.joint (hu.get?_of_get? hsr hr) hfl hfr ?same ?combined
      case same =>
        intro existing he hs j hj
        have hf : CoreDependency (fun s => Core s ∧ Canonical s) existing :=
          (hfl existing he).imp fun s hs => ⟨hs, hs.canonical⟩
        exact requires_of_canonical hj hf hfr (hwl.get? he) (hwr.get? hr)
          (Json.canonical_eq_of_same hs)
      case combined =>
        intro existing he combined hc
        exact hm.mergeDependency? (hfl existing he) hfr (hwl.get? he) (hwr.get? hr) hc
  constructor
  case core =>
    exact .dependencies fun name d hd => (hj name).fit d (hsm.get? hd)
  case demands =>
    intro j hji
    simp only [demands_dependencies_iff hwm, demands_dependencies_iff hwl,
      demands_dependencies_iff hwr, fun name => (hj name).means j hji, imp_and, forall_and]

theorem ofKeyword_of_mem_upperLimits {keyword : String} (h : keyword ∈ upperLimits) :
    Rule.ofKeyword keyword = .upperBound := by
  simp only [upperLimits, List.mem_cons, List.not_mem_nil, or_false] at h
  rcases h with rfl | rfl | rfl <;> rfl

theorem ofKeyword_of_mem_lowerLimits {keyword : String} (h : keyword ∈ lowerLimits) :
    Rule.ofKeyword keyword = .lowerBound := by
  simp only [lowerLimits, List.mem_cons, List.not_mem_nil, or_false] at h
  rcases h with rfl | rfl | rfl <;> rfl

theorem Conjoins.mergeValues {merge : List Json → Option Json} (hm : Conjoins merge)
    (hp : Preserves merge) {earlier later : Option Json} {keyword : String} {current incoming : Json}
    (hc : CoreKeyword Core keyword current) (hi : CoreKeyword Core keyword incoming)
    (hwc : current.WellFormed) (hwi : incoming.WellFormed) (hk : keyword ≠ "properties")
    (ha : keyword ≠ "additionalProperties") :
    (Merge.mergeValues merge earlier later keyword current incoming).Ensures
      (Joins keyword current incoming) := by
  have hi' := hi.forms
  have hall {items} : (Json.array items).WellFormed ↔ ∀ j ∈ items, j.WellFormed :=
    Json.wellFormed_array
  cases hc
  case properties | additionalProperties => contradiction
  case const | pattern | format => trivial
  case type => exact joins_mergeTypes current incoming
  case enum hn =>
    obtain ⟨others, rfl, hno⟩ := hi'.enum rfl
    exact joins_mergeAlternatives hn hno (hall.mp hwc) (hall.mp hwi)
  case required names =>
    obtain ⟨others, rfl⟩ := hi'.required rfl
    exact joins_mergeNames names others
  case uniqueItems b =>
    obtain ⟨c, rfl⟩ := hi'.uniqueItems rfl
    exact joins_mergeFlags b c
  case limit m hm hk =>
    obtain ⟨n, hn, rfl⟩ := hi'.limit hk
    unfold Merge.mergeValues
    cases List.mem_append.mp hk
    case inl hk =>
      rw [ofKeyword_of_mem_upperLimits hk]
      exact joins_upperBound hk hm hn
    case inr hk =>
      rw [ofKeyword_of_mem_lowerLimits hk]
      exact joins_lowerBound hk hm hn
  case items fields hl =>
    obtain ⟨others, rfl, hr⟩ := hi'.items rfl
    exact hm.mergeItems ⟨hl, hwc⟩ ⟨hr, hwi⟩
  case dependencies hl =>
    obtain ⟨others, rfl, hr⟩ := hi'.dependencies rfl
    exact hm.mergeDependencies hp (.dependencies hl) hi hwc hwi
  case allOf members hl =>
    obtain ⟨others, rfl, hr⟩ := hi'.allOf rfl
    exact hm.mergeConjunction (fun s hs => ⟨hl s hs, hall.mp hwc s hs⟩)
      (fun s hs => ⟨hr s hs, hall.mp hwi s hs⟩)
  case not hl       => exact joins_mergeNegation (.not hl) hi hwc hwi
  case notAny hn hl => exact joins_mergeNegation (.notAny hn hl) hi hwc hwi
  case unread hn =>
    have hj value : Joins keyword current incoming value := by
      refine ⟨.unread value hn, fun j _ => ?_⟩
      simp [demands_of_not_mem hn]
    cases Merge.mergeValues merge earlier later keyword current incoming <;> simp [Outcome.Ensures, hj]

theorem ofKeyword_ne_identifier {keyword : String} (h : keyword ∈ readKeywords) :
    Rule.ofKeyword keyword ≠ .identifier := by
  intro hi
  revert keyword
  decide

def identifiers : List String := ["$schema", "$id", "id"]

theorem ofKeyword_eq_identifier_iff {keyword : String} :
    Rule.ofKeyword keyword = .identifier ↔ keyword ∈ identifiers := by
  constructor
  case mpr =>
    intro h
    revert keyword
    decide
  case mp =>
    have hite {c : Prop} [Decidable c] {a b : Rule} (ha : a ≠ .identifier) (hb : b ≠ .identifier) :
        (if c then a else b) ≠ .identifier := by
      split <;> assumption
    intro h
    refine Decidable.byContradiction fun hn => absurd h ?_
    unfold Rule.ofKeyword
    rw [if_neg (show keyword ∉ ["$schema", "$id", "id"] from hn)]
    repeat' apply hite
    all_goals decide

-- Only what identifies a schema is left out of a merged one.
theorem mergeValues_eq_drop_iff {merge : List Json → Option Json} {earlier later : Option Json}
    {keyword : String} {current incoming : Json} :
    mergeValues merge earlier later keyword current incoming = .drop ↔ keyword ∈ identifiers := by
  rw [← ofKeyword_eq_identifier_iff]
  constructor
  case mpr =>
    intro h
    simp only [mergeValues, h]
  case mp =>
    have ho (value : Option Json) : Outcome.ofOption value ≠ .drop := by
      cases value <;> simp [Outcome.ofOption]
    intro hd
    refine Decidable.byContradiction fun hi => absurd hd ?_
    unfold mergeValues
    split
    case h_2      => exact ho _
    case h_4 h    => exact absurd h hi
    case h_5      => simp
    case h_18     => simp
    all_goals
      simp only [mergeConjunction, mergeAlternatives, mergeFields, mergeProperties, mergeItems,
        mergeSlots, mergeNegation, mergeTypes, mergeNames, mergeFlags, mergeMultiple, mergeBound]
      repeat' split
      all_goals first | exact ho _ | simp

theorem mergeValues_ne_drop {merge : List Json → Option Json} {earlier later : Option Json}
    {keyword : String} (h : keyword ∈ readKeywords) (current incoming : Json) :
    mergeValues merge earlier later keyword current incoming ≠ .drop :=
  fun hd => ofKeyword_ne_identifier h
    (ofKeyword_eq_identifier_iff.mpr (mergeValues_eq_drop_iff.mp hd))

end JsonSchema.Merge
