import Mathlib.Data.List.Forall2
import JsonSchema.Proofs.Validator.Acceptance

namespace JsonSchema

namespace Validator

open List (Forall₂)

attribute [local simp] check

variable {v w : Validator} {vs ws : List Validator} {value : Option Json}

structure Alike (v w : Validator) : Prop where
  isNull : v.isNull = w.isNull
  check  : ∀ invert value, (v.check invert value).isNone = (w.check invert value).isNone

theorem Alike.refl (v : Validator) : Alike v v := ⟨rfl, fun _ _ => rfl⟩

theorem Alike.symm (h : Alike v w) : Alike w v :=
  ⟨h.isNull.symm, fun invert value => (h.check invert value).symm⟩

theorem Alike.trans {u : Validator} (h : Alike u v) (h' : Alike v w) : Alike u w :=
  ⟨h.isNull.trans h'.isNull, fun invert value => (h.check invert value).trans (h'.check invert value)⟩

theorem Alike.passes_iff (h : Alike v w) : v.Passes value ↔ w.Passes value := by
  simp only [Passes, ← Option.isNone_iff_eq_none, h.check]

theorem Alike.of_isNull (h : Alike v w) (hv : v.isNull = true) : v = accept ∧ w = accept :=
  ⟨eq_accept_of_isNull hv, eq_accept_of_isNull (h.isNull ▸ hv)⟩

section Members

theorem isEmpty_append {α : Type} (front back : List α) :
    (front ++ back).isEmpty = (front.isEmpty && back.isEmpty) := by
  cases front <;> rfl

theorem isEmpty_toList {α : Type} (a : Option α) : a.toList.isEmpty = a.isNone := by
  cases a <;> rfl

theorem isEmpty_failures_congr (h : Forall₂ Alike vs ws) (invert : Bool) (value : Option Json) :
    (failures vs invert value).isEmpty = (failures ws invert value).isEmpty := by
  induction h with
  | nil          => rfl
  | cons hv _ ih => simp only [failures, isEmpty_append, isEmpty_toList, hv.check, ih]

theorem anyPasses_congr (h : Forall₂ Alike vs ws) (value : Option Json) :
    anyPasses vs value = anyPasses ws value := by
  induction h with
  | nil          => rfl
  | cons hv _ ih => simp only [anyPasses, hv.check, ih]

theorem countPassing_congr (h : Forall₂ Alike vs ws) (value : Option Json) :
    countPassing vs value = countPassing ws value := by
  induction h with
  | nil          => rfl
  | cons hv _ ih => simp only [countPassing, hv.check, ih]

theorem isEmpty_inverseOfPassing_congr (h : Forall₂ Alike vs ws) (value : Option Json) :
    (inverseOfPassing vs value).isEmpty = (inverseOfPassing ws value).isEmpty := by
  induction h with
  | nil          => rfl
  | cons hv _ ih =>
    simp only [inverseOfPassing, hv.check]
    split
    case isTrue  => simp only [isEmpty_append, isEmpty_toList, hv.check, ih]
    case isFalse => exact ih

theorem active_congr (h : Forall₂ Alike vs ws) : Forall₂ Alike (active vs) (active ws) := by
  induction h with
  | nil          => exact .nil
  | cons hv _ ih =>
    simp only [active, List.filter_cons, ← hv.isNull] at ih ⊢
    split
    case isTrue  => exact .cons hv ih
    case isFalse => exact ih

theorem countP_isNull_congr (h : Forall₂ Alike vs ws) : vs.countP isNull = ws.countP isNull := by
  induction h with
  | nil          => rfl
  | cons hv _ ih => simp only [List.countP_cons, hv.isNull, ih]

theorem any_isNull_congr (h : Forall₂ Alike vs ws) : vs.any isNull = ws.any isNull := by
  induction h with
  | nil          => rfl
  | cons hv _ ih => simp only [List.any_cons, hv.isNull, ih]

theorem isEmpty_congr {α β : Type} {R : α → β → Prop} {as : List α} {bs : List β}
    (h : Forall₂ R as bs) : as.isEmpty = bs.isEmpty := by
  cases h <;> rfl

end Members

theorem failWith_congr {wrap : List Failure → Failure} {parts others : List Failure} (label : String)
    (h : parts.isEmpty = others.isEmpty) (value : Option Json) :
    (failWith label value wrap parts).isNone = (failWith label value wrap others).isNone := by
  simp only [failWith, h]
  split <;> rfl

theorem alike_allOf (h : Forall₂ Alike vs ws) : Alike (allOf vs) (allOf ws) := by
  refine ⟨rfl, fun invert value => ?_⟩
  have hf := isEmpty_failures_congr h false value
  have hi := isEmpty_inverseOfPassing_congr h value
  simp only [check, hf]
  split
  case isTrue  => rfl
  case isFalse => exact failWith_congr _ (by cases invert <;> simpa) value

theorem alike_anyOf (h : Forall₂ Alike vs ws) : Alike (anyOf vs) (anyOf ws) := by
  refine ⟨rfl, fun invert value => ?_⟩
  have hf := isEmpty_failures_congr h false value
  have hi := isEmpty_inverseOfPassing_congr h value
  simp only [check, anyPasses_congr h value]
  split
  case isTrue  => rfl
  case isFalse => exact failWith_congr _ (by cases invert <;> simpa) value

theorem alike_oneOf (passing : Nat) (h : Forall₂ Alike vs ws) :
    Alike (oneOf passing vs) (oneOf passing ws) := by
  refine ⟨rfl, fun invert value => ?_⟩
  have hf := isEmpty_failures_congr h false value
  have hi := isEmpty_inverseOfPassing_congr h value
  simp only [check, countPassing_congr h value]
  split
  case isTrue  => rfl
  case isFalse => exact failWith_congr _ (by simp only [isEmpty_append, hf, hi]) value

theorem alike_all (h : Forall₂ Alike vs ws) : Alike (all vs) (all ws) := by
  have ha := active_congr h
  unfold all
  generalize active vs = us at ha ⊢
  generalize active ws = us' at ha ⊢
  cases ha with
  | nil => exact .refl _
  | cons hv hr =>
    cases hr with
    | nil          => exact hv
    | cons hu hr => exact alike_allOf (.cons hv (.cons hu hr))

theorem alike_any (h : Forall₂ Alike vs ws) : Alike (any vs) (any ws) := by
  simp only [any, isEmpty_congr h, any_isNull_congr h]
  split
  case isTrue  => exact .refl _
  case isFalse => exact alike_anyOf h

theorem alike_one (h : Forall₂ Alike vs ws) : Alike (one vs) (one ws) := by
  have ha := active_congr h
  simp only [one, isEmpty_congr ha, countP_isNull_congr h]
  split
  case isTrue  => exact .refl _
  case isFalse => exact alike_oneOf _ ha

theorem Alike.negation (h : Alike v w) : Alike v.negation w.negation := by
  cases hv : v.isNull
  case true =>
    obtain ⟨rfl, rfl⟩ := h.of_isNull hv
    exact .refl _
  case false =>
    have hn {u : Validator} (hu : u.isNull = false) : u.negation = not u := by
      cases u
      case accept => cases hu
      all_goals rfl
    rw [hn hv, hn (h.isNull ▸ hv)]
    exact ⟨rfl, fun invert value => h.check (!invert) value⟩

theorem Alike.within {step : Validator → Validator} (h : Alike v w)
    (hs : Alike v w → Alike (step v) (step w)) : Alike (within step v) (within step w) := by
  cases hv : v.isNull
  case true =>
    obtain ⟨rfl, rfl⟩ := h.of_isNull hv
    exact .refl _
  case false =>
    have hn {u : Validator} (hu : u.isNull = false) : Validator.within step u = step u := by
      cases u
      case accept => cases hu
      all_goals rfl
    rw [hn hv, hn (h.isNull ▸ hv)]
    exact hs h

theorem focus_congr {label : String} {invert : Bool} {check check' : Bool → Option Failure}
    (h : ∀ invert, (check invert).isNone = (check' invert).isNone) :
    (focus label value invert check).isNone = (focus label value invert check').isNone := by
  have hf := h false
  have ht := h true
  cases invert <;> cases hc : check false <;> cases hc' : check' false <;>
    simp_all [focus, Option.isNone_or]

theorem checkParts_congr {label : String} {invert : Bool} {parts parts' : Bool → List Failure}
    (h : ∀ invert, (parts invert).isEmpty = (parts' invert).isEmpty) :
    (checkParts label value invert parts).isNone = (checkParts label value invert parts').isNone := by
  simp only [checkParts, h]
  split
  case h_1 | h_2 => rfl
  all_goals exact failWith_congr _ (h _) value

theorem isEmpty_filterMap_congr {α : Type} {f g : α → Option Failure}
    (h : ∀ a, (f a).isNone = (g a).isNone) (items : List α) :
    (items.filterMap f).isEmpty = (items.filterMap g).isEmpty := by
  rw [Bool.eq_iff_iff, List.isEmpty_iff, List.isEmpty_iff]
  simp only [List.filterMap_eq_nil_iff, ← Option.isNone_iff_eq_none, h]

theorem Alike.atProperty (name : String) (h : Alike v w) :
    Alike (atProperty name v) (atProperty name w) := by
  refine ⟨rfl, fun invert value => ?_⟩
  simp only [Validator.check]
  refine focus_congr fun i => ?_
  cases propertyOf? name value <;> simp [h.check]

theorem Alike.atIndex (index : Nat) (h : Alike v w) : Alike (atIndex index v) (atIndex index w) := by
  refine ⟨rfl, fun invert value => ?_⟩
  simp only [Validator.check]
  refine focus_congr fun i => ?_
  cases itemOf? index value <;> simp [h.check]

theorem Alike.everyItem (start : Nat) (h : Alike v w) :
    Alike (everyItem start v) (everyItem start w) := by
  refine ⟨rfl, fun invert value => ?_⟩
  simp only [Validator.check]
  exact checkParts_congr fun i => isEmpty_filterMap_congr (fun _ => by simp [h.check]) _

theorem Alike.otherProperties (known : List String) (h : Alike v w) :
    Alike (otherProperties known v) (otherProperties known w) := by
  refine ⟨rfl, fun invert value => ?_⟩
  simp only [Validator.check]
  exact checkParts_congr fun i => isEmpty_filterMap_congr (fun _ => by simp [h.check]) _

theorem Alike.contains {s t : Json} (h : Alike v w) : Alike (contains s v) (contains t w) := by
  refine ⟨rfl, fun invert value => ?_⟩
  simp only [Validator.check, h.check]
  cases Json.filled? value <;> simp [apply_ite Option.isNone]

theorem alike_rule {r r' : Rule} (h : ∀ j, r.holds j = r'.holds j) : Alike (rule r) (rule r') := by
  refine ⟨rfl, fun invert value => ?_⟩
  simp only [check, h]
  cases Json.filled? value <;> simp [apply_ite Option.isNone]

inductive AlikeDependency : String × Dependency Validator → String × Dependency Validator → Prop
  | names (name : String) (names : List String) : AlikeDependency (name, .names names) (name, .names names)
  | schema {v w : Validator} (name : String) :
    Alike v w → AlikeDependency (name, .schema v) (name, .schema w)

theorem isEmpty_unmet_congr {rules others : List (String × Dependency Validator)}
    (h : Forall₂ AlikeDependency rules others) (fields : Fields) (j : Json) :
    (unmet rules fields j).isEmpty = (unmet others fields j).isEmpty := by
  induction h with
  | nil => rfl
  | cons hd _ ih =>
    cases hd with
    | names name names =>
      simp only [unmet]
      split
      case isTrue  => rfl
      case isFalse => exact ih
    | schema name hv =>
      have hc := hv.check false (some j)
      simp only [unmet]
      cases Json.hasValue (Fields.get? fields name)
      case false => exact ih
      case true =>
        rename_i v w
        cases hv : v.check false (some j) <;> cases hw : w.check false (some j) <;> simp_all

theorem alike_dependent {rules others : List (String × Dependency Validator)}
    (h : Forall₂ AlikeDependency rules others) : Alike (dependent rules) (dependent others) := by
  simp only [dependent, isEmpty_congr h]
  split
  case isTrue  => exact .refl _
  case isFalse =>
    refine ⟨rfl, fun invert value => ?_⟩
    simp only [check]
    cases Json.filled? value with
    | none   => rfl
    | some j =>
      have hu (fields : Fields) := isEmpty_unmet_congr h fields j
      cases hj : j.asObject? <;> simp [hj, hu, apply_ite Option.isNone]

end Validator

end JsonSchema
