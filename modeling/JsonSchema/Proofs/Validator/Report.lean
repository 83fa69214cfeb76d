import JsonSchema.Proofs.Validator.Silence

namespace JsonSchema

open Validator

inductive Failure.Step where
  | property (name : String)
  | item (index : Nat)

namespace Failure

def under (steps : List Step) (leaves : List (List Step × Failure)) : List (List Step × Failure) :=
  leaves.map fun (path, leaf) => (steps ++ path, leaf)

theorem under_nil (leaves : List (List Step × Failure)) : under [] leaves = leaves := by
  simp [under]

mutual
-- The failures that a failure is made of, each with the path to the part of the value that fails.
def leaves : Failure → List (List Step × Failure)
  | .allOf members         => leavesOf members
  | .property name failure => under [.property name] failure.leaves
  | .item index failure    => under [.item index] failure.leaves
  | leaf                   => [([], leaf)]

def leavesOf : List Failure → List (List Step × Failure)
  | []      => []
  | f :: fs => f.leaves ++ leavesOf fs
end

theorem leavesOf_eq_flatMap (fs : List Failure) : leavesOf fs = fs.flatMap leaves := by
  induction fs with
  | nil          => rfl
  | cons f fs ih => simp [leavesOf, ih]

end Failure

open Failure (Step under)

namespace Validator

def report (v : Validator) (value : Option Json) : List (List Step × Failure) :=
  (v.validate value).toList.flatMap Failure.leaves

section Report

attribute [local simp] check

variable {v : Validator} {members : List Validator} {value : Option Json} {j : Json}

theorem report_accept : report accept value = [] := by
  simp [report, validate]

theorem report_of_silentOn (h : SilentOn value v) : report v value = [] := by
  simp [report, validate, h false]

theorem report_eq_flatMap (members : List Validator) (value : Option Json) :
    (failures members false value).flatMap Failure.leaves = members.flatMap (report · value) := by
  induction members with
  | nil          => rfl
  | cons v vs ih => simp [failures, report, validate, ih]

theorem report_active :
    (active members).flatMap (report · value) = members.flatMap (report · value) := by
  induction members with
  | nil => rfl
  | cons v vs ih =>
    simp only [active, List.filter_cons]
    by_cases hn : v.isNull = true
    case neg => simpa [hn, active] using ih
    case pos =>
      obtain rfl := eq_accept_of_isNull hn
      simpa [isNull, active, report_accept] using ih

theorem leaves_failWith (label : String) (value : Option Json) (parts : List Failure) :
    (if parts.isEmpty then none else failWith label value .allOf parts).toList.flatMap
      Failure.leaves = parts.flatMap Failure.leaves := by
  cases parts <;> simp [failWith, Failure.leaves, Failure.leavesOf_eq_flatMap]

theorem report_all : report (all members) value = members.flatMap (report · value) := by
  rw [← report_active]
  unfold all
  split
  case h_1 h => simp [h, report_accept]
  case h_2 h => simp [h]
  case h_3   =>
    rw [← report_eq_flatMap, ← leaves_failWith "allOf" value]
    simp [report, validate]

theorem report_within {step : Validator → Validator} (h : report (step accept) value = []) :
    report (within step v) value = report (step v) value := by
  unfold within
  split
  case h_1 => rw [h, report_accept]
  case h_2 => rfl

theorem leaves_map_property {name : String} {failure : Option Failure} :
    (failure.map (.property name)).toList.flatMap Failure.leaves =
      under [.property name] (failure.toList.flatMap Failure.leaves) := by
  cases failure <;> simp [Failure.leaves, under]

theorem leaves_map_item {index : Nat} {failure : Option Failure} :
    (failure.map (.item index)).toList.flatMap Failure.leaves =
      under [.item index] (failure.toList.flatMap Failure.leaves) := by
  cases failure <;> simp [Failure.leaves, under]

theorem report_atProperty {name : String} :
    report (within (atProperty name) v) value =
      (propertyOf? name value).toList.flatMap fun part => under [.property name] (report v part) := by
  have h {v : Validator} : report (atProperty name v) value =
      (propertyOf? name value).toList.flatMap fun part => under [.property name] (report v part) := by
    simp only [report, validate, check, focus_false]
    cases propertyOf? name value <;> simp [leaves_map_property]
  rw [report_within, h]
  simp [h, report_accept, under]

theorem report_atIndex {index : Nat} :
    report (within (atIndex index) v) value =
      (itemOf? index value).toList.flatMap fun part => under [.item index] (report v part) := by
  have h {v : Validator} : report (atIndex index v) value =
      (itemOf? index value).toList.flatMap fun part => under [.item index] (report v part) := by
    simp only [report, validate, check, focus_false]
    cases itemOf? index value <;> simp [leaves_map_item]
  rw [report_within, h]
  simp [h, report_accept, under]

theorem leaves_checkParts (label : String) (failures : Bool → List Failure) :
    (checkParts label value false failures).toList.flatMap Failure.leaves =
      (failures false).flatMap Failure.leaves := by
  rw [← leaves_failWith label value (failures false)]
  simp only [checkParts]
  cases (failures false).isEmpty <;> rfl

theorem flatMap_filterMap {α β γ : Type} (parts : List α) (f : α → Option β) (g : β → List γ) :
    (parts.filterMap f).flatMap g = parts.flatMap fun part => (f part).toList.flatMap g := by
  induction parts with
  | nil => rfl
  | cons part rest ih => cases h : f part <;> simp [h, ih]

theorem report_everyItem {start : Nat} :
    report (within (everyItem start) v) value =
      (itemsFrom start value).flatMap fun (j, index) => under [.item index] (report v (some j)) := by
  have h {v : Validator} : report (everyItem start v) value =
      (itemsFrom start value).flatMap fun (j, index) =>
        under [.item index] (report v (some j)) := by
    simp only [report, validate, check, leaves_checkParts, flatMap_filterMap, leaves_map_item]
  rw [report_within, h]
  simp [h, report_accept, under]

theorem report_otherProperties {known : List String} :
    report (within (otherProperties known) v) value =
      (propertiesBut known value).flatMap fun (name, j) =>
        under [.property name] (report v (some j)) := by
  have h {v : Validator} : report (otherProperties known v) value =
      (propertiesBut known value).flatMap fun (name, j) =>
        under [.property name] (report v (some j)) := by
    simp only [report, validate, check, leaves_checkParts, flatMap_filterMap, leaves_map_property]
  rw [report_within, h]
  simp [h, report_accept, under]

theorem report_rule {r : Rule} :
    report (rule r) (some j) =
      if Json.isEmpty (some j) || r.holds j then [] else [([], .rule r j)] := by
  cases he : Json.isEmpty (some j)
  case true  => simp [report_of_silentOn (silentOn_rule he r)]
  case false => cases h : r.holds j <;> simp [report, validate, filled?_eq_some he, h, Failure.leaves]

theorem report_falseSchema :
    report falseSchema (some j) = if Json.isEmpty (some j) then [] else [([], .falseSchema)] := by
  cases h : Json.isEmpty (some j) <;> simp [report, validate, h, Failure.leaves]

theorem report_required :
    report required value = if Json.hasValue value then [] else [([], .required)] := by
  cases h : Json.hasValue value <;> simp [report, validate, h, Failure.leaves]

theorem report_requiredNames (names : List Json) (value : Option Json) :
    report (requiredNames names) value = names.zipIdx.flatMap fun entry =>
      entry.1.asString?.toList.flatMap fun name => (propertyOf? name value).toList.flatMap fun part =>
        under [.property name] (if Json.hasValue part then [] else [([], .required)]) := by
  have h (g : Json → List (List Step × Failure)) :
      names.flatMap g = names.zipIdx.flatMap fun entry => g entry.1 := by
    rw [← List.flatMap_map Prod.fst, List.zipIdx_map_fst]
  rw [requiredNames, report_all, List.flatMap_map, flatMap_filterMap, h]
  simp only [report_atProperty, report_required]

theorem ofProperties_eq_map (schemas : Fields) :
    ofProperties schemas = schemas.map fun (name, s) => within (atProperty name) (ofSchema s) := by
  induction schemas with
  | nil                => rfl
  | cons field rest ih => simp [ofProperties, ih]

theorem ofTuple_eq_map (index : Nat) (slots : List Json) :
    ofTuple index slots =
      (slots.zipIdx index).map fun (s, i) => within (atIndex i) (ofSchema s) := by
  induction slots generalizing index with
  | nil               => rfl
  | cons slot rest ih => simp [ofTuple, ih]

theorem report_ofSchema {node : Fields} :
    report (ofSchema (.object node)) value = node.flatMap fun (keyword, config) =>
      (ofKeywordIn? node (ofAdditionalItems node) keyword config).toList.flatMap
        (report · value) := by
  rw [ofSchema, report_all, ofKeywords_eq_flatMap, List.flatMap_assoc]

end Report

end Validator

end JsonSchema
