import JsonSchema.Proofs.Validator.Violations

namespace JsonSchema

open Validator
open Failure (Step under)

-- The violations of a kind are reported, each of them once.
def Enumerates (C : (place path : List Step) → Failure → Prop)
    (reported : List (List Step × Failure)) : Prop :=
  ∃ violations : List ((List Step × List Step) × Failure),
    (violations.map (·.1)).Nodup ∧
    (∀ place path record, ((place, path), record) ∈ violations ↔ C place path record) ∧
    reported = violations.map fun ((_, path), record) => (path, record)

namespace Enumerates

variable {C D : (place path : List Step) → Failure → Prop} {left right : List (List Step × Failure)}

theorem congr (h : Enumerates C left)
    (hi : ∀ place path record, D place path record ↔ C place path record) : Enumerates D left := by
  obtain ⟨violations, hn, hm, hr⟩ := h
  exact ⟨violations, hn, fun place path record => (hm ..).trans (hi ..).symm, hr⟩

theorem nil (h : ∀ place path record, ¬ C place path record) : Enumerates C [] :=
  ⟨[], .nil, by simp [h], rfl⟩

theorem singleton (place path : List Step) (record : Failure) :
    Enumerates (fun p q r => p = place ∧ q = path ∧ r = record) [(path, record)] :=
  ⟨[((place, path), record)], by simp, by simp [and_assoc], rfl⟩

theorem append (hl : Enumerates C left) (hr : Enumerates D right) (h : Apart C D) :
    Enumerates (fun place path record => C place path record ∨ D place path record)
      (left ++ right) := by
  obtain ⟨vs, hnl, hml, rfl⟩ := hl
  obtain ⟨ws, hnr, hmr, rfl⟩ := hr
  refine ⟨vs ++ ws, ?_, by simp [hml, hmr], by simp⟩
  rw [List.map_append, List.nodup_append]
  refine ⟨hnl, hnr, fun a ha b hb => ?_⟩
  obtain ⟨⟨⟨place, path⟩, l⟩, hl, rfl⟩ := List.mem_map.mp ha
  obtain ⟨⟨_, r⟩, hr, rfl⟩ := List.mem_map.mp hb
  rintro rfl
  exact h place path l r ((hml ..).mp hl) ((hmr ..).mp hr)

theorem under (h : Enumerates C left) (steps parts : List Step) :
    Enumerates (Under steps parts C) (Failure.under parts left) := by
  obtain ⟨vs, hn, hm, rfl⟩ := h
  refine ⟨vs.map fun ((place, path), record) => ((steps ++ place, parts ++ path), record), ?_, ?_, ?_⟩
  case refine_1 =>
    rw [List.map_map]
    have hn : (vs.map (·.1)).Pairwise (· ≠ ·) := hn
    rw [List.pairwise_map] at hn
    refine List.pairwise_map.mpr (hn.imp fun hne he => hne ?_)
    simpa [Prod.ext_iff] using he
  case refine_2 =>
    intro place path record
    simp only [List.mem_map, Under, Prod.mk.injEq, Prod.exists]
    constructor
    case mp =>
      rintro ⟨inner, below, _, hv, ⟨rfl, rfl⟩, rfl⟩
      exact ⟨inner, below, rfl, rfl, (hm ..).mp hv⟩
    case mpr =>
      rintro ⟨inner, below, rfl, rfl, hc⟩
      exact ⟨inner, below, record, (hm ..).mpr hc, ⟨rfl, rfl⟩, rfl⟩
  case refine_3 => simp [Failure.under]

theorem flatMap {α : Type} {items : List α} {K : α → (place path : List Step) → Failure → Prop}
    {f : α → List (List Step × Failure)} (h : ∀ x ∈ items, Enumerates (K x) (f x))
    (ha : items.Pairwise fun x y => Apart (K x) (K y)) :
    Enumerates (fun place path record => ∃ x ∈ items, K x place path record) (items.flatMap f) := by
  induction items with
  | nil => exact nil (by simp)
  | cons x rest ih =>
    have ⟨hx, hr⟩ := List.forall_mem_cons.mp h
    have ⟨hax, har⟩ := List.pairwise_cons.mp ha
    have hrest := hx.append (ih hr har) fun place path l r hl ⟨y, hy, hr⟩ =>
      hax y hy place path l r hl hr
    exact hrest.congr fun place path record => by simp

end Enumerates

theorem pairwise_zipIdx {α : Type} (items : List α) :
    items.zipIdx.Pairwise fun x y => x.2 ≠ y.2 := by
  rw [← List.pairwise_map (f := Prod.snd), List.zipIdx_map_snd]
  exact List.nodup_range'

theorem pairwise_keys {fields : Fields} (h : Fields.Sorted fields) :
    fields.Pairwise fun x y => x.1 ≠ y.1 := by
  refine List.Pairwise.imp (fun hlt he => ?_) h
  exact String.lt_irrefl _ (he ▸ hlt)

structure Reports (s : Json) : Prop where
  silentOn   : SilentOn none (ofSchema s)
  enumerates : ∀ j, j.WellFormed → Enumerates (Violates s j) (report (ofSchema s) (some j))

theorem Reports.part {s : Json} {part : Option (Option Json)} (h : Reports s)
    (hw : ∀ j, part = some (some j) → j.WellFormed) (steps parts : List Step) :
    Enumerates (ViolatesPart s part steps parts)
      (part.toList.flatMap fun j => under parts (report (ofSchema s) j)) := by
  rcases part with _ | _ | j
  case none      => exact .nil (by simp [ViolatesPart])
  case some.none =>
    simpa [report_of_silentOn h.silentOn, under] using .nil (by simp [ViolatesPart])
  case some.some =>
    simpa using ((h.enumerates j (hw j rfl)).under steps parts).congr (by simp [ViolatesPart])

theorem Reports.parts {α : Type} (items : List α) (schema : α → Json)
    (part : α → Option (Option Json)) (steps parts : α → List Step) (l m : Nat)
    (h : ∀ x ∈ items, Reports (schema x))
    (hw : ∀ x ∈ items, ∀ j, part x = some (some j) → j.WellFormed)
    (hl : ∀ x, (steps x).length = l ∧ (parts x).length = m)
    (hne : items.Pairwise fun x y => steps x ≠ steps y ∨ parts x ≠ parts y) :
    Enumerates
      (fun place path record =>
        ∃ x ∈ items, ViolatesPart (schema x) (part x) (steps x) (parts x) place path record)
      (items.flatMap fun x => (part x).toList.flatMap fun j =>
        under (parts x) (report (ofSchema (schema x)) j)) := by
  refine .flatMap (fun x hx => (h x hx).part (hw x hx) _ _) (hne.imp fun {x y} hne => ?_)
  rintro place path left right ⟨_, _, hx⟩ ⟨_, _, hy⟩
  have hs := (hl x).left.trans (hl y).left.symm
  have hp := (hl x).right.trans (hl y).right.symm
  exact apart_under hs hp hne place path left right hx hy

theorem Reports.values {α : Type} (items : List α) (schema value : α → Json)
    (steps parts : α → List Step) (l m : Nat) (h : ∀ x ∈ items, Reports (schema x))
    (hw : ∀ x ∈ items, (value x).WellFormed)
    (hl : ∀ x, (steps x).length = l ∧ (parts x).length = m)
    (hne : items.Pairwise fun x y => steps x ≠ steps y ∨ parts x ≠ parts y) :
    Enumerates
      (fun place path record => ∃ x ∈ items,
        ViolatesPart (schema x) (some (some (value x))) (steps x) (parts x) place path record)
      (items.flatMap fun x => under (parts x) (report (ofSchema (schema x)) (some (value x)))) := by
  have h := Reports.parts items schema (fun x => some (some (value x))) steps parts l m h
    (by simpa using hw) hl hne
  simpa using h

-- The keywords that make one verdict of several ones, other than their conjunction.
def combiningKeywords : List String := ["contains", "dependencies", "anyOf", "oneOf", "not"]

section Keywords

variable {node schemas : Fields} {keyword : String} {s config j : Json}

theorem enumerates_rule {r : Rule} (place : List Step) :
    Enumerates (fun p path record => Json.isEmpty (some j) = false ∧ r.holds j = false ∧
      p = place ∧ path = [] ∧ record = .rule r j) (report (.rule r) (some j)) := by
  rw [report_rule]
  split
  case isTrue h  =>
    refine .nil fun _ _ _ hv => ?_
    simp [hv.left, hv.right.left] at h
  case isFalse h =>
    simp only [Bool.or_eq_true, not_or, Bool.not_eq_true] at h
    exact (Enumerates.singleton place [] _).congr (by simp [h])

theorem enumerates_lacksName (entry : Json × Nat) :
    Enumerates (LacksName j entry) (entry.1.asString?.toList.flatMap fun name =>
      (propertyOf? name (some j)).toList.flatMap fun part =>
        under [.property name] (if Json.hasValue part then [] else [([], .required)])) := by
  obtain ⟨s, i⟩ := entry
  cases s
  case string name =>
    cases j
    case object fields =>
      cases hv : Json.hasValue (Fields.get? fields name)
      case false =>
        simpa [Json.asString?, propertyOf?, Json.asObject?, hv, under] using
          (Enumerates.singleton [.property "required", .item i] [.property name] .required).congr
            (by simp [LacksName, hv])
      case true =>
        simpa [Json.asString?, propertyOf?, Json.asObject?, hv, under] using
          .nil (by simp [LacksName, hv])
    all_goals exact .nil (by simp [LacksName])
  all_goals exact .nil (by simp [LacksName])

theorem enumerates_requiredNames {names : List Json} :
    Enumerates (PlainViolates node "required" (.array names) j)
      (report (requiredNames names) (some j)) := by
  rw [report_requiredNames]
  have h := Enumerates.flatMap (fun entry _ => enumerates_lacksName (j := j) entry)
    ((pairwise_zipIdx names).imp fun {x y} hne => ?_)
  case refine_1 =>
    rintro _ _ _ _ ⟨_, _, _, _, _, rfl, _⟩ ⟨_, _, _, _, _, hp, _⟩
    simp [hne] at hp
  refine h.congr fun place path record => ?_
  simp [PlainViolates, ofPlainIn?, requiredNames_ne_rule]

theorem ofPlainIn?_cases {v : Validator} (hr : ∀ b, keyword = "required" → config ≠ .bool b)
    (hv : ofPlainIn? node keyword config = some v) :
    v = accept ∨ (∃ r, v = .rule r) ∨
      ∃ names, keyword = "required" ∧ config = .array names ∧ v = requiredNames names := by
  have hplain (h : ofPlain? keyword config = some v) : v = accept ∨ ∃ r, v = .rule r := by
    unfold ofPlain? at h
    split at h
    case h_1 =>
      cases config <;> simp [Json.asBool?] at h
      case bool b => exact absurd rfl (hr b rfl)
    case h_6 =>
      obtain ⟨r, _, rfl⟩ := Option.map_eq_some_iff.mp h
      exact .inr ⟨r, rfl⟩
    all_goals
      obtain ⟨_, _, rfl⟩ := Option.map_eq_some_iff.mp h
      simp only [uniqueItemsIf, pattern, format, multipleOf]
      split
      all_goals first | exact .inl rfl | exact .inr ⟨_, rfl⟩
  unfold ofPlainIn? at hv
  split at hv
  case h_1 | h_2   => simp at hv
  case h_3 | h_4   => cases hv; exact .inr (.inl ⟨_, rfl⟩)
  case h_5 names   => cases hv; exact .inr (.inr ⟨names, rfl, rfl, rfl⟩)
  case h_6         => exact (hplain hv).imp_right .inl

theorem enumerates_plain (hr : ∀ b, keyword = "required" → config ≠ .bool b) :
    Enumerates (PlainViolates node keyword config j)
      ((ofPlainIn? node keyword config).toList.flatMap (report · (some j))) := by
  by_cases h : ∃ names, keyword = "required" ∧ config = .array names
  case pos =>
    obtain ⟨names, rfl, rfl⟩ := h
    simpa [ofPlainIn?] using enumerates_requiredNames
  case neg =>
    have hp {place path record} : PlainViolates node keyword config j place path record ↔
        ∃ r, ofPlainIn? node keyword config = some (.rule r) ∧ Json.isEmpty (some j) = false ∧
          r.holds j = false ∧ place = [.property keyword] ∧ path = [] ∧ record = .rule r j :=
      or_iff_left fun ⟨names, hk, hc, _⟩ => h ⟨names, hk, hc⟩
    cases hv : ofPlainIn? node keyword config with
    | none   => exact .nil fun _ _ _ hv' => by simp [hp, hv] at hv'
    | some v =>
      rcases ofPlainIn?_cases hr hv with rfl | ⟨r, rfl⟩ | ⟨names, hk, hc, _⟩
      case inl          => simpa [report_accept] using .nil fun _ _ _ hv' => by simp [hp, hv] at hv'
      case inr.inl      =>
        simpa using (enumerates_rule [.property keyword]).congr fun _ _ _ => by simp [hp, hv]
      case inr.inr      => exact absurd ⟨names, hk, hc⟩ h

theorem enumerates_properties (hs : ∀ name s, (name, s) ∈ schemas → Reports s)
    (hw : (Json.object schemas).WellFormed) (hj : j.WellFormed) :
    Enumerates (ViolatesBy node "properties" (.object schemas) j)
      (report (all (ofProperties schemas)) (some j)) := by
  rw [report_all, ofProperties_eq_map, List.flatMap_map]
  simp only [report_atProperty]
  refine Reports.parts schemas (·.2) (propertyOf? ·.1 (some j))
    (fun field => [.property "properties", .property field.1]) (fun field => [.property field.1])
    2 1 (fun field hf => hs _ _ hf) (fun field _ part hp => ?_) (fun _ => ⟨rfl, rfl⟩) ?_
  case refine_1 =>
    obtain ⟨fields, rfl, hg⟩ := propertyOf?_eq_some.mp hp
    exact hj.get? hg
  case refine_2 =>
    exact (pairwise_keys (Json.wellFormed_object.mp hw).left).imp fun hne => by simp [hne]

theorem enumerates_otherProperties (hs : Reports s) (hj : j.WellFormed) :
    Enumerates (ViolatesBy node "additionalProperties" s j)
      (report (within (otherProperties (knownNames node)) (ofSchema s)) (some j)) := by
  have hp : (propertiesBut (knownNames node) (some j)).Pairwise fun x y => x.1 ≠ y.1 := by
    cases j
    case object fields =>
      exact (pairwise_keys (Json.wellFormed_object.mp hj).left).filter _
    all_goals exact .nil
  rw [report_otherProperties]
  refine Reports.values _ (fun _ => s) (·.2) (fun _ => [.property "additionalProperties"])
    (fun field => [.property field.1]) 1 1 (fun _ _ => hs) (fun field hf => ?_)
    (fun _ => ⟨rfl, rfl⟩) (hp.imp fun hne => by simp [hne])
  obtain ⟨fields, rfl, hm, _⟩ := mem_propertiesBut.mp hf
  exact (Json.wellFormed_object.mp hj).right _ _ hm

theorem enumerates_itemsFrom (hs : Reports s) (hj : j.WellFormed) (start : Nat) (keyword : String) :
    Enumerates
      (fun place path record => ∃ entry ∈ itemsFrom start (some j), ViolatesPart s
        (some (some entry.1)) [.property keyword] [.item entry.2] place path record)
      (report (within (everyItem start) (ofSchema s)) (some j)) := by
  have hp : (itemsFrom start (some j)).Pairwise fun x y => x.2 ≠ y.2 := (pairwise_zipIdx _).drop
  rw [report_everyItem]
  refine Reports.values _ (fun _ => s) (·.1) (fun _ => [.property keyword])
    (fun entry => [.item entry.2]) 1 1 (fun _ _ => hs) (fun entry he => ?_)
    (fun _ => ⟨rfl, rfl⟩) (hp.imp fun hne => by simp [hne])
  obtain ⟨items, rfl, _, hi⟩ := mem_itemsFrom.mp he
  exact Json.wellFormed_array.mp hj _ (List.mem_of_getElem? hi)

theorem enumerates_tuple {slots : List Json} (hs : ∀ s ∈ slots, Reports s)
    (ho : ∀ s, Fields.get? node "additionalItems" = some s → Reports s) (hj : j.WellFormed) :
    Enumerates (ViolatesBy node "items" (.array slots) j)
      (report (all (ofTuple 0 slots ++
        ((ofAdditionalItems node).map (within (everyItem slots.length))).toList)) (some j)) := by
  rw [report_all, ofTuple_eq_map, List.flatMap_append, List.flatMap_map]
  simp only [report_atIndex]
  refine Enumerates.append (Reports.parts slots.zipIdx (·.1) (itemOf? ·.2 (some j))
    (fun entry => [.property "items", .item entry.2]) (fun entry => [.item entry.2])
    2 1 (fun entry he => ?_) (fun entry _ part hp => ?_) (fun _ => ⟨rfl, rfl⟩) ?_) ?_ ?_
  case refine_1 => exact hs _ (List.mem_of_getElem? (List.mem_zipIdx_iff_getElem?.mp he))
  case refine_2 =>
    obtain ⟨items, rfl, hi⟩ := itemOf?_eq_some.mp hp
    exact Json.wellFormed_array.mp hj _ (List.mem_of_getElem? hi)
  case refine_3 => exact (pairwise_zipIdx slots).imp fun hne => by simp [hne]
  case refine_4 =>
    rw [ofAdditionalItems_eq]
    cases ha : Fields.get? node "additionalItems" with
    | none   => exact .nil (by simp)
    | some s => simpa using enumerates_itemsFrom (ho s ha) hj slots.length "additionalItems"
  case refine_5 =>
    rintro _ _ _ _ ⟨_, _, _, _, _, _, rfl, _⟩ ⟨_, _, _, _, _, _, _, _, h, _⟩
    simp at h

theorem enumerates_allOf {members : List Json} (hs : ∀ s ∈ members, Reports s) (hj : j.WellFormed) :
    Enumerates (ViolatesBy node "allOf" (.array members) j)
      (report (all (ofSchemas members)) (some j)) := by
  have hm : ofSchemas members = members.zipIdx.map fun entry => ofSchema entry.1 := by
    rw [ofSchemas_eq_map, ← List.zipIdx_map_fst 0 members, List.map_map]
    simp [Function.comp_def]
  rw [report_all, hm, List.flatMap_map]
  have h := Reports.values members.zipIdx (·.1) (fun _ => j)
    (fun entry => [.property "allOf", .item entry.2]) (fun _ => []) 2 0
    (fun entry he => hs _ (List.mem_of_getElem? (List.mem_zipIdx_iff_getElem?.mp he)))
    (fun _ _ => hj) (fun _ => ⟨rfl, rfl⟩) ((pairwise_zipIdx members).imp fun hne => by simp [hne])
  simp only [Failure.under_nil] at h
  exact h

theorem enumerates_keyword (hs : ∀ s : Json, s.Below node → Reports s)
    (hw : (Json.object node).WellFormed) (hj : j.WellFormed)
    (hr : ∀ b, keyword = "required" → config ≠ .bool b)
    (hk : keyword ∉ combiningKeywords)
    (hm : (keyword, config) ∈ node) :
    Enumerates (ViolatesBy node keyword config j)
      ((ofKeywordIn? node (ofAdditionalItems node) keyword config).toList.flatMap
        (report · (some j))) := by
  have hb {s : Json} (h : s.AppliedBy keyword config) : Reports s := hs s ⟨keyword, config, hm, h⟩
  have hc : config.WellFormed := (Json.wellFormed_object.mp hw).right keyword config hm
  have hone {K : (place path : List Step) → Failure → Prop} {v : Validator}
      (h : Enumerates K (report v (some j))) :
      Enumerates K ((some v).toList.flatMap (report · (some j))) := by
    simpa using h
  simp only [ofKeywordIn?]
  cases ha : Applicator.ofName? keyword with
  | none   => exact (enumerates_plain hr).congr (by simp [ViolatesBy, ha])
  | some a =>
    obtain rfl := Applicator.eq_name ha
    cases a
    case contains | dependencies | anyOf | oneOf | not => simp [Applicator.name, combiningKeywords] at hk
    case properties =>
      cases config
      case object => exact hone (enumerates_properties (fun name s h => hb (.property h)) hc hj)
      all_goals exact .nil fun _ _ _ h => h
    case additionalProperties => exact hone (enumerates_otherProperties (hb .otherProperties) hj)
    case items =>
      cases config
      case array slots =>
        exact hone <| enumerates_tuple (fun s h => hb (.slot h))
          (fun s h => hs s ⟨_, s, Fields.mem_of_get? h, .otherItems⟩) hj
      case object | bool => exact hone (enumerates_itemsFrom (hb .items) hj 0 "items")
      all_goals
        refine .nil ?_
        rintro _ _ _ ⟨_, _, _, _, _, _, _, _, h⟩
        cases h
    case allOf =>
      cases config
      case array => exact hone (enumerates_allOf (fun s h => hb (.allOf h)) hj)
      all_goals exact .nil fun _ _ _ h => h

end Keywords

-- A schema whose keywords each speak of parts of a value one by one: nothing is left to alternatives or
-- negated, no list is searched, and names are required by lists.
structure Json.Conjunctive (schema : Json) : Prop where
  requiresNames : schema.RequiresNames
  keywords      : ∀ node keyword, (Json.object node).Subschema schema →
    keyword ∈ combiningKeywords → keyword ∉ Fields.keys node

theorem Json.Conjunctive.below {s : Json} {node : Fields} (h : (Json.object node).Conjunctive)
    (hs : s.Below node) : s.Conjunctive where
  requiresNames := h.requiresNames.below hs
  keywords      := fun inner keyword hi => h.keywords inner keyword (.inner hs hi)

theorem Json.conjunctive_of_nodes {schema : Json}
    (h : (schema.nodes .root).all fun entry => (entry.2.asObject?.getD []).all fun field =>
      (field.1 != "required" || field.2.isArray) &&
        decide (field.1 ∉ combiningKeywords)) :
    schema.Conjunctive := by
  have hn {node : Fields} {keyword : String} {config : Json} (hs : (object node).Subschema schema)
      (hm : (keyword, config) ∈ node) : (keyword ≠ "required" ∨ config.isArray = true) ∧
        keyword ∉ combiningKeywords := by
    obtain ⟨p, hp⟩ := hs.occurs.exists_mem_nodes .root
    simpa using List.all_eq_true.mp (List.all_eq_true.mp h _ hp) _ hm
  constructor
  case requiresNames => exact fun node b hs hm => by simpa [isArray] using (hn hs hm).left
  case keywords =>
    intro node keyword hs hk hm
    obtain ⟨field, hf, rfl⟩ := List.mem_map.mp hm
    exact (hn hs hf).right hk

-- By induction on the schema: its keywords report their violations, and none of them those of others.
theorem reports_ofSchema {schema : Json} (h : schema.Conjunctive) (hw : schema.WellFormed) :
    Reports schema := by
  refine ⟨silentOn_none_ofSchema h.requiresNames, fun j hj => ?_⟩
  induction schema using Json.schema_induct generalizing j
  case bool b =>
    cases b
    case true  => exact report_accept ▸ .nil fun _ _ _ hv => by cases hv
    case false =>
      rw [ofSchema, report_falseSchema]
      split
      case isTrue he  => exact .nil fun _ _ _ hv => by cases hv; simp_all
      case isFalse he =>
        refine (Enumerates.singleton [] [] .falseSchema).congr fun _ _ _ => ⟨?_, ?_⟩
        case refine_1 => rintro ⟨_⟩; simp
        case refine_2 => rintro ⟨rfl, rfl, rfl⟩; exact .never (by simpa using he)
  case object node ih =>
    have hs (s : Json) (hs : s.Below node) : Reports s :=
      ⟨silentOn_none_ofSchema (h.below hs).requiresNames, ih s hs (h.below hs) (hw.below hs)⟩
    rw [report_ofSchema]
    refine (Enumerates.flatMap (fun field hf => ?_) ?_).congr fun _ _ _ => violates_object
    case refine_1 =>
      refine enumerates_keyword hs hw hj (fun b hk hb => ?_) (fun hk => ?_) hf
      case refine_1 => exact h.requiresNames node b .self (hk ▸ hb ▸ hf)
      case refine_2 => exact h.keywords node _ .self hk (List.mem_map_of_mem hf)
    case refine_2 =>
      exact (pairwise_keys (Json.wellFormed_object.mp hw).left).imp apart_violatesBy
  case other s hb ho =>
    cases s
    case bool b      => exact absurd rfl (hb b)
    case object node => exact absurd rfl (ho node)
    all_goals exact report_accept ▸ .nil fun _ _ _ hv => by cases hv

theorem exists_violations_report {schema j : Json} (h : schema.Conjunctive) (hw : schema.WellFormed)
    (hj : j.WellFormed) :
    ∃ violations : List ((List Step × List Step) × Failure),
      (violations.map (·.1)).Nodup ∧
      (∀ place path record,
        ((place, path), record) ∈ violations ↔ Violates schema j place path record) ∧
      report (ofSchema schema) (some j) = violations.map fun ((_, path), record) => (path, record) :=
  (reports_ofSchema h hw).enumerates j hj

-- A missing name, a wrong type and two wrong items, one of them beyond the tuple.
theorem exists_violations_report_person :
    let schema := Json.object [
      ("allOf", .array [
        .object [("required", .ofStrings ["name", "city"])], .object [("minProperties", .ofNat 2)]]),
      ("properties", .object [
        ("name", .object [("type", .string "string")]),
        ("tags", .object [
          ("additionalItems", .object [("type", .string "boolean")]),
          ("items", .array [.object [("type", .string "string")]])])])]
    let person := Json.object [("name", .bool true), ("tags", .array [.bool false, .string "tag"])]
    schema.Conjunctive ∧ schema.WellFormed ∧ person.WellFormed ∧
      ∃ violations : List ((List Step × List Step) × Failure),
        (violations.map (·.1)).Nodup ∧
        (∀ place path record,
          ((place, path), record) ∈ violations ↔ Violates schema person place path record) ∧
        (violations.map fun ((_, path), record) => (path, record)) = [
          ([.property "city"], .required),
          ([.property "name"], .rule (.type (.string "string")) (.bool true)),
          ([.property "tags", .item 0], .rule (.type (.string "string")) (.bool false)),
          ([.property "tags", .item 1], .rule (.type (.string "boolean")) (.string "tag"))] := by
  intro schema person
  have hs : schema.Conjunctive := Json.conjunctive_of_nodes (by decide +kernel)
  have hw : schema.WellFormed := by decide
  have hp : person.WellFormed := by decide
  obtain ⟨violations, hn, hm, hr⟩ := exists_violations_report hs hw hp
  exact ⟨hs, hw, hp, violations, hn, hm, hr.symm⟩

end JsonSchema
