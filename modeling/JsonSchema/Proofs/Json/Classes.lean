import JsonSchema.Proofs.Json.Similarity

namespace JsonSchema

theorem Binary64.numEq_iff_canonical_eq {x y : Binary64} (hx : x ≠ nan) :
    x.numEq y = true ↔ x.canonical = y.canonical := by
  refine ⟨canonical_eq_of_numEq, fun h => ?_⟩
  cases x with
  | nan => exact absurd rfl hx
  | infinite m =>
    cases y with
    | nan        => cases h
    | infinite n => cases h; exact beq_self_eq_true m
    | finite n q =>
      obtain ⟨_, _, he⟩ := exists_canonical n q
      cases h.trans he
  | finite m p =>
    obtain ⟨_, _, he⟩ := exists_canonical m p
    cases y with
    | nan        => cases he.symm.trans h
    | infinite n => cases he.symm.trans h
    | finite n q => exact numEq_of_canonical_eq rfl rfl h

-- The number as a binary64 number, where zero has no sign.
def Number.byValue (n : Number) : Number := .float n.toBinary64.canonical

theorem Number.similar_iff {m n : Number} (hm : m.WellFormed) :
    m.similar n = true ↔ m.byValue = n.byValue := by
  have hv : m.byValue = n.byValue ↔ m.toBinary64.numEq n.toBinary64 = true := by
    rw [Binary64.numEq_iff_canonical_eq (toBinary64_ne_nan hm), byValue, byValue, float.injEq]
  have hs : m.same n = true → m.toBinary64.numEq n.toBinary64 = true := by
    cases m <;> cases n <;> simp only [same, Bool.false_eq_true, false_implies, beq_iff_eq]
    case integer.integer a b =>
      rintro rfl
      exact (Binary64.numEq_iff_canonical_eq (toBinary64_ne_nan hm)).mpr rfl
    case float.float => exact id
  rw [hv, similar, Bool.or_eq_true, or_iff_right_of_imp hs]

namespace Json

mutual
def mapNumbers (f : Number → Number) : Json → Json
  | null          => null
  | bool b        => bool b
  | number n      => number (f n)
  | string s      => string s
  | array items   => array (mapNumbersItems f items)
  | object fields => object (mapNumbersFields f fields)

def mapNumbersItems (f : Number → Number) : List Json → List Json
  | []        => []
  | j :: rest => mapNumbers f j :: mapNumbersItems f rest

def mapNumbersFields (f : Number → Number) : List (String × Json) → List (String × Json)
  | []             => []
  | (k, j) :: rest => (k, mapNumbers f j) :: mapNumbersFields f rest
end

variable {f : Number → Number}

theorem mapNumbersItems_eq_map (items : List Json) : mapNumbersItems f items = items.map (mapNumbers f) := by
  induction items with
  | nil            => rfl
  | cons j rest ih => simp [mapNumbersItems, ih]

theorem mapNumbersFields_eq_map (fields : Fields) :
    mapNumbersFields f fields = fields.map fun (k, j) => (k, mapNumbers f j) := by
  induction fields with
  | nil                => rfl
  | cons field rest ih => simp [mapNumbersFields, ih]

def byValue (j : Json) : Json := j.mapNumbers Number.byValue

theorem byValue_array (items : List Json) : (array items).byValue = array (items.map byValue) :=
  congrArg array (mapNumbersItems_eq_map items)

def fieldsByValue (fields : Fields) : Fields := fields.map fun (k, j) => (k, byValue j)

theorem byValue_object (fields : Fields) : (object fields).byValue = object (fieldsByValue fields) :=
  congrArg object (mapNumbersFields_eq_map fields)

theorem sorted_fieldsByValue {fields : Fields} (h : Fields.Sorted fields) :
    Fields.Sorted (fieldsByValue fields) :=
  h.of_keys_eq (Fields.keys_map (fun _ => byValue) fields)

theorem mem_fieldsByValue {fields : Fields} {k : String} {v : Json} :
    (k, v) ∈ fieldsByValue fields ↔ ∃ j, (k, j) ∈ fields ∧ j.byValue = v := by
  simp only [fieldsByValue, List.mem_map, Prod.mk.injEq, Prod.exists]
  constructor
  case mp  => rintro ⟨l, j, hj, rfl, hv⟩; exact ⟨j, hj, hv⟩
  case mpr => exact fun ⟨j, hj, hv⟩ => ⟨k, j, hj, rfl, hv⟩

variable {a b c j : Json}

-- The keys of one object are found in the other one, and since there are as many, these are all.
theorem similarFields_iff_fieldsByValue {as bs : Fields} (hs : Fields.Sorted as) (ht : Fields.Sorted bs)
    (h : ∀ k a, (k, a) ∈ as → ∀ b, (k, b) ∈ bs → (similar a b = true ↔ a.byValue = b.byValue)) :
    as.length = bs.length ∧ similarFields as bs = true ↔ fieldsByValue as = fieldsByValue bs := by
  rw [similarFields_iff_forall]
  constructor
  case mp =>
    intro ⟨hl, hf⟩
    refine (sorted_fieldsByValue hs).eq_of_subset (sorted_fieldsByValue ht) ?_ (by simpa [fieldsByValue] using hl)
    rintro ⟨k, v⟩ hv
    obtain ⟨a, ha, rfl⟩ := mem_fieldsByValue.mp hv
    obtain ⟨b, hb, hab⟩ := hf k a ha
    have hb := Fields.mem_of_get? hb
    exact mem_fieldsByValue.mpr ⟨b, hb, ((h k a ha b hb).mp hab).symm⟩
  case mpr =>
    intro he
    refine ⟨by simpa [fieldsByValue] using congrArg List.length he, fun k a ha => ?_⟩
    have hm : (k, a.byValue) ∈ fieldsByValue bs := he ▸ mem_fieldsByValue.mpr ⟨a, ha, rfl⟩
    obtain ⟨b, hb, hv⟩ := mem_fieldsByValue.mp hm
    exact ⟨b, ht.get? hb, (h k a ha b hb).mpr hv.symm⟩

theorem similar_iff_byValue (ha : a.WellFormed) (hb : b.WellFormed) :
    similar a b = true ↔ a.byValue = b.byValue := by
  induction a using induct generalizing b
  case null   => cases b <;> simp [similar, byValue, mapNumbers]
  case bool   => cases b <;> simp [similar, byValue, mapNumbers]
  case string => cases b <;> simp [similar, byValue, mapNumbers]
  case number m =>
    cases b <;> simp only [similar, byValue, mapNumbers, Bool.false_eq_true, reduceCtorEq, number.injEq]
    case number n => exact Number.similar_iff ha
  case array items ih =>
    cases b <;> simp only [similar, byValue_array, Bool.false_eq_true]
    case array others =>
      have ha := wellFormed_array.mp ha
      have hb := wellFormed_array.mp hb
      rw [array.injEq]
      exact similarItems_iff_map fun a hm b hn => ih a hm (ha a hm) (hb b hn)
    all_goals simp [byValue, mapNumbers]
  case object fields ih =>
    cases b <;> simp only [similar, byValue_object, Bool.false_eq_true]
    case object others =>
      have ⟨hs, ha⟩ := wellFormed_object.mp ha
      have ⟨ht, hb⟩ := wellFormed_object.mp hb
      rw [object.injEq, Bool.and_eq_true, decide_eq_true_eq]
      exact similarFields_iff_fieldsByValue hs ht fun k a hm b hn => ih k a hm (ha k a hm) (hb k b hn)
    all_goals simp [byValue, mapNumbers]

theorem similar_refl (ha : a.WellFormed) : similar a a = true :=
  (similar_iff_byValue ha ha).mpr rfl

theorem similar_comm (ha : a.WellFormed) (hb : b.WellFormed) : similar a b = similar b a := by
  rw [Bool.eq_iff_iff, similar_iff_byValue ha hb, similar_iff_byValue hb ha, eq_comm]

theorem similar_congr (ha : a.WellFormed) (hb : b.WellFormed) (hc : c.WellFormed) (h : similar a b = true) :
    similar a c = similar b c := by
  rw [Bool.eq_iff_iff, similar_iff_byValue ha hc, similar_iff_byValue hb hc, (similar_iff_byValue ha hb).mp h]

theorem equivalence_similar :
    Equivalence fun a b : {j : Json // j.WellFormed} => a.val.similar b.val = true where
  refl a     := similar_refl a.property
  symm h     := similar_comm (Subtype.property _) (Subtype.property _) ▸ h
  trans h h' := similar_congr (Subtype.property _) (Subtype.property _) (Subtype.property _) h ▸ h'

theorem similar_of_beq (hb : b.WellFormed) (h : (a == b) = true) : similar a b = true := by
  rw [similar_eq_of_canonical (canonical_eq_of_same h)]
  exact similar_refl hb

end Json

end JsonSchema
