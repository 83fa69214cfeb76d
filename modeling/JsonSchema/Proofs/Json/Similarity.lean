import JsonSchema.Json.Similarity
import JsonSchema.Proofs.Json.WellFormed

namespace JsonSchema

namespace Json

inductive NumberFree : Json → Prop
  | null : NumberFree null
  | bool (b : Bool) : NumberFree (bool b)
  | string (s : String) : NumberFree (string s)
  | array {items} : (∀ j ∈ items, NumberFree j) → NumberFree (array items)
  | object {fields} : (∀ key j, (key, j) ∈ fields → NumberFree j) → NumberFree (object fields)

theorem sameItems_iff {as bs : List Json} (h : ∀ a ∈ as, ∀ b, same a b = true ↔ a = b) :
    sameItems as bs = true ↔ as = bs := by
  induction as generalizing bs with
  | nil => cases bs <;> simp [sameItems]
  | cons a as ih =>
    have ⟨ha, has⟩ := List.forall_mem_cons.mp h
    cases bs <;> simp [sameItems, ha, ih has]

theorem sameFields_iff {as bs : Fields} (h : ∀ k a, (k, a) ∈ as → ∀ b, same a b = true ↔ a = b) :
    sameFields as bs = true ↔ as = bs := by
  induction as generalizing bs with
  | nil => cases bs <;> simp [sameFields]
  | cons field as ih =>
    obtain ⟨k, a⟩ := field
    have ha := h k a List.mem_cons_self
    have has : sameFields as bs.tail = true ↔ as = bs.tail :=
      ih fun k a hk => h k a (List.mem_cons_of_mem _ hk)
    cases bs with
    | nil            => simp [sameFields]
    | cons field bs => obtain ⟨l, b⟩ := field; simp_all [sameFields]

theorem NumberFree.same_iff {a b : Json} (ha : a.NumberFree) : same a b = true ↔ a = b := by
  induction a using induct generalizing b
  case null => cases b <;> simp [same]
  case bool => cases b <;> simp [same]
  case string => cases b <;> simp [same]
  case number => cases ha
  case array items ih =>
    cases ha
    case array ha =>
      cases b <;> simp [same]
      case array bs => exact sameItems_iff fun a hm b => ih a hm (ha a hm)
  case object fields ih =>
    cases ha
    case object ha =>
      cases b <;> simp [same]
      case object bs => exact sameFields_iff fun k a hm b => ih k a hm (ha k a hm)

theorem similarItems_iff_map {α : Type} {f : Json → α} {as bs : List Json}
    (h : ∀ a ∈ as, ∀ b ∈ bs, similar a b = true ↔ f a = f b) :
    similarItems as bs = true ↔ as.map f = bs.map f := by
  induction as generalizing bs with
  | nil => cases bs <;> simp [similarItems]
  | cons a as ih =>
    cases bs with
    | nil => simp [similarItems]
    | cons b bs =>
      have ha := h a List.mem_cons_self b List.mem_cons_self
      have has : similarItems as bs = true ↔ as.map f = bs.map f := ih fun a hm b hb =>
        h a (List.mem_cons_of_mem _ hm) b (List.mem_cons_of_mem _ hb)
      simp [similarItems, ha, has]

theorem similarItems_iff {as bs : List Json}
    (h : ∀ a ∈ as, ∀ b ∈ bs, similar a b = true ↔ a = b) :
    similarItems as bs = true ↔ as = bs := by
  simpa using similarItems_iff_map (f := id) h

theorem similarFields_iff_forall {as bs : Fields} : similarFields as bs = true ↔
    ∀ k a, (k, a) ∈ as → ∃ b, Fields.get? bs k = some b ∧ similar a b = true := by
  induction as with
  | nil => simp [similarFields]
  | cons field as ih =>
    obtain ⟨k, a⟩ := field
    have hm : similarFields ((k, a) :: as) bs = true ↔
        (∃ b, Fields.get? bs k = some b ∧ similar a b = true) ∧ similarFields as bs = true := by
      simp only [similarFields, Bool.and_eq_true]
      cases Fields.get? bs k <;> simp
    simp only [hm, ih, List.mem_cons, Prod.mk.injEq]
    constructor
    case mp =>
      intro ⟨hk, hr⟩ l c hl
      cases hl
      case inl hl => exact hl.left ▸ hl.right ▸ hk
      case inr hl => exact hr l c hl
    case mpr => exact fun h => ⟨h k a (.inl ⟨rfl, rfl⟩), fun l c hl => h l c (.inr hl)⟩

theorem similarFields_iff {as bs : Fields}
    (h : ∀ k a, (k, a) ∈ as → ∀ b, (k, b) ∈ bs → (similar a b = true ↔ a = b)) :
    similarFields as bs = true ↔ ∀ k a, (k, a) ∈ as → Fields.get? bs k = some a := by
  rw [similarFields_iff_forall]
  refine forall₂_congr fun k a => forall_congr' fun ha => ⟨?_, fun hk => ?_⟩
  case refine_1 =>
    rintro ⟨b, hb, hs⟩
    rw [hb, (h k a ha b (Fields.mem_of_get? hb)).mp hs]
  case refine_2 => exact ⟨a, hk, (h k a ha a (Fields.mem_of_get? hk)).mpr rfl⟩

theorem exists_similar_of_similarItems {as bs : List Json} (h : similarItems as bs = true) {a : Json}
    (ha : a ∈ as) : ∃ b ∈ bs, similar a b = true := by
  induction as generalizing bs with
  | nil => simp at ha
  | cons first rest ih =>
    cases bs with
    | nil => simp [similarItems] at h
    | cons b bs =>
      obtain ⟨hb, hr⟩ := Bool.and_eq_true_iff.mp h
      cases List.mem_cons.mp ha
      case inl he => exact ⟨b, List.mem_cons_self, he ▸ hb⟩
      case inr ha =>
        obtain ⟨c, hc, hs⟩ := ih hr ha
        exact ⟨c, List.mem_cons_of_mem _ hc, hs⟩

theorem exists_similar_of_similarFields {as bs : Fields} (h : similarFields as bs = true) {k : String}
    {a : Json} (ha : (k, a) ∈ as) : ∃ b, (k, b) ∈ bs ∧ similar a b = true := by
  obtain ⟨b, hb, hs⟩ := similarFields_iff_forall.mp h k a ha
  exact ⟨b, Fields.mem_of_get? hb, hs⟩

theorem NumberFree.similar_iff {a b : Json} (ha : a.NumberFree) (hw : a.WellFormed)
    (hb : b.WellFormed) : similar a b = true ↔ a = b := by
  induction a using induct generalizing b
  case null => cases b <;> simp [similar]
  case bool => cases b <;> simp [similar]
  case string => cases b <;> simp [similar]
  case number => cases ha
  case array items ih =>
    cases ha
    case array ha =>
      cases b <;> simp [similar]
      case array bs =>
        have hw := wellFormed_array.mp hw
        have hb := wellFormed_array.mp hb
        exact similarItems_iff fun a hm b hn => ih a hm (ha a hm) (hw a hm) (hb b hn)
  case object fields ih =>
    cases ha
    case object ha =>
      cases b <;> simp [similar]
      case object bs =>
        have ⟨hs, hw⟩ := wellFormed_object.mp hw
        have ⟨ht, hb⟩ := wellFormed_object.mp hb
        rw [similarFields_iff fun k a hm b hn => ih k a hm (ha k a hm) (hw k a hm) (hb k b hn)]
        constructor
        case mp =>
          intro ⟨hl, hf⟩
          exact hs.eq_of_subset ht (fun field hm => Fields.mem_of_get? (hf _ _ hm)) hl
        case mpr =>
          rintro rfl
          exact ⟨rfl, fun k a hm => hs.get? hm⟩

-- By induction on the first document: it has a number only where the other one does.
theorem NumberFree.of_similar {a b : Json} (hb : b.NumberFree) (h : similar a b = true) :
    a.NumberFree := by
  induction a using induct generalizing b
  case null   => exact .null
  case bool   => exact .bool _
  case string => exact .string _
  case number => cases hb <;> simp [similar] at h
  case array items ih =>
    cases hb <;> simp only [similar, Bool.false_eq_true] at h
    case array bs hb =>
      refine .array fun a ha => ?_
      obtain ⟨b, hm, hs⟩ := exists_similar_of_similarItems h ha
      exact ih a ha (hb b hm) hs
  case object fields ih =>
    cases hb <;> simp only [similar, Bool.false_eq_true, Bool.and_eq_true] at h
    case object bs hb =>
      refine .object fun k a ha => ?_
      obtain ⟨b, hm, hs⟩ := exists_similar_of_similarFields h.right ha
      exact ih k a ha (hb k b hm) hs

end Json

def Binary64.ofValue (q : Rat) : Binary64 :=
  if q < 0 then .finite true (-q) else .finite false q

def Binary64.canonical (x : Binary64) : Binary64 :=
  match x.value? with
  | some q => ofValue q
  | none   => x

def Number.canonical : Number → Number
  | .integer n => .integer n
  | .float x   => .float x.canonical

theorem Binary64.value?_ofValue (q : Rat) : (ofValue q).value? = some q := by
  unfold ofValue
  split <;> simp [value?]

theorem Binary64.exists_canonical (negative : Bool) (magnitude : Rat) :
    ∃ n q, (finite negative magnitude).canonical = finite n q := by
  cases negative <;> simp only [canonical, value?, ofValue] <;> split <;> exact ⟨_, _, rfl⟩

theorem Binary64.numEq_canonical (x y : Binary64) : x.canonical.numEq y = x.numEq y := by
  cases x with
  | infinite m => rfl
  | nan => rfl
  | finite m q =>
    obtain ⟨r, hr⟩ : ∃ r, (Binary64.finite m q).value? = some r := by
      cases m <;> exact ⟨_, rfl⟩
    have hc : (Binary64.finite m q).canonical = ofValue r := by simp only [canonical, hr]
    obtain ⟨n, s, hs⟩ : ∃ n s, ofValue r = .finite n s := by
      unfold ofValue
      split <;> exact ⟨_, _, rfl⟩
    have hv := value?_ofValue r
    rw [hs] at hv
    simp only [hc, hs, numEq, hv, hr]

theorem Binary64.canonical_eq_of_numEq {x y : Binary64} (h : x.numEq y = true) :
    x.canonical = y.canonical := by
  unfold numEq at h
  split at h
  case h_1 => simp_all
  case h_2 =>
    split at h
    case h_2 => simp at h
    case h_1 hx hy => simp [canonical, hx, hy, beq_iff_eq.mp h]

theorem Binary64.numEq_of_canonical_eq {x y : Binary64} (hx : x.isFinite = true)
    (hy : y.isFinite = true) (h : x.canonical = y.canonical) : x.numEq y = true := by
  cases x <;> simp only [isFinite, Bool.false_eq_true] at hx
  cases y <;> simp only [isFinite, Bool.false_eq_true] at hy
  case finite.finite m p n q =>
    obtain ⟨r, hr⟩ : ∃ r, (finite m p).value? = some r := by cases m <;> exact ⟨_, rfl⟩
    obtain ⟨s, hs⟩ : ∃ s, (finite n q).value? = some s := by cases n <;> exact ⟨_, rfl⟩
    simp only [canonical, hr, hs] at h
    have hv := congrArg value? h
    simp only [value?_ofValue, Option.some.injEq] at hv
    simp [numEq, hr, hs, hv]

theorem Number.same_of_canonical_eq {m n : Number} (hm : m.WellFormed) (hn : n.WellFormed)
    (h : m.canonical = n.canonical) : m.same n = true := by
  cases m <;> cases n <;> simp only [canonical, reduceCtorEq, integer.injEq, float.injEq] at h
  case integer.integer => simp [same, h]
  case float.float     => exact Binary64.numEq_of_canonical_eq hm hn h

theorem Number.toBinary64_ne_nan {n : Number} (h : n.WellFormed) : n.toBinary64 ≠ .nan := by
  cases n with
  | integer n =>
    simp only [toBinary64, Binary64.ofInt, Binary64.ofRat, Binary64.round]
    split <;> split <;> simp
  | float x => cases x <;> simp_all [WellFormed, toBinary64, Binary64.isFinite]

namespace Json

mutual
-- A document with the sign of every zero taken away.
def canonical : Json → Json
  | null          => null
  | bool b        => bool b
  | number n      => number n.canonical
  | string s      => string s
  | array items   => array (canonicalItems items)
  | object fields => object (canonicalFields fields)

def canonicalItems : List Json → List Json
  | []        => []
  | j :: rest => canonical j :: canonicalItems rest

def canonicalFields : List (String × Json) → List (String × Json)
  | []             => []
  | (k, j) :: rest => (k, canonical j) :: canonicalFields rest
end

theorem canonicalItems_eq_map (items : List Json) : canonicalItems items = items.map canonical := by
  induction items with
  | nil            => rfl
  | cons j rest ih => simp [canonicalItems, ih]

theorem canonicalFields_eq_map (fields : Fields) :
    canonicalFields fields = fields.map fun (k, j) => (k, canonical j) := by
  induction fields with
  | nil                => rfl
  | cons field rest ih => simp [canonicalFields, ih]

mutual
theorem canonical_eq_of_same : {a b : Json} → same a b = true → canonical a = canonical b
  | a, b, h => by
    cases a <;> cases b <;> simp only [same, beq_iff_eq, Bool.false_eq_true] at h
    case null.null     => rfl
    case bool.bool     => rw [h]
    case string.string => rw [h]
    case number.number m n =>
      cases m <;> cases n <;> simp [Number.same] at h
      case integer.integer => rw [h]
      case float.float     => simp [canonical, Number.canonical, Binary64.canonical_eq_of_numEq h]
    case array.array   => simp only [canonical, canonicalItems_eq_of_same h]
    case object.object => simp only [canonical, canonicalFields_eq_of_same h]

theorem canonicalItems_eq_of_same :
    {as bs : List Json} → sameItems as bs = true → canonicalItems as = canonicalItems bs
  | [], [], _           => rfl
  | [], _ :: _, h       => by simp [sameItems] at h
  | _ :: _, [], h       => by simp [sameItems] at h
  | a :: as, b :: bs, h => by
    simp only [sameItems, Bool.and_eq_true] at h
    simp only [canonicalItems, canonical_eq_of_same h.left, canonicalItems_eq_of_same h.right]

theorem canonicalFields_eq_of_same :
    {as bs : List (String × Json)} → sameFields as bs = true →
      canonicalFields as = canonicalFields bs
  | [], [], _                     => rfl
  | [], _ :: _, h                 => by simp [sameFields] at h
  | _ :: _, [], h                 => by simp [sameFields] at h
  | (k, a) :: as, (l, b) :: bs, h => by
    simp only [sameFields, Bool.and_eq_true, beq_iff_eq] at h
    simp only [canonicalFields, h.left.left, canonical_eq_of_same h.left.right,
      canonicalFields_eq_of_same h.right]
end

mutual
theorem similar_canonical : (a b : Json) → similar a.canonical b = similar a b
  | a, b => by
    cases a <;> cases b <;> simp only [canonical, similar]
    case number.number m n =>
      cases m <;> cases n <;>
        simp [Number.canonical, Number.similar, Number.same, Number.toBinary64,
          Binary64.numEq_canonical]
    case array.array as bs => exact similarItems_canonical as bs
    case object.object as bs =>
      rw [similarFields_canonical as bs, canonicalFields_eq_map, List.length_map]

theorem similarItems_canonical :
    (as bs : List Json) → similarItems (canonicalItems as) bs = similarItems as bs
  | [], _           => rfl
  | _ :: _, []      => rfl
  | a :: as, b :: bs => by
    simp only [canonicalItems, similarItems, similar_canonical a b, similarItems_canonical as bs]

theorem similarFields_canonical :
    (as bs : List (String × Json)) → similarFields (canonicalFields as) bs = similarFields as bs
  | [], _            => rfl
  | (k, a) :: as, bs => by
    simp only [canonicalFields, similarFields, similarFields_canonical as bs]
    cases Fields.get? bs k with
    | none   => rfl
    | some b => simp only [similar_canonical a b]
end

theorem similar_eq_of_canonical {a b : Json} (h : a.canonical = b.canonical) (j : Json) :
    similar a j = similar b j := by
  rw [← similar_canonical a, h, similar_canonical]

theorem asString?_canonical (j : Json) : j.canonical.asString? = j.asString? := by
  cases j <;> rfl

theorem get?_canonicalFields (fields : Fields) (key : String) :
    Fields.get? (canonicalFields fields) key = (Fields.get? fields key).map canonical := by
  rw [canonicalFields_eq_map]
  exact Fields.get?_map (fun _ => canonical) fields key

theorem sameItems_of_canonicalItems {as bs : List Json}
    (hs : ∀ a ∈ as, ∀ b ∈ bs, canonical a = canonical b → same a b = true)
    (h : as.map canonical = bs.map canonical) : sameItems as bs = true := by
  induction as generalizing bs with
  | nil => simp_all [sameItems]
  | cons a as ih =>
    cases bs with
    | nil       => simp at h
    | cons b bs =>
      simp only [List.map_cons, List.cons.injEq] at h
      have ha : same a b = true := hs a List.mem_cons_self b List.mem_cons_self h.left
      have hr : sameItems as bs = true := ih (fun a hm b hn =>
        hs a (List.mem_cons_of_mem _ hm) b (List.mem_cons_of_mem _ hn)) h.right
      simp [sameItems, ha, hr]

theorem sameFields_of_canonicalFields {as bs : Fields}
    (hs : ∀ k a, (k, a) ∈ as → ∀ b, (k, b) ∈ bs → canonical a = canonical b → same a b = true)
    (h : canonicalFields as = canonicalFields bs) : sameFields as bs = true := by
  induction as generalizing bs with
  | nil => cases bs <;> simp_all [canonicalFields, sameFields]
  | cons field as ih =>
    obtain ⟨k, a⟩ := field
    cases bs with
    | nil => simp [canonicalFields] at h
    | cons field bs =>
      obtain ⟨l, b⟩ := field
      simp only [canonicalFields, List.cons.injEq, Prod.mk.injEq] at h
      obtain ⟨⟨rfl, he⟩, hr⟩ := h
      have ha : same a b = true := hs k a List.mem_cons_self b List.mem_cons_self he
      have hr : sameFields as bs = true := ih (fun k a hm b hn =>
        hs k a (List.mem_cons_of_mem _ hm) b (List.mem_cons_of_mem _ hn)) hr
      simp [sameFields, ha, hr]

-- Every number of a well-formed document equals itself, so equality is that of canonical documents.
theorem same_of_canonical_eq {a b : Json} (ha : a.WellFormed) (hb : b.WellFormed)
    (h : a.canonical = b.canonical) : same a b = true := by
  induction a using induct generalizing b
  case null   => cases b <;> simp [canonical, same] at h ⊢
  case bool   => cases b <;> simp [canonical, same] at h ⊢; exact h
  case string => cases b <;> simp [canonical, same] at h ⊢; exact h
  case number m =>
    cases b <;> simp only [canonical, reduceCtorEq, number.injEq] at h
    case number n => exact Number.same_of_canonical_eq ha hb h
  case array items ih =>
    cases b <;> simp only [canonical, reduceCtorEq, array.injEq, canonicalItems_eq_map] at h
    case array others =>
      have ha := wellFormed_array.mp ha
      have hb := wellFormed_array.mp hb
      exact sameItems_of_canonicalItems (fun a hm b hn => ih a hm (ha a hm) (hb b hn)) h
  case object fields ih =>
    cases b <;> simp only [canonical, reduceCtorEq, object.injEq] at h
    case object others =>
      have ⟨_, ha⟩ := wellFormed_object.mp ha
      have ⟨_, hb⟩ := wellFormed_object.mp hb
      exact sameFields_of_canonicalFields
        (fun k a hm b hn => ih k a hm (ha k a hm) (hb k b hn)) h

theorem beq_iff_canonical_eq {a b : Json} (ha : a.WellFormed) (hb : b.WellFormed) :
    (a == b) = true ↔ a.canonical = b.canonical where
  mp  := canonical_eq_of_same
  mpr := same_of_canonical_eq ha hb

theorem beq_comm {a b : Json} (ha : a.WellFormed) (hb : b.WellFormed) : (a == b) = (b == a) := by
  rw [Bool.eq_iff_iff, beq_iff_canonical_eq ha hb, beq_iff_canonical_eq hb ha, eq_comm]

theorem NumberFree.canonical_eq {j : Json} (h : j.NumberFree) : j.canonical = j := by
  induction j using induct
  case number => cases h
  case array items ih =>
    cases h
    case array h =>
      have hm : items.map canonical = items.map id :=
        List.map_congr_left fun j hj => ih j hj (h j hj)
      rw [canonical, canonicalItems_eq_map, hm, List.map_id]
  case object fields ih =>
    cases h
    case object h =>
      have hm : (fields.map fun (k, j) => (k, canonical j)) = fields.map id :=
        List.map_congr_left fun (k, j) hj => by simp [ih k j hj (h k j hj)]
      rw [canonical, canonicalFields_eq_map, hm, List.map_id]
  all_goals rfl

end Json

end JsonSchema
