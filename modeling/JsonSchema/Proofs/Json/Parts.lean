import Mathlib.Data.List.Nodup
import JsonSchema.Json.Traversal
import JsonSchema.Proofs.Json.WellFormed
import JsonSchema.Proofs.Pointer.Text
import JsonSchema.Proofs.Pointer.Within

namespace JsonSchema.Json

variable {j found part : Json} {place p : Pointer} {token : String}

def parts : Json → List (String × Json)
  | array items   => items.zipIdx.map fun (item, i) => (Pointer.ofIndex i, item)
  | object fields => fields
  | _             => []

theorem mem_parts_array {items : List Json} :
    (token, part) ∈ (array items).parts ↔ ∃ i : Nat, token = Pointer.ofIndex i ∧ items[i]? = some part := by
  simp only [parts, List.mem_map, Prod.exists, Prod.mk.injEq, List.mk_mem_zipIdx_iff_getElem?]
  constructor
  case mp  => rintro ⟨_, i, hi, rfl, rfl⟩; exact ⟨i, rfl, hi⟩
  case mpr => rintro ⟨i, rfl, hi⟩; exact ⟨part, i, hi, rfl, rfl⟩

theorem induct_parts {motive : Json → Prop}
    (node : ∀ j, (∀ token part, (token, part) ∈ j.parts → motive part) → motive j) (j : Json) :
    motive j := by
  induction j using induct
  case array items ih =>
    refine node _ fun token part hp => ?_
    obtain ⟨i, _, hi⟩ := mem_parts_array.mp hp
    exact ih part (List.mem_of_getElem? hi)
  case object fields ih => exact node _ ih
  all_goals exact node _ (by simp [parts])

theorem WellFormed.of_mem_parts (hw : j.WellFormed) (h : (token, part) ∈ j.parts) : part.WellFormed := by
  cases j
  case array items =>
    obtain ⟨i, _, hi⟩ := mem_parts_array.mp h
    exact wellFormed_array.mp hw part (List.mem_of_getElem? hi)
  case object fields => exact (wellFormed_object.mp hw).right token part h
  all_goals simp [parts] at h

theorem WellFormed.pairwise_parts (hw : j.WellFormed) : j.parts.Pairwise (·.1 ≠ ·.1) := by
  cases j
  case array items =>
    have hi : (items.zipIdx.map (·.2)).Nodup := List.zipIdx_map_snd 0 items ▸ List.nodup_range'
    rw [parts, List.pairwise_map]
    exact (List.pairwise_map.mp hi).imp fun hn he => hn (Pointer.ofIndex_injective he)
  case object fields =>
    refine (wellFormed_object.mp hw).left.imp fun {a b} hl he => ?_
    rw [he] at hl
    exact String.lt_irrefl b.1 hl
  all_goals simp [parts]

theorem WellFormed.eq_of_mem_parts {other : Json} (hw : j.WellFormed) (h : (token, part) ∈ j.parts)
    (ho : (token, other) ∈ j.parts) : part = other :=
  (Prod.mk.inj (List.inj_on_of_nodup_map (List.pairwise_map.mpr hw.pairwise_parts) h ho rfl)).right

theorem nodesOfItems_eq_flatMap (place : Pointer) (index : Nat) (items : List Json) :
    nodesOfItems place index items =
      (items.zipIdx index).flatMap fun (item, i) => item.nodes (place.child (Pointer.ofIndex i)) := by
  induction items generalizing index with
  | nil               => rfl
  | cons item rest ih => rw [nodesOfItems, ih, List.zipIdx_cons, List.flatMap_cons]

theorem nodesOfFields_eq_flatMap (place : Pointer) (fields : Fields) :
    nodesOfFields place fields = fields.flatMap fun field => field.2.nodes (place.child field.1) := by
  induction fields with
  | nil                => rfl
  | cons field rest ih => rw [nodesOfFields, ih, List.flatMap_cons]

theorem nodes_eq_flatMap (place : Pointer) (j : Json) :
    j.nodes place = (place, j) :: j.parts.flatMap fun part => part.2.nodes (place.child part.1) := by
  cases j
  case array items   => rw [nodes, nodesOfItems_eq_flatMap, parts, List.flatMap_map]
  case object fields => rw [nodes, nodesOfFields_eq_flatMap, parts]
  all_goals rfl

theorem mem_nodes_iff {entry : Pointer × Json} :
    entry ∈ j.nodes place ↔
      entry = (place, j) ∨ ∃ token part, (token, part) ∈ j.parts ∧ entry ∈ part.nodes (place.child token) := by
  rw [nodes_eq_flatMap, List.mem_cons, List.mem_flatMap, Prod.exists]

theorem nodes_induct {motive : Json → Pointer → Prop} (h : (p, found) ∈ j.nodes place) (self : motive found p)
    (part : ∀ {j place token part}, (token, part) ∈ j.parts → motive part (place.child token) → motive j place) :
    motive j place := by
  induction j using induct_parts generalizing place with
  | node j ih =>
    cases mem_nodes_iff.mp h
    case inl h => cases h; exact self
    case inr h =>
      obtain ⟨token, next, hp, h⟩ := h
      exact part hp (ih token next hp h)

theorem isWithin_of_mem_nodes (h : (p, found) ∈ j.nodes place) : p.isWithin place = true :=
  nodes_induct (motive := fun _ place => p.isWithin place = true) h (Pointer.isWithin_refl p)
    fun {_ place token _} _ ih => Pointer.isWithin_trans ih (Pointer.child_isWithin place token)

theorem eq_of_isWithin_child {q : Pointer} {other : String} (hp : p.isWithin (place.child token) = true)
    (hq : q.isWithin (place.child other) = true) (h : p.isWithin q = true) : token = other := by
  obtain ⟨front, rfl⟩ := Pointer.isWithin_iff_exists.mp hp
  obtain ⟨back, rfl⟩ := Pointer.isWithin_iff_exists.mp hq
  obtain ⟨rest, h⟩ := Pointer.isWithin_iff_exists.mp h
  have h : token :: front = other :: (back ++ rest) := by
    simpa [Pointer.append, Pointer.child] using h
  exact (List.cons.inj h).left

theorem WellFormed.pairwise_apart (hw : j.WellFormed) (place : Pointer) :
    j.parts.Pairwise fun a b => ∀ {p q : Pointer}, p.isWithin (place.child a.1) = true →
      q.isWithin (place.child b.1) = true → p.isWithin q = false ∧ q.isWithin p = false := by
  refine hw.pairwise_parts.imp fun {a b} hn {p q} hp hq => ⟨?_, ?_⟩
  case refine_1 => exact Bool.eq_false_iff.mpr fun h => hn (eq_of_isWithin_child hp hq h)
  case refine_2 => exact Bool.eq_false_iff.mpr fun h => hn (eq_of_isWithin_child hq hp h).symm

theorem isWithin_eq_false_of_child (h : p.isWithin (place.child token) = true) : place.isWithin p = false := by
  refine Bool.eq_false_iff.mpr fun hb => ?_
  have hc := Pointer.isInside_iff.mp (Pointer.child_isInside place token)
  exact hc.right (Pointer.isWithin_antisymm hc.left (Pointer.isWithin_trans hb h))

-- A walk lists a document and then what the walks over its parts list, so nothing is listed behind what lies
-- inside it.
theorem pairwise_nodes (hw : j.WellFormed) :
    (j.nodes place).Pairwise fun a b => a.1.isWithin b.1 = false := by
  induction j using induct_parts generalizing place with
  | node j ih =>
    rw [nodes_eq_flatMap, List.pairwise_cons, List.pairwise_flatMap]
    refine ⟨?first, fun part hp => ih part.1 part.2 hp (hw.of_mem_parts hp), ?apart⟩
    case first =>
      intro entry hm
      obtain ⟨part, _, hm⟩ := List.mem_flatMap.mp hm
      exact isWithin_eq_false_of_child (isWithin_of_mem_nodes hm)
    case apart =>
      refine (hw.pairwise_apart place).imp fun ha x hx y hy => ?_
      exact (ha (isWithin_of_mem_nodes hx) (isWithin_of_mem_nodes hy)).left

section Rebuild

variable {m : Type → Type} [Monad m] [LawfulMonad m]

-- The items of an array are numbered anew.
def withParts : Json → List (String × Json) → Json
  | array _,  parts => array (parts.map (·.2))
  | object _, parts => object parts
  | scalar,   _     => scalar

theorem withParts_array (items : List Json) : (array items).withParts = fun parts => array (parts.map (·.2)) :=
  rfl

theorem withParts_object (fields : Fields) : (object fields).withParts = object :=
  rfl

theorem parts_withParts {parts : List (String × Json)} (h : parts.map (·.1) = j.parts.map (·.1)) :
    (j.withParts parts).parts = parts := by
  cases j
  case array items =>
    have hl : parts.length = items.length := by simpa [Json.parts] using congrArg List.length h
    refine List.ext_getElem (by simp [withParts, Json.parts]) fun i _ hi => ?_
    have hk := List.getElem_of_eq h (i := i) (by simpa using hi)
    simp only [Json.parts, List.getElem_map, List.getElem_zipIdx, Nat.zero_add] at hk
    simp [withParts, Json.parts, ← hk]
  case object fields => rfl
  all_goals
    have h : parts = [] := by simpa [Json.parts] using h
    rw [h]
    rfl

theorem mapPostItems_eq_map (f : Json → Pointer → m Json) (place : Pointer) (index : Nat) (items : List Json) :
    mapPostItems f place index items = List.map (·.2) <$>
      mapPostFields f place ((items.zipIdx index).map fun (item, i) => (Pointer.ofIndex i, item)) := by
  induction items generalizing index with
  | nil               => simp [mapPostItems, mapPostFields]
  | cons item rest ih => simp [mapPostItems, mapPostFields, ih]

theorem mapPost_eq_bind (f : Json → Pointer → m Json) (place : Pointer) (j : Json) :
    mapPost f place j = mapPostFields f place j.parts >>= fun parts => f (j.withParts parts) place := by
  cases j
  case array items   => simp [mapPost, mapPostItems_eq_map, parts, withParts]
  case object fields => rfl
  all_goals simp [mapPost, mapPostFields, parts, withParts]

theorem mapItems_eq_map (rebuild : Pointer → Json → m (Option Json)) (place : Pointer) (index : Nat)
    (items : List Json) :
    mapItems rebuild place index items = Option.map (List.map (·.2)) <$>
      mapFields rebuild place ((items.zipIdx index).map fun (item, i) => (Pointer.ofIndex i, item)) := by
  induction items generalizing index with
  | nil => simp [mapItems, mapFields]
  | cons item rest ih =>
    simp only [mapItems, ih, List.zipIdx_cons, List.map_cons, mapFields, map_bind]
    refine bind_congr fun rebuilt => ?_
    cases rebuilt with
    | none   => simp
    | some _ => simp [Function.comp_def]

theorem mapPre_succ_eq_bind (f : Json → Pointer → m Json) (levels : Nat) (place : Pointer) (j : Json) :
    mapPre f (levels + 1) place j =
      f j place >>= fun j => Option.map j.withParts <$> mapFields (mapPre f levels) place j.parts := by
  rw [mapPre]
  refine bind_congr fun j => ?_
  cases j
  case array items   => simp [mapItems_eq_map, parts, withParts_array, Function.comp_def]
  case object fields => simp [parts, withParts_object]
  all_goals simp [mapFields, parts, withParts]

end Rebuild

end JsonSchema.Json
