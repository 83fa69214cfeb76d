import JsonSchema.Proofs.Json.Parts
import JsonSchema.Proofs.Json.Writing

namespace JsonSchema.Json

variable {j found part : Json} {place p : Pointer} {token : String}

-- The key of a field may look like an index, but objects take it as it is; an index is printed in the one
-- way in which it is read, if it is of the size of a word.
theorem step?_of_mem_parts (hw : j.WellFormed) (hc : j.Counted) (h : (token, part) ∈ j.parts) :
    j.step? token = some part := by
  cases j
  case array items =>
    obtain ⟨i, rfl, hi⟩ := mem_parts_array.mp h
    have hl : i < items.length := (List.getElem?_eq_some_iff.mp hi).choose
    have hs : items.length < UInt64.size := hc [] items rfl
    exact step?_item (Pointer.index?_ofIndex (Nat.lt_trans hl hs)) hi
  case object fields => exact (wellFormed_object.mp hw).left.get? h
  all_goals simp [parts] at h

theorem exists_follow?_of_mem_nodes (hw : j.WellFormed) (hc : j.Counted)
    (h : (p, found) ∈ j.nodes place) :
    ∃ tokens, p = place.append tokens ∧ j.follow? tokens = some found := by
  refine nodes_induct (motive := fun j place => j.WellFormed → j.Counted →
    ∃ tokens, p = place.append tokens ∧ j.follow? tokens = some found) h ?self ?part hw hc
  case self => exact fun _ _ => ⟨[], (Pointer.append_nil _).symm, rfl⟩
  case part =>
    intro j place token part hp ih hw hc
    have hs := step?_of_mem_parts hw hc hp
    obtain ⟨tokens, rfl, hf⟩ := ih (hw.of_mem_parts hp) (hc.step? hs)
    exact ⟨token :: tokens, Pointer.child_append .., by rw [follow?, hs, Option.bind_some, hf]⟩

-- Arrays have fewer items than a word can count, and an object has one field for a key.
theorem nodes_enumerate_lookups (start : Pointer) (hw : j.WellFormed) (hc : j.Counted) :
    (∀ p found, (p, found) ∈ j.nodes start ↔
      ∃ q : Pointer, p = start.append q.tokens ∧ j.get? q = some found) ∧
    ((j.nodes start).map (·.1)).Nodup ∧
    (j.nodes start).Pairwise fun a b => a.1.isInside b.1 = false := by
  refine ⟨fun p found => ⟨fun h => ?_, ?_⟩, nodup_nodes hw, (pairwise_nodes hw).imp fun h => ?_⟩
  case refine_1 =>
    obtain ⟨tokens, hp, hf⟩ := exists_follow?_of_mem_nodes hw hc h
    exact ⟨⟨tokens⟩, hp, hf⟩
  case refine_2 =>
    rintro ⟨q, rfl, hq⟩
    exact mem_nodes_of_follow? hq
  case refine_3 => rw [Pointer.isInside, h, Bool.false_and]

-- An array at a key that looks like an index, behind another field.
def numbered : Json :=
  object [("", string "points"), ("0", array [object [("1", null)], bool true])]

theorem numbered_enumerates_lookups :
    let start : Pointer := ⟨["definitions"]⟩
    numbered.WellFormed ∧ numbered.Counted ∧
      (∀ p found, (p, found) ∈ numbered.nodes start ↔
        ∃ q : Pointer, p = start.append q.tokens ∧ numbered.get? q = some found) ∧
      ((numbered.nodes start).map (·.1)).Nodup ∧
      (numbered.nodes start).Pairwise fun a b => a.1.isInside b.1 = false := by
  have hw : numbered.WellFormed := by decide
  have hc : numbered.Counted := counted_of_nodes (by decide)
  exact ⟨hw, hc, nodes_enumerate_lookups _ hw hc⟩

end JsonSchema.Json
