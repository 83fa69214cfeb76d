import JsonSchema.Proofs.Expansion.Rebuilding
import JsonSchema.Proofs.Json.Lookup
import JsonSchema.Proofs.Merge.WellFormed

namespace JsonSchema

namespace Expansion

open Json (wellFormed_array wellFormed_object)
open Diagnosed (returns_pure returns_any)
open Merge (stable_wellFormed)

variable {options : Options} {place : Pointer}

theorem wellFormed_mapPost {f : Json → Pointer → Diagnosed Json}
    (hf : ∀ j place, j.WellFormed → (f j place).Returns Json.WellFormed) {j : Json} (h : j.WellFormed)
    (place : Pointer) : (j.mapPost f place).Returns Json.WellFormed := by
  induction j using Json.induct generalizing place
  case array items ih =>
    have hi := wellFormed_array.mp h
    refine (Json.mapPostItems_returns (R := fun _ _ e => e.WellFormed) 0 fun i j hj =>
      ih j (List.mem_of_getElem? hj) (hi j (List.mem_of_getElem? hj)) _).bind fun mapped hm => ?_
    refine hf _ _ (wellFormed_array.mpr fun e he => ?_)
    obtain ⟨i, hi⟩ := List.mem_iff_getElem?.mp he
    exact (hm.item hi).choose_spec.right
  case object fields ih =>
    have ⟨hs, hw⟩ := wellFormed_object.mp h
    refine (Json.mapPostFields_returns (R := fun _ _ e => e.WellFormed) fun k j hj =>
      ih k j hj (hw k j hj) _).bind fun mapped hm => ?_
    refine hf _ _ (wellFormed_object.mpr ⟨hs.of_keys_eq hm.keys, fun k e he => ?_⟩)
    exact (hm.field he).choose_spec.right
  all_goals exact hf _ _ h

theorem returns_rebuild {used : List Pointer} {expand : Pointer → Diagnosed (Option Json)}
    (he : ∀ target, (expand target).Returns fun found => ∀ j, found = some j → j.WellFormed)
    {j : Json} (h : j.WellFormed) :
    (rebuild options used expand j place).Returns Json.WellFormed := by
  unfold rebuild
  split
  case h_2 => exact returns_pure h
  case h_1 =>
    split
    case h_1 target _ =>
      refine (he target).bind fun found hf => ?_
      cases found
      case some expanded => exact stable_wellFormed.withSiblings (hf _ rfl) h.erase
      case none          => exact returns_any.bind fun _ _ => returns_pure h
    case h_2 => exact returns_any.bind fun _ _ => stable_wellFormed.tidy h
    case h_3 => exact stable_wellFormed.tidy h

section Source

variable {source : Source}

def Source.WellFormed (source : Source) : Prop :=
  source.schema.WellFormed ∧ ∀ p j, source.library.get? p = some j → j.WellFormed

theorem Source.WellFormed.find? (h : source.WellFormed) {target : Pointer} {j : Json}
    (hf : source.find? target = some j) : j.WellFormed := by
  cases Source.find?_cases hf
  case inl hg =>
    obtain ⟨_, hg⟩ := hg
    exact h.left.follow? hg
  case inr hl =>
    obtain ⟨p, hl⟩ := hl
    exact h.right p j hl

theorem Source.WellFormed.expandAlong (h : source.WellFormed) (options : Options) (depth : Nat)
    (used : List Pointer) (target : Pointer) :
    (Expansion.expandAlong source options depth used target).Returns fun found =>
      ∀ j, found = some j → j.WellFormed := by
  induction depth generalizing used target with
  | zero => exact returns_pure (by simp)
  | succ depth ih =>
    simp only [Expansion.expandAlong]
    split
    case h_1 => exact returns_pure (by simp)
    case h_2 node hn =>
      have hr (j : Json) (place : Pointer) (hj : j.WellFormed) :
          (rebuild options (used ++ source.pointersOf target)
            (Expansion.expandAlong source options depth (used ++ source.pointersOf target)) j
            place).Returns Json.WellFormed :=
        returns_rebuild (ih _) hj
      have hm := wellFormed_mapPost hr (h.find? hn) target
      exact hm.bind fun expanded he => returns_pure (by simpa using he)

end Source

end Expansion

end JsonSchema
