import JsonSchema.Proofs.Json.Classes
import JsonSchema.Proofs.Validator.Acceptance

namespace JsonSchema

namespace Json

variable {items done rest : List Json} {i j : Json}

-- A value is the first of its class at its place in a list, and its class has other members there.
def LeadsClass (items : List Json) (entry : Json × Nat) : Prop :=
  (∀ i ∈ items.take entry.2, i.similar entry.1 = false) ∧ 2 ≤ items.countP entry.1.similar

instance (items : List Json) : DecidablePred (LeadsClass items) :=
  fun _ => inferInstanceAs (Decidable (_ ∧ _))

-- The first members of classes, as far as they are among the values at the beginning of the list.
def leadersIn (items done : List Json) : List Json :=
  (done.zipIdx.filter (LeadsClass items ·)).map (·.1)

theorem mem_leadersIn : j ∈ leadersIn items done ↔ ∃ n, done[n]? = some j ∧ LeadsClass items (j, n) := by
  simp [leadersIn, List.mem_filter, List.mk_mem_zipIdx_iff_getElem?]

theorem mem_of_mem_leadersIn (h : j ∈ leadersIn items done) : j ∈ done := by
  obtain ⟨n, hn, _⟩ := mem_leadersIn.mp h
  exact List.mem_of_getElem? hn

theorem leadersIn_concat (items done : List Json) (j : Json) :
    leadersIn items (done ++ [j]) =
      leadersIn items done ++ if LeadsClass items (j, done.length) then [j] else [] := by
  by_cases h : LeadsClass items (j, done.length) <;>
    simp [leadersIn, List.zipIdx_append, h]

theorem pairwise_leaders : (leadersIn items items).Pairwise fun i j => i.similar j = false := by
  have hp : items.zipIdx.Pairwise fun first second => first.1 ∈ items.take second.2 := by
    refine List.pairwise_iff_getElem.mpr fun m n hm hn hlt => ?_
    simp only [List.length_zipIdx] at hm hn
    simp only [List.getElem_zipIdx, Nat.zero_add]
    exact List.mem_take_iff_getElem.mpr ⟨m, Nat.lt_min.mpr ⟨hlt, hm⟩, rfl⟩
  refine List.pairwise_map.mpr ((hp.filter _).imp_of_mem fun _ hs hm => ?_)
  exact (of_decide_eq_true (List.mem_filter.mp hs).right).left _ hm

theorem countP_le_one {α : Type} {p : α → Bool} {l : List α}
    (h : l.Pairwise fun a b => p a = true → p b = false) : l.countP p ≤ 1 := by
  induction l with
  | nil => simp
  | cons a l ih =>
    have ⟨ha, hl⟩ := List.pairwise_cons.mp h
    rw [List.countP_cons]
    cases hp : p a with
    | false => simpa using ih hl
    | true  =>
      have hz : l.countP p = 0 := List.countP_eq_zero.mpr fun b hb => by simp [ha b hb hp]
      simp [hz]

theorem repeated_eq_nil_iff : repeated items = [] ↔ items.Pairwise fun i j => i.similar j = false := by
  induction items with
  | nil => simp [repeated, repeatedAfter]
  | cons j rest ih =>
    rw [List.pairwise_cons, ← ih, repeated, repeatedAfter, repeated]
    cases h : rest.any j.similar with
    | false =>
      have hn : ∀ i ∈ rest, j.similar i = false := by simpa using h
      simpa using fun _ => hn
    | true =>
      obtain ⟨i, hi, hs⟩ := List.any_eq_true.mp h
      simp only [List.any_nil, Bool.not_false, Bool.and_true, if_true, reduceCtorEq, false_iff, not_and]
      exact fun hn => absurd hs (by simp [hn i hi])

section

variable (hw : ∀ j ∈ items, j.WellFormed)
include hw

theorem countP_similar_congr (hi : i.WellFormed) (hj : j.WellFormed) (h : i.similar j = true) :
    items.countP i.similar = items.countP j.similar :=
  List.countP_congr fun k hk => by rw [similar_congr hi hj (hw k hk) h]

theorem exists_leader (he : items = done ++ rest) (hj : j.WellFormed) (hc : 2 ≤ items.countP j.similar)
    (hi : ∃ i ∈ done, i.similar j = true) : ∃ i ∈ leadersIn items done, i.similar j = true := by
  obtain ⟨i, hi⟩ := Option.isSome_iff_exists.mp (List.find?_isSome.mpr hi)
  obtain ⟨hs, front, back, rfl, hf⟩ := List.find?_eq_some_iff_append.mp hi
  have hw' (k : Json) (hk : k ∈ front ++ i :: back) : k.WellFormed :=
    hw k (he ▸ List.mem_append_left rest hk)
  have hiw : i.WellFormed := hw' i (by simp)
  refine ⟨i, mem_leadersIn.mpr ⟨front.length, by simp, fun k hk => ?_, ?_⟩, hs⟩
  case refine_1 =>
    have hk : k ∈ front := by simpa [he] using hk
    have hkw : k.WellFormed := hw' k (List.mem_append_left _ hk)
    have hn : k.similar j = false := by simpa using hf k hk
    rw [similar_comm hkw hiw, similar_congr hiw hj hkw hs, similar_comm hj hkw, hn]
  case refine_2 => rwa [countP_similar_congr hw hiw hj hs]

-- What the scan asks of a value. A value that is similar to an earlier one is similar to a leader before it.
theorem leadsClass_iff (he : items = done ++ j :: rest) :
    LeadsClass items (j, done.length) ↔
      rest.any (similar j) = true ∧ (leadersIn items done).any (similar · j) = false := by
  have hj : j.WellFormed := hw j (by simp [he])
  have hcount : items.countP j.similar = done.countP j.similar + (rest.countP j.similar + 1) := by
    rw [he, List.countP_append, List.countP_cons_of_pos (similar_refl hj)]
  have htake : items.take done.length = done := by simp [he]
  have hany : rest.any (similar j) = true ↔ 0 < rest.countP j.similar := by
    rw [List.any_eq_true, List.countP_pos_iff]
  simp only [LeadsClass, htake, List.any_eq_false, hany]
  constructor
  case mp =>
    intro ⟨hf, hc⟩
    have hd : done.countP j.similar = 0 := List.countP_eq_zero.mpr fun k hk => by
      rw [similar_comm hj (hw k (by simp [he, hk])), hf k hk]
      simp
    exact ⟨by omega, fun k hk => by simp [hf k (mem_of_mem_leadersIn hk)]⟩
  case mpr =>
    intro ⟨hr, hn⟩
    have hc : 2 ≤ items.countP j.similar := by omega
    refine ⟨fun k hk => Bool.eq_false_iff.mpr fun hs => ?_, hc⟩
    obtain ⟨i, hi, his⟩ := exists_leader hw he hj hc ⟨k, hk, hs⟩
    exact hn i hi his

-- The induction is on the values to come; those seen so far are the leaders among the values before.
theorem repeatedAfter_eq (he : items = done ++ rest) :
    leadersIn items done ++ repeatedAfter (leadersIn items done) rest = leadersIn items items := by
  induction rest generalizing done with
  | nil => simp [repeatedAfter, he]
  | cons j rest ih =>
    have he' : items = done ++ [j] ++ rest := by simp [he]
    have ih := ih he'
    rw [leadersIn_concat] at ih
    have hl := leadsClass_iff hw he
    rw [repeatedAfter]
    by_cases hj : LeadsClass items (j, done.length)
    case pos =>
      obtain ⟨hr, hn⟩ := hl.mp hj
      rw [if_pos (by simp [hr, hn])]
      simpa [hj] using ih
    case neg =>
      rw [if_neg (by simpa [← Bool.not_eq_true, not_and] using mt hl.mpr hj)]
      simpa [hj] using ih

theorem repeated_eq : repeated items = leadersIn items items := by
  have h : items = [] ++ items := rfl
  simpa [repeated, leadersIn] using repeatedAfter_eq hw h

theorem countP_repeated (hj : j.WellFormed) :
    (repeated items).countP j.similar = if 2 ≤ items.countP j.similar then 1 else 0 := by
  rw [repeated_eq hw]
  have hm {i : Json} (hi : i ∈ leadersIn items items) : i.WellFormed := hw i (mem_of_mem_leadersIn hi)
  split
  case isTrue hc =>
    refine Nat.le_antisymm (countP_le_one ?once) (List.countP_pos_iff.mpr ?some)
    case once =>
      refine pairwise_leaders.imp_of_mem fun hi hk hn hs => ?_
      rw [similar_congr hj (hm hi) (hm hk) hs, hn]
    case some =>
      obtain ⟨k, hk, hs⟩ := List.countP_pos_iff.mp (Nat.lt_of_lt_of_le Nat.zero_lt_two hc)
      obtain ⟨i, hi, hs⟩ := exists_leader hw (List.append_nil items).symm hj hc
        ⟨k, hk, similar_comm hj (hw k hk) ▸ hs⟩
      exact ⟨i, hi, similar_comm (hm hi) hj ▸ hs⟩
  case isFalse hc =>
    refine List.countP_eq_zero.mpr fun i hi hs => hc ?_
    obtain ⟨_, _, hl⟩ := mem_leadersIn.mp hi
    rw [countP_similar_congr hw hj (hm hi) hs]
    exact hl.right

end

end Json

namespace Validator

theorem isValid_uniqueItems_iff {items : List Json} (h : items ≠ []) :
    (uniqueItemsIf true).isValid (.array items) = true ↔ items.Pairwise fun i j => i.similar j = false := by
  have he : Json.isEmpty (some (.array items)) = false := by
    cases items with
    | nil      => exact absurd rfl h
    | cons _ _ => rfl
  have hh : Rule.uniqueItems.holds (.array items) = (Json.repeated items).isEmpty := rfl
  rw [uniqueItemsIf, if_pos rfl, isValid_rule _ he, hh, List.isEmpty_iff, Json.repeated_eq_nil_iff]

-- The classes of similar values, and what is reported of them. Values are those that can be read.
theorem similarity_classes :
    (Equivalence fun a b : {j : Json // j.WellFormed} => a.val.similar b.val = true) ∧
    (∀ a b : {j : Json // j.WellFormed}, (a.val == b.val) = true → a.val.similar b.val = true) ∧
    ∀ items : List Json, (∀ j ∈ items, j.WellFormed) →
      Json.repeated items = (items.zipIdx.filter (Json.LeadsClass items ·)).map (·.1) ∧
      (∀ j : Json, j.WellFormed →
        (Json.repeated items).countP j.similar = if 2 ≤ items.countP j.similar then 1 else 0) ∧
      (items ≠ [] → ((uniqueItemsIf true).isValid (.array items) = true ↔
        items.Pairwise fun i j => i.similar j = false)) :=
  ⟨Json.equivalence_similar, fun _ b h => Json.similar_of_beq b.property h, fun _ hw =>
    ⟨Json.repeated_eq hw, fun _ hj => Json.countP_repeated hw hj, isValid_uniqueItems_iff⟩⟩

-- Two values of one number, each also in an object, and a text.
def mixture : List Json :=
  let whole : Json := .number (.integer 1)
  let float : Json := .number (.float (.finite false 1))
  [whole, .object [("n", .array [whole])], float, .object [("n", .array [float])], .string "n"]

theorem similarity_classes_mixture :
    let whole : Json := .number (.integer 1)
    (∀ j ∈ mixture, j.WellFormed) ∧ whole.WellFormed ∧ mixture ≠ [] ∧ (whole == whole) = true ∧
      whole.similar whole = true ∧
      Json.repeated mixture = (mixture.zipIdx.filter (Json.LeadsClass mixture ·)).map (·.1) ∧
      (mixture.zipIdx.filter (Json.LeadsClass mixture ·)).map (·.2) = [0, 1] ∧
      (Json.repeated mixture).countP whole.similar = 1 ∧
      ((uniqueItemsIf true).isValid (.array mixture) = true ↔
        mixture.Pairwise fun i j => i.similar j = false) := by
  intro whole
  have hw : ∀ j ∈ mixture, j.WellFormed := by decide
  have hj : whole.WellFormed := by decide
  have hn : mixture ≠ [] := List.cons_ne_nil _ _
  have hs : (whole == whole) = true := by decide
  obtain ⟨_, hbeq, hitems⟩ := similarity_classes
  obtain ⟨hr, hc, hu⟩ := hitems mixture hw
  exact ⟨hw, hj, hn, hs, hbeq ⟨whole, hj⟩ ⟨whole, hj⟩ hs, hr, by decide +kernel,
    (hc whole hj).trans (by decide +kernel), hu hn⟩

end Validator

end JsonSchema
