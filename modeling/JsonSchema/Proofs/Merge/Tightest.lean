import JsonSchema.Proofs.Merge.Bounds
import JsonSchema.Proofs.Merge.Steps
import JsonSchema.Proofs.Validator.Integers
import Mathlib.Data.List.Find

namespace JsonSchema.Merge

open Binary64 (exactLimit)

variable {keyword : String} {m n : Int} {ns : List Int}

-- By induction on the elements that are left. The one that is kept so far takes the place of all elements
-- before it.
theorem find?_foldl {α : Type} {r : α → α → Bool} (htotal : ∀ a b, r a b = true ∨ r b a = true)
    (htrans : ∀ a b c, r a b = true → r b c = true → r a c = true) (first : α) (rest : List α) :
    (first :: rest).find? (fun b => (first :: rest).all (r · b)) =
      some (rest.foldl (fun best a => if r a best then best else a) first) := by
  have hrefl a : r a a = true := (htotal a a).elim id id
  induction rest generalizing first with
  | nil => simp [hrefl]
  | cons next rest ih =>
    rw [List.foldl_cons]
    by_cases h : r next first = true
    case pos =>
      have hall b : (first :: next :: rest).all (r · b) = (first :: rest).all (r · b) := by
        rw [Bool.eq_iff_iff]
        simp only [List.all_cons, Bool.and_eq_true]
        exact ⟨fun ⟨hf, _, hr⟩ => ⟨hf, hr⟩, fun ⟨hf, hr⟩ => ⟨hf, htrans _ _ _ h hf, hr⟩⟩
      rw [if_pos h, ← ih first, funext hall]
      cases hf : (first :: rest).all (r · first) with
      | true  => simp only [List.find?_cons, hf]
      | false =>
        have hn : (first :: rest).all (r · next) = false := by
          refine Bool.eq_false_iff.mpr fun hn => Bool.eq_false_iff.mp hf ?_
          rw [List.all_eq_true] at hn ⊢
          exact fun a ha => htrans _ _ _ (hn a ha) h
        simp only [List.find?_cons, hf, hn]
    case neg =>
      have hle : r first next = true := (htotal first next).resolve_right h
      have hall b : (first :: next :: rest).all (r · b) = (next :: rest).all (r · b) := by
        rw [Bool.eq_iff_iff]
        simp only [List.all_cons, Bool.and_eq_true]
        exact ⟨And.right, fun hr => ⟨htrans _ _ _ hle hr.left, hr⟩⟩
      have hf : (first :: next :: rest).all (r · first) = false := by simp [h]
      rw [if_neg h, ← ih next, List.find?_cons, hf, funext hall]

def lowerKeywords : List String := lowerBounds ++ lowerLimits

def upperKeywords : List String := upperBounds ++ upperLimits

theorem ofKeyword_of_mem_lowerKeywords (hk : keyword ∈ lowerKeywords) :
    Rule.ofKeyword keyword = .lowerBound :=
  (List.mem_append.mp hk).elim ofKeyword_of_mem_lowerBounds ofKeyword_of_mem_lowerLimits

theorem ofKeyword_of_mem_upperKeywords (hk : keyword ∈ upperKeywords) :
    Rule.ofKeyword keyword = .upperBound :=
  (List.mem_append.mp hk).elim ofKeyword_of_mem_upperBounds ofKeyword_of_mem_upperLimits

theorem not_mem_lowerKeywords (hk : keyword ∈ upperKeywords) : keyword ∉ lowerKeywords := by
  intro hl
  have h := ofKeyword_of_mem_lowerKeywords hl
  simp [ofKeyword_of_mem_upperKeywords hk] at h

def bound (keyword : String) (n : Int) : Json := .object (single keyword (.ofInt n))

-- Whether the second bound is as tight as the first one.
def within (keyword : String) (m n : Int) : Bool :=
  if keyword ∈ lowerKeywords then (Binary64.ofInt m).numLe (.ofInt n)
  else (Binary64.ofInt n).numLe (.ofInt m)

theorem within_total (keyword : String) (m n : Int) :
    within keyword m n = true ∨ within keyword n m = true := by
  have h := (le_total m n).imp Binary64.numLe_ofInt_of_le Binary64.numLe_ofInt_of_le
  by_cases hk : keyword ∈ lowerKeywords <;> simp only [within, hk, if_true, if_false]
  case pos => exact h
  case neg => exact h.symm

theorem within_trans (keyword : String) (k m n : Int) (h : within keyword k m = true)
    (h' : within keyword m n = true) : within keyword k n = true := by
  by_cases hk : keyword ∈ lowerKeywords <;> simp only [within, hk, if_true, if_false] at *
  case pos => exact Binary64.numLe_trans h h'
  case neg => exact Binary64.numLe_trans h' h

theorem kept?_mergeBound (tighter : Binary64 → Binary64 → Bool) :
    (mergeBound tighter (.ofInt m) (.ofInt n)).kept? =
      some (.ofInt (if tighter (.ofInt n) (.ofInt m) then n else m)) := by
  have h : mergeBound tighter (.ofInt m) (.ofInt n) =
      if tighter (.ofInt n) (.ofInt m) then .keep (.ofInt n) else .keep (.ofInt m) := rfl
  rw [h]
  cases tighter (.ofInt n) (.ofInt m) <;> rfl

theorem kept?_mergeValues_bound {merge : List Json → Option Json}
    (hk : keyword ∈ lowerKeywords ++ upperKeywords) (m n : Int) :
    (mergeValues merge none none keyword (.ofInt m) (.ofInt n)).kept? =
      some (.ofInt (if within keyword n m then m else n)) := by
  have hite (b : Bool) : (if (!b) = true then n else m) = if b = true then m else n := by cases b <;> rfl
  cases List.mem_append.mp hk
  case inl hk =>
    simp only [mergeValues, ofKeyword_of_mem_lowerKeywords hk]
    rw [kept?_mergeBound, Binary64.numLt_ofInt_eq, hite, within, if_pos hk]
  case inr hk =>
    simp only [mergeValues, ofKeyword_of_mem_upperKeywords hk]
    rw [kept?_mergeBound, Binary64.numLt_ofInt_eq, hite, within, if_neg (not_mem_lowerKeywords hk)]

theorem combine?_bound {merge : List Json → Option Json} (hk : keyword ∈ lowerKeywords ++ upperKeywords)
    (m n : Int) :
    combine? merge keyword (.ofInt m) (.ofInt n) = some (.ofInt (if within keyword n m then m else n)) := by
  have hs : (Json.ofInt m == Json.ofInt n) = (m == n) := rfl
  rw [combine?, hs, kept?_mergeValues_bound hk]
  split
  case isTrue h  => rw [beq_iff_eq.mp h, ite_self]
  case isFalse   => rfl

theorem foldlM_combine?_bound {merge : List Json → Option Json}
    (hk : keyword ∈ lowerKeywords ++ upperKeywords) (first : Int) (rest : List Int) :
    (rest.map Json.ofInt).foldlM (combine? merge keyword) (.ofInt first) =
      some (.ofInt (rest.foldl (fun m n => if within keyword n m then m else n) first)) := by
  induction rest generalizing first with
  | nil => rfl
  | cons next rest ih => simp [combine?_bound hk, ih]

-- Merged bounds are the first one that is as tight as all of them.
theorem exists_mergeAll_bounds (hk : keyword ∈ lowerKeywords ++ upperKeywords) (hne : ns ≠ []) :
    ∃ k, ns.find? (fun n => ns.all (within keyword · n)) = some k ∧
      mergeAll (ns.map (bound keyword)) = bound keyword k := by
  obtain ⟨first, rest, rfl⟩ := List.exists_cons_of_ne_nil hne
  have hn : ∀ other ∈ lowerKeywords ++ upperKeywords,
      other ∉ ["properties", "additionalProperties"] ++ identifiers := by decide
  refine ⟨_, find?_foldl (within_total keyword) (within_trans keyword) first rest, ?_⟩
  obtain ⟨levels, h⟩ := tryMerge?_singles (hn keyword hk) (.ofInt first) (rest.map .ofInt)
  rw [foldlM_combine?_bound hk] at h
  have hmap : (first :: rest).map (bound keyword) =
      (Json.ofInt first :: rest.map .ofInt).map fun value => .object (single keyword value) := by
    simp [bound, Function.comp_def]
  rw [hmap, mergeAll, conjoin, h]
  rfl

-- The greatest lower bound, the least upper one.
def tightest? (keyword : String) (ns : List Int) : Option Int :=
  if keyword ∈ lowerKeywords then ns.max? else ns.min?

theorem within_of_tightest? (h : tightest? keyword ns = some m) (hn : n ∈ ns) :
    within keyword n m = true := by
  by_cases hk : keyword ∈ lowerKeywords <;> simp only [tightest?, within, hk, if_true, if_false] at *
  case pos => exact Binary64.numLe_ofInt_of_le ((List.max?_eq_some_iff.mp h).right n hn)
  case neg => exact Binary64.numLe_ofInt_of_le ((List.min?_eq_some_iff.mp h).right n hn)

theorem mem_of_tightest? (h : tightest? keyword ns = some m) : m ∈ ns := by
  unfold tightest? at h
  split at h
  case isTrue  => exact List.max?_mem h
  case isFalse => exact List.min?_mem h

theorem exists_tightest? (keyword : String) (hne : ns ≠ []) : ∃ m, tightest? keyword ns = some m := by
  unfold tightest?
  split
  case isTrue  => exact Option.isSome_iff_exists.mp (List.isSome_max?_of_ne_nil hne)
  case isFalse => exact Option.isSome_iff_exists.mp (List.isSome_min?_of_ne_nil hne)

theorem eq_of_within (h : within keyword m n = true) (h' : within keyword n m = true) :
    Binary64.ofInt n = Binary64.ofInt m := by
  refine Binary64.numEq_ofInt_iff.mp (Binary64.numEq_iff.mpr ?_)
  by_cases hk : keyword ∈ lowerKeywords <;> simp only [within, hk, if_true, if_false] at *
  case pos => exact ⟨h', h⟩
  case neg => exact ⟨h, h'⟩

-- To be as tight as all is to be rounded as the tightest one is.
theorem all_within_iff (h : tightest? keyword ns = some m) (hn : n ∈ ns) :
    ns.all (within keyword · n) = decide (Binary64.ofInt n = Binary64.ofInt m) := by
  rw [Bool.eq_iff_iff, List.all_eq_true, decide_eq_true_eq]
  constructor
  case mp  => exact fun ha => eq_of_within (ha m (mem_of_tightest? h)) (within_of_tightest? h hn)
  case mpr =>
    intro he a ha
    have hw := within_of_tightest? h ha
    unfold within at *
    rwa [he]

theorem tightest?_perm {ms : List Int} (hp : ms.Perm ns) (h : tightest? keyword ns = some m) :
    tightest? keyword ms = some m := by
  by_cases hk : keyword ∈ lowerKeywords <;> simp only [tightest?, hk, if_true, if_false] at *
  case pos => simpa only [List.max?_eq_some_iff, hp.mem_iff] using h
  case neg => simpa only [List.min?_eq_some_iff, hp.mem_iff] using h

theorem mergeAll_bounds (hk : keyword ∈ lowerKeywords ++ upperKeywords)
    (h : tightest? keyword ns = some m) :
    ∃ k, ns.find? (fun n => Binary64.ofInt n = Binary64.ofInt m) = some k ∧
      mergeAll (ns.map (bound keyword)) = bound keyword k := by
  rw [← List.find?_congr fun n hn => all_within_iff h hn]
  exact exists_mergeAll_bounds hk (List.ne_nil_of_mem (mem_of_tightest? h))

theorem bound_inj : bound keyword m = bound keyword n ↔ m = n := by
  simp [bound, single, Json.ofInt]

-- Schemas with these bounds are merged to the one with the tightest of them, in whatever order they are.
def KeepsTightest (keyword : String) (ns : List Int) : Prop :=
  ∀ ms : List Int, ms.Perm ns →
    some (mergeAll (ms.map (bound keyword))) = (tightest? keyword ns).map (bound keyword)

-- A bound that is rounded as the tightest one is kept instead if it is put first.
theorem keepsTightest_iff_of_tightest? (hk : keyword ∈ lowerKeywords ++ upperKeywords)
    (h : tightest? keyword ns = some m) :
    KeepsTightest keyword ns ↔ ∀ n ∈ ns, Binary64.ofInt n = Binary64.ofInt m → n = m := by
  simp only [KeepsTightest, h, Option.map_some, Option.some.injEq]
  constructor
  case mp =>
    intro hm n hn he
    have hp : (n :: ns.erase n).Perm ns := (List.perm_cons_erase hn).symm
    obtain ⟨k, hf, hb⟩ := mergeAll_bounds hk (tightest?_perm hp h)
    have hn : k = n := by simpa [he] using hf.symm
    rw [hm _ hp, bound_inj] at hb
    exact (hb.trans hn).symm
  case mpr =>
    intro hu ms hp
    obtain ⟨k, hf, hb⟩ := mergeAll_bounds hk (tightest?_perm hp h)
    have hm : k ∈ ns := hp.mem_iff.mp (List.mem_of_find?_eq_some hf)
    have he : Binary64.ofInt k = Binary64.ofInt m := by simpa using List.find?_some hf
    rw [hb, hu k hm he]

theorem keepsTightest_iff (hk : keyword ∈ lowerKeywords ++ upperKeywords) (hne : ns ≠ []) :
    ∃ m, tightest? keyword ns = some m ∧
      (∃ k, ns.find? (fun n => Binary64.ofInt n = Binary64.ofInt m) = some k ∧
        mergeAll (ns.map (bound keyword)) = bound keyword k) ∧
      (KeepsTightest keyword ns ↔ ∀ n ∈ ns, Binary64.ofInt n = Binary64.ofInt m → n = m) ∧
      (m.natAbs < exactLimit → KeepsTightest keyword ns) := by
  obtain ⟨m, h⟩ := exists_tightest? keyword hne
  have hiff := keepsTightest_iff_of_tightest? hk h
  refine ⟨m, h, mergeAll_bounds hk h, hiff, fun hs => hiff.mpr fun n _ he => ?_⟩
  exact (Binary64.ofInt_inj (.inr hs)).mp he

-- The greatest of these times is followed by one that is rounded to another number.
theorem keepsTightest_times :
    let times := [-5, 1700000000000000000, 1700000000000000256, 1699999999999999999]
    ("minimum" ∈ lowerKeywords ++ upperKeywords ∧ times ≠ []) ∧ KeepsTightest "minimum" times := by
  intro times
  have hk : "minimum" ∈ lowerKeywords ++ upperKeywords := by decide
  have hne : times ≠ [] := by decide
  obtain ⟨m, hm, _, hiff, _⟩ := keepsTightest_iff hk hne
  have ht : tightest? "minimum" times = some 1700000000000000256 := by decide
  obtain rfl : 1700000000000000256 = m := Option.some.inj (ht.symm.trans hm)
  exact ⟨⟨hk, hne⟩, hiff.mpr (by decide +kernel)⟩

-- The first integer that is no number of the format does not prevail over the one before it.
theorem not_keepsTightest_neighbours :
    let less := Int.ofNat exactLimit
    let more := less + 1
    mergeAll [bound "minimum" less, bound "minimum" more] = bound "minimum" less ∧
      tightest? "minimum" [less, more] = some more ∧ ¬ KeepsTightest "minimum" [less, more] := by
  intro less more
  have ht : tightest? "minimum" [less, more] = some more := by decide
  obtain ⟨k, hf, hm⟩ := mergeAll_bounds (by decide) ht
  have hl : [less, more].find? (fun n => Binary64.ofInt n = Binary64.ofInt more) = some less := by
    decide +kernel
  obtain rfl : less = k := Option.some.inj (hl.symm.trans hf)
  refine ⟨hm, ht, fun h => ?_⟩
  have hb := h [less, more] (.refl _)
  rw [hm, ht, Option.map_some, Option.some.injEq, bound_inj] at hb
  exact absurd hb (by decide)

end JsonSchema.Merge
