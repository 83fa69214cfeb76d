import JsonSchema.Proofs.Pointer.Text
import JsonSchema.Proofs.Reference.Shortening

namespace JsonSchema.Pointer

variable {arrays : ArrayMap} {p q g : Pointer} {token step : String} {indices more : List Nat}

-- The number of steps that stand for every index.
def gaps (p : Pointer) : Nat := p.tokens.count anyIndex

theorem gaps_child (p : Pointer) (token : String) :
    (p.child token).gaps = p.gaps + if token = anyIndex then 1 else 0 := by
  simp [gaps, child, List.count_singleton]

theorem isGeneric_child (p : Pointer) (token : String) :
    (p.child token).isGeneric = false ↔ p.isGeneric = false ∧ token ≠ anyIndex := by
  simp [isGeneric, child, @eq_comm _ token]

-- What a step becomes if `index` is the next one, if any is left.
def fillStep (index : Option Nat) (token : String) : String :=
  if token = anyIndex then index.elim token ofIndex else token

theorem fillStep_of_ne (h : token ≠ anyIndex) (index : Option Nat) : fillStep index token = token :=
  if_neg h

@[simp]
theorem fillStep_none (token : String) : fillStep none token = token := by
  simp [fillStep]

theorem fill_concat (tokens : List String) (token : String) (indices : List Nat) :
    fill (tokens ++ [token]) indices =
      fill tokens indices ++ [fillStep indices[tokens.count anyIndex]? token] := by
  have hnil (tokens : List String) : fill tokens [] = tokens := by cases tokens <;> rfl
  induction tokens generalizing indices with
  | nil =>
    cases indices with
    | nil => simp [hnil]
    | cons index indices =>
      simp only [List.nil_append, fill, fillStep]
      split <;> rfl
  | cons first rest ih =>
    cases indices with
    | nil => simp [hnil]
    | cons index indices =>
      simp only [List.cons_append, fill]
      split
      case isTrue hf  => simp [ih, hf]
      case isFalse hf => simp [ih, List.count_cons_of_ne hf]

theorem toIndexed_child (p : Pointer) (token : String) (indices : List Nat) :
    (p.child token).toIndexed indices =
      (p.toIndexed indices).child (fillStep indices[p.gaps]? token) :=
  congrArg mk (fill_concat p.tokens token indices)

theorem toIndexed_append (h : p.gaps ≤ indices.length) :
    p.toIndexed (indices ++ more) = p.toIndexed indices := by
  induction p using induct_child with
  | root => rfl
  | child p token ih =>
    rw [gaps_child] at h
    rw [toIndexed_child, toIndexed_child, ih (by omega)]
    by_cases ht : token = anyIndex
    case neg => rw [fillStep_of_ne ht, fillStep_of_ne ht]
    case pos =>
      rw [if_pos ht] at h
      rw [List.getElem?_append_left (by omega)]

-- The indices of `p` where `q` takes another step.
def replaced (p q : Pointer) : List Nat :=
  (p.tokens.zip q.tokens).filterMap fun (token, step) => if token = step then none else index? token

theorem replaced_child (h : p.depth = q.depth) :
    (p.child token).replaced (q.child step) =
      p.replaced q ++ (if token = step then none else index? token).toList := by
  simp only [replaced, child, List.zip_append h, List.filterMap_append, List.zip_cons_cons, List.zip_nil_left,
    List.filterMap_cons, List.filterMap_nil]
  cases (if token = step then none else index? token) <;> rfl

theorem toIndexed_toGeneric (arrays : ArrayMap) (h : p.isGeneric = false) :
    (p.toGeneric arrays).gaps = (p.replaced (p.toGeneric arrays)).length ∧
      (p.toGeneric arrays).toIndexed (p.replaced (p.toGeneric arrays)) = p := by
  induction p using induct_child with
  | root => exact ⟨rfl, rfl⟩
  | child p token ih =>
    obtain ⟨hp, ht⟩ := (isGeneric_child p token).mp h
    obtain ⟨hg, hf⟩ := ih hp
    rw [toGeneric_child, replaced_child (depth_toGeneric p arrays).symm, gaps_child, toIndexed_child,
      toIndexed_append (Nat.le_of_eq hg), hf, hg]
    cases genericStep_cases arrays (p.toGeneric arrays) token
    case inl hs => simp [hs, ht, fillStep_of_ne ht]
    case inr hs =>
      obtain ⟨hs, index, _, hi, _⟩ := hs
      have he : ofIndex index = token := (eq_ofIndex_of_index? hi).symm
      simp [hs, ht, hi, fillStep, he]

-- Each step that stands for every index belongs to a known array, and what fills it lies beyond the items
-- with a place of their own.
def Fits (arrays : ArrayMap) (indices : List Nat) (g : Pointer) : Prop :=
  ∀ front back, g.tokens = front ++ anyIndex :: back → ∃ arity, arrays.get? ⟨front⟩ = some arity ∧
    ∀ index, indices[front.count anyIndex]? = some index → arity ≤ index

theorem fits_root : Fits arrays indices root := by
  intro front back he
  simp [root] at he

theorem fits_child : Fits arrays indices (g.child token) ↔ Fits arrays indices g ∧
    (token = anyIndex → ∃ arity, arrays.get? g = some arity ∧
      ∀ index, indices[g.gaps]? = some index → arity ≤ index) := by
  constructor
  case mp =>
    intro h
    refine ⟨fun front back he => h front (back ++ [token]) (by simp [child, he]), fun ht => ?_⟩
    exact h g.tokens [] (by simp [child, ht])
  case mpr =>
    rintro ⟨h, hlast⟩ front back he
    rcases List.eq_nil_or_concat back with rfl | ⟨rest, last, rfl⟩
    · obtain ⟨rfl, ht⟩ := List.append_inj' he rfl
      exact hlast (List.cons.inj ht).left
    · have he : g.tokens ++ [token] = (front ++ anyIndex :: rest) ++ [last] := by simpa [child] using he
      exact h front rest (List.append_inj' he rfl).left

theorem Fits.genericStep_fillStep (h : Fits arrays indices (g.child token))
    (hw : ∀ index ∈ indices, index < UInt64.size) (ht : genericStep arrays g token = token) :
    genericStep arrays g (fillStep indices[g.gaps]? token) = token := by
  by_cases he : token = anyIndex
  case neg => rwa [fillStep_of_ne he]
  case pos =>
    subst he
    cases hi : indices[g.gaps]? with
    | none => rwa [fillStep_none]
    | some index =>
      obtain ⟨arity, ha, hle⟩ := (fits_child.mp h).right rfl
      have hx : index? (ofIndex index) = some index := index?_ofIndex (hw index (List.mem_of_getElem? hi))
      simp [fillStep, genericStep, hx, ha, hle index hi]

theorem Generic.toGeneric_toIndexed (hg : Generic arrays g) (h : Fits arrays indices g)
    (hw : ∀ index ∈ indices, index < UInt64.size) : (g.toIndexed indices).toGeneric arrays = g := by
  induction g using induct_child with
  | root => rfl
  | child g token ih =>
    obtain ⟨hg, ht⟩ := hg.of_child
    rw [toIndexed_child, toGeneric_child, ih hg (fits_child.mp h).left, h.genericStep_fillStep hw ht]

-- Pointers and their generic forms with indices are two views of the same. Indices are of the size of a word.
theorem generic_indexed_inverse (arrays : ArrayMap) :
    (∀ p : Pointer, p.isGeneric = false →
      (p.toGeneric arrays).toIndexed (p.replaced (p.toGeneric arrays)) = p) ∧
    ∀ (g : Pointer) (indices : List Nat), g.toGeneric arrays = g → Fits arrays indices g →
      (∀ index ∈ indices, index < UInt64.size) → (g.toIndexed indices).toGeneric arrays = g :=
  ⟨fun _ h => (toIndexed_toGeneric arrays h).right, fun _ _ hg h hw => Generic.toGeneric_toIndexed hg h hw⟩

-- The first row of a table is a list of headings; each other row starts with two cells of their own.
def table : ArrayMap :=
  .ofList [(⟨["table"]⟩, 1), (⟨["table", "-"]⟩, 2), (⟨["table", "0"]⟩, 0)]

theorem generic_indexed_inverse_table :
    let p : Pointer := ⟨["table", "4", "2"]⟩
    let g : Pointer := ⟨["table", "-", "-"]⟩
    p.isGeneric = false ∧ g.toGeneric table = g ∧ Fits table [4] g ∧ (∀ index ∈ [4], index < UInt64.size) ∧
      g.toIndexed [4, 2] = p ∧ (Pointer.toGeneric ⟨["table", "4", "-"]⟩ table) = g := by
  intro p g
  have hp : p.isGeneric = false := by decide
  have hg : g.toGeneric table = g := by decide
  have hw : ∀ index ∈ [4], index < UInt64.size := by decide
  have hf : Fits table [4] (((root.child "table").child anyIndex).child anyIndex) := by
    simp only [fits_child]
    refine ⟨⟨⟨fits_root, fun h => absurd h (by decide)⟩, fun _ => ⟨1, by decide, fun index h => ?_⟩⟩,
      fun _ => ⟨2, by decide, fun index h => ?_⟩⟩
    · cases h
      decide
    · cases h
  exact ⟨hp, hg, hf, hw, (generic_indexed_inverse table).left p hp,
    (generic_indexed_inverse table).right g [4] hg hf hw⟩

end JsonSchema.Pointer
