import JsonSchema.Proofs.Pointer.Within
import JsonSchema.Reference.Shortening

namespace JsonSchema

@[simp]
theorem Pointer.toGeneric_empty (p : Pointer) : p.toGeneric PointerTable.empty = p := by
  have hf (tokens : List String) (position : Pointer) :
      toGenericFrom PointerTable.empty position tokens = position.append tokens := by
    induction tokens generalizing position with
    | nil => simp [toGenericFrom]
    | cons token rest ih =>
      have hg : genericStep PointerTable.empty position token = token := by
        simp only [genericStep, PointerTable.get?, PointerTable.empty, PointerTable.lookup]
        split <;> simp_all
      rw [toGenericFrom, hg, ih, Pointer.child_append]
  rw [toGeneric, hf, root_append_tokens]

namespace Pointer

variable {arrays : ArrayMap} {p position : Pointer} {tokens front back : List String}

-- No step of the pointer can be made generic.
def Generic (arrays : ArrayMap) (p : Pointer) : Prop := p.toGeneric arrays = p

theorem genericStep_anyIndex (arrays : ArrayMap) (position : Pointer) :
    genericStep arrays position anyIndex = anyIndex := by
  unfold genericStep
  split <;> simp

theorem genericStep_cases (arrays : ArrayMap) (position : Pointer) (token : String) :
    genericStep arrays position token = token ∨
      genericStep arrays position token = anyIndex ∧ ∃ index arity, index? token = some index ∧
        arrays.get? position = some arity ∧ arity ≤ index := by
  unfold genericStep
  split
  case h_1 index arity hi ha =>
    split
    case isTrue hle => exact .inr ⟨rfl, index, arity, hi, ha, hle⟩
    case isFalse    => exact .inl rfl
  case h_2 => exact .inl rfl

theorem genericStep_genericStep (arrays : ArrayMap) (position : Pointer) (token : String) :
    genericStep arrays position (genericStep arrays position token) =
      genericStep arrays position token := by
  cases genericStep_cases arrays position token
  case inl h => rw [h, h]
  case inr h => rw [h.left, genericStep_anyIndex]

theorem toGenericFrom_append (arrays : ArrayMap) (position : Pointer) (front back : List String) :
    toGenericFrom arrays position (front ++ back) =
      toGenericFrom arrays (toGenericFrom arrays position front) back := by
  induction front generalizing position with
  | nil => rfl
  | cons token rest ih => exact ih _

theorem toGeneric_child (p : Pointer) (token : String) :
    (p.child token).toGeneric arrays =
      (p.toGeneric arrays).child (genericStep arrays (p.toGeneric arrays) token) :=
  toGenericFrom_append arrays root p.tokens [token]

theorem generic_root : Generic arrays root := rfl

theorem Generic.child (h : Generic arrays p) (token : String) :
    Generic arrays (p.child (genericStep arrays p token)) := by
  rw [Generic, toGeneric_child, h, genericStep_genericStep]

theorem generic_toGenericFrom (h : Generic arrays position) (tokens : List String) :
    Generic arrays (toGenericFrom arrays position tokens) := by
  induction tokens generalizing position with
  | nil => exact h
  | cons token rest ih => exact ih (h.child token)

theorem generic_toGeneric (arrays : ArrayMap) (p : Pointer) : Generic arrays (p.toGeneric arrays) :=
  generic_toGenericFrom generic_root p.tokens

theorem Generic.of_child {token : String} (h : Generic arrays (p.child token)) :
    Generic arrays p ∧ genericStep arrays p token = token := by
  rw [Generic, toGeneric_child] at h
  have ht : (p.toGeneric arrays).tokens ++ [genericStep arrays (p.toGeneric arrays) token] =
      p.tokens ++ [token] := congrArg tokens h
  obtain ⟨hp, ht⟩ := List.append_inj' ht rfl
  have hp : Generic arrays p := congrArg mk hp
  rw [hp] at ht
  exact ⟨hp, (List.cons.inj ht).left⟩

theorem Generic.of_isWithin {q : Pointer} (h : Generic arrays p) (hw : p.isWithin q = true) :
    Generic arrays q := by
  induction p using induct_child with
  | root =>
    obtain rfl := isWithin_antisymm hw (isWithin_iff.mpr (List.nil_prefix))
    exact h
  | child p token ih =>
    cases isWithin_total hw (append_isWithin p [token])
    case inr hp => exact ih h.of_child.left hp
    case inl hq =>
      by_cases he : p.child token = q
      case pos => exact he ▸ h
      case neg =>
        have hlt := depth_lt_of_isInside (isInside_iff.mpr ⟨hw, he⟩)
        have hp := isWithin_iff.mp hq
        have hle := hp.length_le
        simp only [depth, Pointer.child, List.length_append, List.length_singleton] at hlt
        obtain rfl : p = q := congrArg mk (hp.eq_of_length (by omega))
        exact h.of_child.left

end Pointer

namespace ReferenceMap

variable {references : ReferenceMap} {arrays : ArrayMap} {source target p q : Pointer}

-- No beginning of the pointer is the source of a reference to an enclosing node.
def Normal (references : ReferenceMap) (p : Pointer) : Prop :=
  ∀ source target, (source, target) ∈ references.entries → source.isInside target = true →
    p.isWithin source = false

theorem Normal.of_isWithin (h : references.Normal p) (hw : p.isWithin q = true) :
    references.Normal q := by
  intro source target hm hi
  cases hq : q.isWithin source with
  | false => rfl
  | true  => simpa [Pointer.isWithin_trans hw hq] using h source target hm hi

def Preserves (references : ReferenceMap) (motive : Pointer → Prop) : Prop :=
  ∀ source target tokens, (source, target) ∈ references.entries → source.isInside target = true →
    motive (source.append tokens) → motive (target.append tokens)

def PreservesIn (references : ReferenceMap) (arrays : ArrayMap) (motive : Pointer → Prop) : Prop :=
  ∀ source target tokens, (source, target) ∈ references.entries → source.isInside target = true →
    motive (source.append tokens) → motive ((target.append tokens).toGeneric arrays)

section Collapse

variable {motive : Pointer → Prop}

theorem Preserves.of_empty (hm : references.Preserves motive) :
    references.PreservesIn PointerTable.empty motive := by
  intro source target tokens he hi h
  rw [Pointer.toGeneric_empty]
  exact hm source target tokens he hi h

theorem collapse_of_rebase? (hi : source.isInside target = true)
    (hq : p.rebase? source target = some q) :
    collapse arrays source target p = collapse arrays source target (q.toGeneric arrays) := by
  rw [collapse, dif_pos hi]
  split
  case h_1 _ ho => rw [Option.some.inj (hq.symm.trans ho)]
  case h_2 hn   => simp [hq] at hn

theorem collapse_of_not_isInside (hi : ¬ source.isInside target = true) :
    collapse arrays source target p = p := by
  rw [collapse, dif_neg hi]

theorem collapse_of_not_isWithin (hw : p.isWithin source = false) :
    collapse arrays source target p = p := by
  by_cases hi : source.isInside target = true
  case neg => exact collapse_of_not_isInside hi
  case pos =>
    rw [collapse, dif_pos hi]
    split
    case h_1 _ ho => simp [Pointer.rebase?_eq_none.mpr hw] at ho
    case h_2      => rfl

theorem collapse_induct (hm : references.PreservesIn arrays motive)
    (he : (source, target) ∈ references.entries) (h : motive p) :
    motive (collapse arrays source target p) := by
  induction p using collapse.induct arrays source target with
  | case1 p hi q hq ih =>
    obtain ⟨tokens, rfl, rfl⟩ := Pointer.rebase?_eq_some.mp hq
    rw [collapse_of_rebase? hi hq]
    exact ih (hm source target tokens he hi h)
  | case2 p _ hn => rwa [collapse_of_not_isWithin (Pointer.rebase?_eq_none.mp hn)]
  | case3 p hi   => rwa [collapse_of_not_isInside hi]

theorem collapse_lt_or_eq (arrays : ArrayMap) (source target p : Pointer) :
    (collapse arrays source target p).depth < p.depth ∨
      collapse arrays source target p = p ∧
        (source.isInside target = true → p.isWithin source = false) := by
  induction p using collapse.induct arrays source target with
  | case1 p hi q hq ih =>
    left
    have hd := Pointer.depth_lt_of_isInside hi
    have hr := Pointer.depth_rebase hq
    rw [Pointer.depth_toGeneric] at ih
    rw [collapse_of_rebase? hi hq]
    cases ih
    case inl hlt => omega
    case inr he  => rw [he.left, Pointer.depth_toGeneric]; omega
  | case2 p _ hn =>
    have hw := Pointer.rebase?_eq_none.mp hn
    exact .inr ⟨collapse_of_not_isWithin hw, fun _ => hw⟩
  | case3 p hi => exact .inr ⟨collapse_of_not_isInside hi, fun h => absurd h hi⟩

theorem pass_induct (hm : references.PreservesIn arrays motive) (h : motive p) :
    motive (pass references arrays p) := by
  suffices hf : ∀ entries : List (Pointer × Pointer), entries ⊆ references.entries →
      ∀ p, motive p → motive
        (entries.foldl (fun q entry => collapse arrays entry.1 entry.2 q) p) from
    hf references.entries (List.Subset.refl _) p h
  intro entries
  induction entries with
  | nil => exact fun _ _ h => h
  | cons entry rest ih =>
    intro hs p h
    obtain ⟨he, hr⟩ := List.cons_subset.mp hs
    exact ih hr _ (collapse_induct hm he h)

-- The induction is on the entries: only if each of them leaves the pointer as it is, no step is taken away.
theorem pass_lt_or_eq (references : ReferenceMap) (arrays : ArrayMap) (p : Pointer) :
    (pass references arrays p).depth < p.depth ∨
      pass references arrays p = p ∧ references.Normal p := by
  suffices hf : ∀ (entries : List (Pointer × Pointer)) (p : Pointer),
      (entries.foldl (fun q entry => collapse arrays entry.1 entry.2 q) p).depth <
        p.depth ∨
      entries.foldl (fun q entry => collapse arrays entry.1 entry.2 q) p = p ∧
        ∀ source target, (source, target) ∈ entries → source.isInside target = true →
          p.isWithin source = false from
    hf references.entries p
  intro entries
  induction entries with
  | nil => exact fun p => .inr ⟨rfl, by simp⟩
  | cons entry rest ih =>
    intro p
    obtain ⟨source, target⟩ := entry
    simp only [List.foldl_cons]
    cases collapse_lt_or_eq arrays source target p
    case inl hlt =>
      cases ih (collapse arrays source target p)
      case inl h => exact .inl (Nat.lt_trans h hlt)
      case inr h => exact .inl (h.left.symm ▸ hlt)
    case inr he =>
      rw [he.left]
      cases ih p
      case inl h => exact .inl h
      case inr h =>
        refine .inr ⟨h.left, fun other target' hm hi => ?_⟩
        cases List.mem_cons.mp hm
        case inl hm => cases hm; exact he.right hi
        case inr hm => exact h.right other target' hm hi

theorem settle_induct (hm : references.PreservesIn arrays motive) (h : motive p) :
    motive (settle references arrays p) := by
  induction p using settle.induct references arrays with
  | case1 p hlt ih =>
    rw [settle, if_pos hlt]
    exact ih (pass_induct hm h)
  | case2 p hlt =>
    rw [settle, if_neg hlt]
    exact h

theorem shorten_induct (hm : references.Preserves motive) (h : motive p) :
    motive (references.shorten PointerTable.empty p) := by
  rw [shorten, Pointer.toGeneric_empty]
  exact settle_induct hm.of_empty h

theorem shorten_induct_generic (hm : references.PreservesIn arrays motive)
    (h : motive (p.toGeneric arrays)) : motive (references.shorten arrays p) :=
  settle_induct hm h

end Collapse

theorem normal_shorten (references : ReferenceMap) (arrays : ArrayMap) (p : Pointer) :
    references.Normal (references.shorten arrays p) := by
  rw [shorten]
  induction p.toGeneric arrays using settle.induct references arrays with
  | case1 p hlt ih =>
    rw [settle, if_pos hlt]
    exact ih
  | case2 p hlt =>
    rw [settle, if_neg hlt]
    exact ((pass_lt_or_eq references arrays p).resolve_left hlt).right

theorem generic_shorten (references : ReferenceMap) (arrays : ArrayMap) (p : Pointer) :
    (references.shorten arrays p).Generic arrays :=
  shorten_induct_generic (motive := Pointer.Generic arrays)
    (fun _ _ _ _ _ _ => Pointer.generic_toGeneric arrays _) (Pointer.generic_toGeneric arrays p)

theorem shorten_eq_self_of_generic (h : references.Normal p) (hg : p.Generic arrays) :
    references.shorten arrays p = p := by
  rw [shorten, hg, settle, if_neg]
  have hp : pass references arrays p = p := by
    refine pass_induct (motive := (· = p)) (fun source target tokens he hi hq => ?_) rfl
    have := h source target he hi
    simp [Pointer.isWithin_iff_exists.mpr ⟨tokens, hq.symm⟩] at this
  rw [hp]
  exact Nat.lt_irrefl _

theorem shorten_eq_self (h : references.Normal p) : references.shorten PointerTable.empty p = p :=
  shorten_eq_self_of_generic h (Pointer.toGeneric_empty p)

-- A number of replacements, of which each result is made generic, lead from a pointer to another one. They
-- may come in any order.
inductive Replaces (references : ReferenceMap) (arrays : ArrayMap) (p : Pointer) : Nat → Pointer → Prop
  | refl : Replaces references arrays p 0 p
  | step {n : Nat} {source target : Pointer} {tokens : List String} :
    Replaces references arrays p n (source.append tokens) → (source, target) ∈ references.entries →
      source.isInside target = true →
      Replaces references arrays p (n + 1) ((target.append tokens).toGeneric arrays)

theorem Replaces.depth_add_le {n : Nat} (h : Replaces references arrays p n q) :
    q.depth + n ≤ p.depth := by
  induction h with
  | refl => exact Nat.le_refl _
  | step _ _ hi ih =>
    have hd := Pointer.depth_lt_of_isInside hi
    rw [Pointer.depth_toGeneric]
    simp only [Pointer.depth, Pointer.append, List.length_append] at hd ih ⊢
    omega

theorem exists_replaces_shorten (references : ReferenceMap) (arrays : ArrayMap) (p : Pointer) :
    ∃ n, Replaces references arrays (p.toGeneric arrays) n (references.shorten arrays p) := by
  refine shorten_induct_generic (motive := fun q => ∃ n, Replaces references arrays _ n q) ?_ ⟨0, .refl⟩
  rintro source target tokens he hi ⟨n, h⟩
  exact ⟨n + 1, h.step he hi⟩

-- Shortening ends after as many replacements as there are steps at most. The result is generic, has no
-- beginning that can be replaced, and is shortened to itself.
theorem shorten_canonical (references : ReferenceMap) (arrays : ArrayMap) (p : Pointer) :
    (∃ n, Replaces references arrays (p.toGeneric arrays) n (references.shorten arrays p) ∧
      (references.shorten arrays p).depth + n ≤ p.depth) ∧
    (references.shorten arrays p).toGeneric arrays = references.shorten arrays p ∧
    (∀ source target, (source, target) ∈ references.entries → source.isInside target = true →
      (references.shorten arrays p).isWithin source = false) ∧
    references.shorten arrays (references.shorten arrays p) = references.shorten arrays p := by
  have hg : (references.shorten arrays p).Generic arrays := generic_shorten references arrays p
  have hn := normal_shorten references arrays p
  refine ⟨?replaces, hg, hn, shorten_eq_self_of_generic hn hg⟩
  obtain ⟨n, h⟩ := exists_replaces_shorten references arrays p
  have hd := h.depth_add_le
  rw [Pointer.depth_toGeneric] at hd
  exact ⟨n, h, hd⟩

end ReferenceMap

end JsonSchema
