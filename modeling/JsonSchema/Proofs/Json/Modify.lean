import JsonSchema.Proofs.Json.Lookup

namespace JsonSchema.Json

-- A node without the nodes inside it: its kind, the value of a scalar, the number of items and the
-- keys of fields.
def outline : Json → Json
  | array items   => array (items.map fun _ => null)
  | object fields => object (fields.map fun (k, _) => (k, null))
  | scalar        => scalar

theorem asString?_outline (j : Json) : j.outline.asString? = j.asString? := by
  cases j <;> rfl

theorem isSome_map_outline (j : Option Json) : (j.map outline).isSome = j.isSome := by
  cases j <;> rfl

theorem isSome_step?_outline (j : Json) (token : String) :
    (j.outline.step? token).isSome = (j.step? token).isSome := by
  cases j with
  | array items =>
    simp only [outline, step?]
    cases Pointer.index? token
    case none   => rfl
    case some i => simp only [Option.bind_some, List.getElem?_map, Option.isSome_map]
  | object fields =>
    simp only [outline, step?]
    induction fields with
    | nil => rfl
    | cons field rest ih =>
      obtain ⟨k, j⟩ := field
      simp only [List.map_cons, Fields.get?_cons]
      split
      case isTrue  => rfl
      case isFalse => exact ih
  | _ => rfl

theorem isSome_step?_of_outline_eq {i j : Json} (h : i.outline = j.outline) (token : String) :
    (i.step? token).isSome = (j.step? token).isSome := by
  rw [← isSome_step?_outline i, h, isSome_step?_outline]

variable {f : Json → Json}

theorem modifyAlong?_isSome (path : List String) (j : Json) :
    (modifyAlong? f path j).isSome = (j.follow? path).isSome := by
  induction path generalizing j with
  | nil => rfl
  | cons token rest ih =>
    cases j <;> simp only [modifyAlong?, follow?, step?, Option.bind_none, Option.isSome_none]
    case array items =>
      cases Pointer.index? token <;> simp only [Option.bind_none, Option.isSome_none]
      case some i => cases hi : items[i]? <;> simp [hi, ih]
    case object fields => cases hf : Fields.get? fields token <;> simp [ih]

theorem modifyAlong?_cons {token : String} {rest : List String} {j changed : Json}
    (h : modifyAlong? f (token :: rest) j = some changed) :
    (∃ fields child changedChild, j = object fields ∧ Fields.get? fields token = some child ∧
      modifyAlong? f rest child = some changedChild ∧
      changed = object (Fields.insert token changedChild fields)) ∨
    (∃ items i child changedChild, j = array items ∧ Pointer.index? token = some i ∧
      items[i]? = some child ∧ modifyAlong? f rest child = some changedChild ∧
      changed = array (items.set i changedChild)) := by
  cases j <;> simp only [modifyAlong?, reduceCtorEq] at h
  case array items =>
    split at h
    case h_2 => simp at h
    case h_1 i hi =>
      split at h
      case h_2 => simp at h
      case h_1 child hc =>
        obtain ⟨c, hm, rfl⟩ := Option.map_eq_some_iff.mp h
        exact .inr ⟨items, i, child, c, rfl, hi, hc, hm, rfl⟩
  case object fields =>
    split at h
    case h_2 => simp at h
    case h_1 child hc =>
      obtain ⟨c, hm, rfl⟩ := Option.map_eq_some_iff.mp h
      exact .inl ⟨fields, child, c, rfl, hc, hm, rfl⟩

theorem follow?_modifyAlong? {path below : List String} {j changed : Json}
    (h : modifyAlong? f path j = some changed) :
    changed.follow? (path ++ below) = (j.follow? path).bind fun found => (f found).follow? below := by
  induction path generalizing j changed with
  | nil => cases h; rfl
  | cons token rest ih =>
    cases modifyAlong?_cons h
    case inl h =>
      obtain ⟨fields, child, c, rfl, hc, hm, rfl⟩ := h
      simp [follow?, step?, Fields.get?_insert, hc, ih hm]
    case inr h =>
      obtain ⟨items, i, child, c, rfl, hi, hc, hm, rfl⟩ := h
      obtain ⟨hl, rfl⟩ := List.getElem?_eq_some_iff.mp hc
      simp [follow?, step?, hi, hl, ih hm]

theorem outline_follow?_modifyAlong? {path other : List String} {j changed : Json}
    (hw : j.WellFormed) (h : modifyAlong? f path j = some changed) (ho : ¬ path <+: other) :
    (changed.follow? other).map outline = (j.follow? other).map outline := by
  induction path generalizing j changed other with
  | nil => exact absurd List.nil_prefix ho
  | cons token rest ih =>
    have hp {tail} (he : other = token :: tail) : ¬ rest <+: tail := fun hr =>
      ho (he ▸ List.cons_prefix_cons.mpr ⟨rfl, hr⟩)
    cases modifyAlong?_cons h
    case inl h =>
      obtain ⟨fields, child, c, rfl, hc, hm, rfl⟩ := h
      have ih := fun {tail} (ht : ¬ rest <+: tail) => ih (hw.get? hc) hm ht
      cases other with
      | nil =>
        have hs : (Fields.get? fields token).isSome := by simp [hc]
        have hk := (wellFormed_object.mp hw).left.keys_insert c hs
        have hn := congrArg (List.map fun k => (k, null)) hk
        simpa [follow?, outline, Fields.keys, Function.comp_def] using hn
      | cons first tail =>
        simp only [follow?, step?]
        rw [Fields.get?_insert]
        by_cases hf : token = first
        case pos => subst hf; simpa [hc] using ih (hp rfl)
        case neg => simp [hf]
    case inr h =>
      obtain ⟨items, i, child, c, rfl, hi, hc, hm, rfl⟩ := h
      have hl := (List.getElem?_eq_some_iff.mp hc).choose
      have ih := fun {tail} (ht : ¬ rest <+: tail) =>
        ih (wellFormed_array.mp hw child (List.mem_of_getElem? hc)) hm ht
      cases other with
      | nil => simp [follow?, outline, List.map_const']
      | cons first tail =>
        simp only [follow?, step?]
        cases hk : Pointer.index? first
        case none => rfl
        case some k =>
          by_cases hik : i = k
          case neg => simp [List.getElem?_set_ne hik]
          case pos =>
            subst hik
            obtain rfl : first = token :=
              (Pointer.eq_ofIndex_of_index? hk).trans (Pointer.eq_ofIndex_of_index? hi).symm
            simp only [Option.bind_some, List.getElem?_set_self hl, hc]
            exact ih (hp rfl)

theorem WellFormed.modifyAlong? {path : List String} {j changed : Json} (hw : j.WellFormed)
    (hf : ∀ i, i.WellFormed → (f i).WellFormed) (h : modifyAlong? f path j = some changed) :
    changed.WellFormed := by
  induction path generalizing j changed with
  | nil => cases h; exact hf j hw
  | cons token rest ih =>
    cases modifyAlong?_cons h
    case inl h =>
      obtain ⟨fields, child, c, rfl, hc, hm, rfl⟩ := h
      exact hw.insert (ih (hw.get? hc) hm)
    case inr h =>
      obtain ⟨items, i, child, c, rfl, hi, hc, hm, rfl⟩ := h
      have hw := wellFormed_array.mp hw
      refine wellFormed_array.mpr fun j hj => ?_
      cases List.mem_or_eq_of_mem_set hj
      case inl hj => exact hw j hj
      case inr hj => exact hj ▸ ih (hw child (List.mem_of_getElem? hc)) hm

end JsonSchema.Json
