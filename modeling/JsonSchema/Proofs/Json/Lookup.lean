import Mathlib.Data.List.Nodup
import JsonSchema.Json.Lookup
import JsonSchema.Proofs.Json.Parts

namespace JsonSchema.Json

theorem follow?_append (j : Json) (front back : List String) :
    j.follow? (front ++ back) = (j.follow? front).bind (·.follow? back) := by
  induction front generalizing j with
  | nil => rfl
  | cons token rest ih =>
    simp only [List.cons_append, follow?, Option.bind_assoc]
    exact congrArg _ (funext ih)

@[simp]
theorem get?_root (j : Json) : j.get? Pointer.root = some j :=
  rfl

theorem get?_append (j : Json) (p : Pointer) (tokens : List String) :
    j.get? (p.append tokens) = (j.get? p).bind (·.follow? tokens) :=
  follow?_append j p.tokens tokens

theorem get?_child (j : Json) (p : Pointer) (token : String) :
    j.get? (p.child token) = (j.get? p).bind (·.step? token) := by
  rw [get?, Pointer.child, follow?_append]
  simp [follow?, get?]

theorem step?_array_eq_some {items : List Json} {token : String} {j : Json}
    (h : (array items).step? token = some j) : ∃ i, token = Pointer.ofIndex i ∧ items[i]? = some j := by
  obtain ⟨i, hi, hj⟩ := Option.bind_eq_some_iff.mp h
  exact ⟨i, Pointer.eq_ofIndex_of_index? hi, hj⟩

theorem mem_parts_of_step? {j part : Json} {token : String} (h : j.step? token = some part) :
    (token, part) ∈ j.parts := by
  cases j <;> simp only [step?, reduceCtorEq] at h
  case object fields => exact Fields.mem_of_get? h
  case array items =>
    obtain ⟨i, rfl, hi⟩ := step?_array_eq_some h
    exact mem_parts_array.mpr ⟨i, rfl, hi⟩

section Nodes

variable {j found other part : Json} {place p : Pointer} {entry : Pointer × Json} {token : String}

theorem self_mem_nodes (place : Pointer) (j : Json) : (place, j) ∈ j.nodes place :=
  mem_nodes_iff.mpr (.inl rfl)

theorem mem_nodes_of_part (hp : (token, part) ∈ j.parts) (h : entry ∈ part.nodes (place.child token)) :
    entry ∈ j.nodes place :=
  mem_nodes_iff.mpr (.inr ⟨token, part, hp, h⟩)

theorem mem_nodes_of_follow? {tokens : List String} (h : j.follow? tokens = some found) :
    (place.append tokens, found) ∈ j.nodes place := by
  induction tokens generalizing j place with
  | nil =>
    cases h
    rw [Pointer.append_nil]
    exact self_mem_nodes place found
  | cons token rest ih =>
    obtain ⟨part, hp, hr⟩ := Option.bind_eq_some_iff.mp h
    rw [← Pointer.child_append]
    exact mem_nodes_of_part (mem_parts_of_step? hp) (ih hr)

theorem mem_nodes_of_get? (h : j.get? p = some found) : (p, found) ∈ j.nodes Pointer.root := by
  have h : (Pointer.root.append p.tokens, found) ∈ j.nodes Pointer.root := mem_nodes_of_follow? h
  rwa [Pointer.root_append_tokens] at h

-- An item whose index is not of the size of a word is listed, although no pointer finds it.
theorem follow?_of_mem_nodes (hw : j.WellFormed) (h : (p, found) ∈ j.nodes place) :
    ∃ tokens, p = place.append tokens ∧ ∀ other, j.follow? tokens = some other → other = found := by
  refine nodes_induct (motive := fun j place => j.WellFormed → ∃ tokens, p = place.append tokens ∧
    ∀ other, j.follow? tokens = some other → other = found) h ?self ?part hw
  case self => exact fun _ => ⟨[], (Pointer.append_nil _).symm, fun _ ho => (Option.some.inj ho).symm⟩
  case part =>
    intro j place token part hp ih hw
    obtain ⟨tokens, rfl, ht⟩ := ih (hw.of_mem_parts hp)
    refine ⟨token :: tokens, Pointer.child_append .., fun other ho => ?_⟩
    obtain ⟨next, hs, ho⟩ := Option.bind_eq_some_iff.mp ho
    cases hw.eq_of_mem_parts hp (mem_parts_of_step? hs)
    exact ht other ho

theorem get?_of_mem_nodes (hw : j.WellFormed) (h : (p, found) ∈ j.nodes Pointer.root)
    (ho : j.get? p = some other) : other = found := by
  obtain ⟨tokens, rfl, ht⟩ := follow?_of_mem_nodes hw h
  exact ht other (by simpa [get?, Pointer.append, Pointer.root] using ho)

theorem child_append_ne {key : String} {tokens : List String} :
    (place.child key).append tokens ≠ place := by
  cases place
  simp [Pointer.append, Pointer.child]

theorem exists_part_of_mem_nodes {rest : List String} (h : ((place.child token).append rest, found) ∈ j.nodes place) :
    ∃ part, (token, part) ∈ j.parts ∧ ((place.child token).append rest, found) ∈ part.nodes (place.child token) := by
  cases mem_nodes_iff.mp h
  case inl h => exact absurd (Prod.mk.inj h).left child_append_ne
  case inr h =>
    obtain ⟨key, part, hp, h⟩ := h
    have ht := Pointer.append_isWithin (place.child token) rest
    cases eq_of_isWithin_child ht (isWithin_of_mem_nodes h) (Pointer.isWithin_refl _)
    exact ⟨part, hp, h⟩

theorem exists_child_of_mem_nodes {rest : List String} (h : (place.append (token :: rest), found) ∈ j.nodes place) :
    ∃ child, (place.child token, child) ∈ j.nodes place ∧
      ((place.child token).append rest, found) ∈ child.nodes (place.child token) := by
  rw [← Pointer.child_append] at h
  obtain ⟨part, hp, h⟩ := exists_part_of_mem_nodes h
  exact ⟨part, mem_nodes_of_part hp (self_mem_nodes ..), h⟩

theorem mem_nodes_of_append {inner : Json} {front back : List String} (hw : j.WellFormed)
    (h : ((place.append front).append back, found) ∈ j.nodes place) (hi : j.follow? front = some inner) :
    ((place.append front).append back, found) ∈ inner.nodes (place.append front) := by
  induction front generalizing j place with
  | nil =>
    cases hi
    rwa [Pointer.append_nil] at h ⊢
  | cons token rest ih =>
    obtain ⟨next, hs, hr⟩ := Option.bind_eq_some_iff.mp hi
    rw [← Pointer.child_append] at h ⊢
    obtain ⟨part, hp, hm⟩ := exists_part_of_mem_nodes (Pointer.append_append .. ▸ h)
    cases hw.eq_of_mem_parts hp (mem_parts_of_step? hs)
    exact ih (hw.of_mem_parts hp) (Pointer.append_append .. ▸ hm) hr

theorem nodup_nodes (hw : j.WellFormed) : ((j.nodes place).map (·.1)).Nodup := by
  refine List.pairwise_map.mpr ((pairwise_nodes hw).imp fun {a b} h he => ?_)
  rw [he, Pointer.isWithin_refl] at h
  cases h

theorem mem_nodes_trans (hf : (p, found) ∈ j.nodes place) (he : entry ∈ found.nodes p) : entry ∈ j.nodes place :=
  nodes_induct (motive := fun j place => entry ∈ j.nodes place) hf he mem_nodes_of_part

theorem mem_nodes_of_item {item : Json} {items : List Json} {i : Nat} (h : (p, array items) ∈ j.nodes place)
    (hi : items[i]? = some item) : (p.child (Pointer.ofIndex i), item) ∈ j.nodes place :=
  mem_nodes_trans h (mem_nodes_of_part (mem_parts_array.mpr ⟨i, rfl, hi⟩) (self_mem_nodes ..))

theorem mem_nodes_of_field {value : Json} {fields : Fields} {key : String} (h : (p, object fields) ∈ j.nodes place)
    (hv : (key, value) ∈ fields) : (p.child key, value) ∈ j.nodes place :=
  mem_nodes_trans h (mem_nodes_of_part hv (self_mem_nodes ..))

theorem WellFormed.of_mem_nodes (hw : j.WellFormed) (hf : (p, found) ∈ j.nodes place) : found.WellFormed :=
  nodes_induct (motive := fun j _ => j.WellFormed → found.WellFormed) hf id
    (fun hp ih hw => ih (hw.of_mem_parts hp)) hw

theorem eq_of_mem_nodes (hw : j.WellFormed) (hf : (p, found) ∈ j.nodes place) (ho : (p, other) ∈ j.nodes place) :
    found = other :=
  (Prod.mk.inj (List.inj_on_of_nodup_map (nodup_nodes hw) hf ho rfl)).right

end Nodes

end JsonSchema.Json
