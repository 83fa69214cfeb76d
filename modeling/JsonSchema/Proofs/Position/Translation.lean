import JsonSchema.Proofs.Position.Walk
import JsonSchema.Proofs.Reference.Shortening

namespace JsonSchema.Position

variable {schema node child found : Json} {place p q d : Pointer} {key : String}
  {steps more tokens front back rest : List String}

-- Steps of a schema lead from a node to a part of it; the part describes the position which further steps
-- lead to from the position of the node.
inductive PartStep (node : Json) : (steps : List String) → Json → (further : List String) → Prop
  | property {key part} :
    (node.field? "properties").bind (·.field? key) = some part →
      PartStep node ["properties", key] part [key]
  | slot {tuple index part} :
    node.field? "items" = some (.array tuple) → member? tuple index = some part →
      PartStep node ["items", index] part [index]
  | items {part} :
    node.field? "items" = some part → (∀ tuple, part ≠ .array tuple) →
      PartStep node ["items"] part [Pointer.anyIndex]
  | additional {part} :
    node.field? "additionalItems" = some part →
      PartStep node ["additionalItems"] part [Pointer.anyIndex]
  | branch {keyword index branches part} :
    sharesPosition keyword = true → (node.field? keyword).bind Json.asArray? = some branches →
      member? branches index = some part → PartStep node [keyword, index] part []

theorem ne_of_sharesPosition {keyword : String} (h : sharesPosition keyword = true) :
    keyword ≠ "properties" ∧ keyword ≠ "items" ∧ keyword ≠ "additionalItems" := by
  simp only [sharesPosition, Bool.or_eq_true, decide_eq_true_eq] at h
  rcases h with (rfl | rfl) | rfl <;> simp

theorem PartStep.dataAlong?_append (h : PartStep node steps child more) (place : Pointer)
    (rest : List String) :
    dataAlong? node place (steps ++ rest) = dataAlong? child (place.append more) rest := by
  cases h with
  | property h       => simp [dataAlong?, h, Pointer.append, Pointer.child]
  | slot hi hm       => simp [dataAlong?, hi, hm, Pointer.append, Pointer.child]
  | additional h     =>
    rw [List.singleton_append, dataAlong?.eq_def]
    simp [h, Pointer.append, Pointer.child]
  | branch hs hf hm  =>
    obtain ⟨hp, hi, ha⟩ := ne_of_sharesPosition hs
    simp [dataAlong?, hp, hi, ha, hs, hf, hm]
  | items hi hn      =>
    rw [List.singleton_append, dataAlong?.eq_def]
    cases child
    case array tuple => exact absurd rfl (hn tuple)
    all_goals simp [hi, Pointer.append, Pointer.child]

theorem PartStep.follow? (h : PartStep node steps child more) : node.follow? steps = some child := by
  cases h with
  | property h =>
    obtain ⟨properties, hf, hp⟩ := Option.bind_eq_some_iff.mp h
    simp [Json.follow?, field?_eq_step? hf, field?_eq_step? hp]
  | slot hi hm =>
    have hk : (Json.array _).step? _ = some child := hm
    simp [Json.follow?, field?_eq_step? hi, hk]
  | items hi _   => simp [Json.follow?, field?_eq_step? hi]
  | additional h => simp [Json.follow?, field?_eq_step? h]
  | branch _ hf hm =>
    obtain ⟨value, hv, ha⟩ := Option.bind_eq_some_iff.mp hf
    cases value <;> cases ha
    have hk : (Json.array _).step? _ = some child := hm
    simp [Json.follow?, field?_eq_step? hv, hk]

theorem dataAlong?_induct {motive : Json → Pointer → List String → Pointer → Prop}
    (stop : ∀ node place, motive node place [] place)
    (step : ∀ {node child : Json} {steps more rest : List String} {place p : Pointer},
      PartStep node steps child more → motive child (place.append more) rest p →
        motive node place (steps ++ rest) p)
    (h : dataAlong? node place tokens = some p) : motive node place tokens p := by
  have step {node child : Json} {steps more rest tokens : List String} {place q : Pointer}
      (hs : PartStep node steps child more) (hq : q = place.append more) (ht : steps ++ rest = tokens)
      (h : motive child q rest p) : motive node place tokens p := by
    subst hq ht
    exact step hs h
  fun_induction dataAlong? node place tokens with
  | case1 => cases h; exact stop _ _
  | case3 _ _ _ _ _ hp ih        => exact step (.property hp) rfl rfl (ih h)
  | case7 _ _ _ _ _ hi _ hm _ ih => exact step (.slot hi hm) rfl rfl (ih h)
  | case9 node place items rest hn hc hi _ ih =>
    refine step (.items hi fun tuple ht => ?_) rfl rfl (ih h)
    cases rest with
    | nil  => exact hn tuple rfl ht
    | cons => exact hc tuple _ _ rfl ht
  | case10 _ _ _ _ ha _ _ ih => exact step (.additional ha) rfl rfl (ih h)
  | case13 _ _ _ _ _ _ hs _ _ _ hb ih =>
    obtain ⟨branches, hf, hm⟩ := Option.bind_eq_some_iff.mp hb
    exact step (.branch hs hf hm) (Pointer.append_nil _).symm rfl (ih h)
  | _ => simp at h

theorem isSome_follow?_of_dataAlong? (h : dataAlong? node place tokens = some p) :
    (node.follow? tokens).isSome := by
  refine dataAlong?_induct (motive := fun node _ tokens _ => (node.follow? tokens).isSome)
    (fun _ _ => rfl) ?step h
  case step =>
    intro _ _ _ _ _ _ _ hs ih
    rwa [Json.follow?_append, hs.follow?, Option.bind_some]

theorem dataAlong?_isWithin (h : dataAlong? node place tokens = some p) :
    p.isWithin place = true := by
  refine dataAlong?_induct (motive := fun _ place _ p => p.isWithin place = true)
    (fun _ _ => Pointer.isWithin_refl _) ?step h
  case step =>
    intro _ _ _ _ _ _ _ _ ih
    exact Pointer.isWithin_trans ih (Pointer.append_isWithin _ _)

theorem dataAlong?_append (h : dataAlong? node place front = some p) (back : List String) :
    dataAlong? node place (front ++ back) =
      (node.follow? front).bind fun found => dataAlong? found p back := by
  refine dataAlong?_induct (motive := fun node place front p =>
    dataAlong? node place (front ++ back) =
      (node.follow? front).bind fun found => dataAlong? found p back) (fun _ _ => rfl) ?step h
  case step =>
    intro _ _ _ _ _ _ _ hs ih
    rw [List.append_assoc, hs.dataAlong?_append, ih, Json.follow?_append, hs.follow?,
      Option.bind_some]

theorem isSome_get?_of_dataPointer? (h : dataPointer? schema p = some d) :
    (schema.get? p).isSome :=
  isSome_follow?_of_dataAlong? h

theorem dataPointer?_append (hd : dataPointer? schema p = some d) (hn : schema.get? p = some node)
    (tokens : List String) :
    dataPointer? schema (p.append tokens) = dataAlong? node d tokens := by
  rw [dataPointer?, Pointer.append, dataAlong?_append hd]
  simp only [Json.get?] at hn
  rw [hn, Option.bind_some]

def BeyondSlots (node : Json) (key : String) : Prop :=
  ∃ index, Pointer.index? key = some index ∧ (node.field? "items").isSome ∧
    ∀ tuple, node.field? "items" = some (.array tuple) → tuple.length ≤ index

theorem partStep_of_schemaStep? (h : schemaStep? node key = some (steps, found)) :
    steps = ["additionalProperties"] ∨ PartStep node steps found [key] ∨
      PartStep node steps found [Pointer.anyIndex] ∧ BeyondSlots node key := by
  have hitem {further : Json} (hk : IsItem key) (hp : PartStep node steps further [Pointer.anyIndex])
      (hb : ∀ index, Pointer.index? key = some index → BeyondSlots node key) :
      PartStep node steps further [key] ∨
        PartStep node steps further [Pointer.anyIndex] ∧ BeyondSlots node key := by
    cases hk
    case inl hk =>
      obtain ⟨index, hi⟩ := Option.isSome_iff_exists.mp hk
      exact .inr ⟨hp, hb index hi⟩
    case inr hk => exact .inl (hk ▸ hp)
  cases governingStep_of_schemaStep? h with
  | property hp => exact .inr (.inl (.property hp))
  | slot ht hs  => exact .inr (.inl (.slot ht hs))
  | other       => exact .inl rfl
  | items hk hf =>
    exact .inr (hitem hk (.items hf (by simp)) fun index hi => ⟨index, hi, by simp [hf], by simp [hf]⟩)
  | beyond hk ht hs hf =>
    refine .inr (hitem hk (.additional hf) fun index hi => ⟨index, hi, by simp [ht], fun other ho => ?_⟩)
    cases ht.symm.trans ho
    simpa [member?, hi] using hs

-- A generic position is translated back, if everything on the way describes a position and all indices
-- without a slot are made generic. The induction goes along the position.
theorem dataPointer?_of_schemaPointer? {arrays : ArrayMap} (hg : d.Generic arrays)
    (ha : ∀ e q node key, schemaPointer? schema e = some q → schema.get? q = some node →
      dataPointer? schema q = some e → BeyondSlots node key →
        Pointer.genericStep arrays e key = Pointer.anyIndex)
    (hp : schemaPointer? schema d = some p) (hs : (dataPointer? schema (p.append back)).isSome) :
    dataPointer? schema p = some d := by
  induction d using Pointer.induct_child generalizing p back with
  | root =>
    cases hp
    rfl
  | child e key ih =>
    obtain ⟨he, hkey⟩ := hg.of_child
    rw [schemaPointer?_child] at hp
    obtain ⟨q, hq, hp⟩ := Option.bind_eq_some_iff.mp hp
    obtain ⟨node, hn, hp⟩ := Option.bind_eq_some_iff.mp hp
    obtain ⟨⟨steps, next⟩, hstep, rfl⟩ := Option.map_eq_some_iff.mp hp
    rw [Pointer.append_append] at hs
    have hd := ih he hq hs
    rw [dataPointer?_append hd hn] at hs
    have hpart {further : String} (h : PartStep node steps next [further]) :
        dataPointer? schema (q.append steps) = some (e.child further) := by
      rw [dataPointer?_append hd hn, ← List.append_nil steps, h.dataAlong?_append]
      rfl
    rcases partStep_of_schemaStep? hstep with rfl | h | ⟨h, hb⟩
    · rw [List.singleton_append, dataAlong?.eq_def] at hs
      simp [sharesPosition] at hs
    · exact hpart h
    · rw [hpart h, ← ha e q node key hq hn hd hb, hkey]

end JsonSchema.Position
