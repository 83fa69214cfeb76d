import JsonSchema.Proofs.Position.Translation

namespace JsonSchema.Position

variable {schema node next : Json} {place d p : Pointer} {key : String} {steps tokens : List String}

-- A step of a position with the node at which it is taken and the steps that it takes in the schema.
structure Crossing where
  node  : Json
  key   : String
  steps : List String

def route? (node : Json) : List String → Option (List Crossing)
  | []          => some []
  | key :: rest =>
    match schemaStep? node key with
    | some (steps, next) => (route? next rest).map (⟨node, key, steps⟩ :: ·)
    | none               => none

namespace Crossing

def ThroughAdditional (c : Crossing) : Prop := c.steps = ["additionalProperties"]

-- The step goes to the schema of all items, or to that of all items without a slot.
def IsCollective (c : Crossing) : Prop := c.steps = ["items"] ∨ c.steps = ["additionalItems"]

def NamesAnyIndex (c : Crossing) : Prop :=
  ((c.node.field? "properties").bind (·.field? Pointer.anyIndex)).isSome

instance (c : Crossing) : Decidable c.ThroughAdditional := inferInstanceAs (Decidable (_ = _))

instance (c : Crossing) : Decidable c.IsCollective := inferInstanceAs (Decidable (_ ∨ _))

instance (c : Crossing) : Decidable c.NamesAnyIndex := inferInstanceAs (Decidable (_ = true))

def described (c : Crossing) : String := if c.IsCollective then Pointer.anyIndex else c.key

end Crossing

theorem described_pair (first second : String) : Crossing.described ⟨node, key, [first, second]⟩ = key :=
  if_neg (by simp [Crossing.IsCollective])

theorem partStep_described (h : schemaStep? node key = some (steps, next))
    (hn : ¬ Crossing.ThroughAdditional ⟨node, key, steps⟩) :
    PartStep node steps next [Crossing.described ⟨node, key, steps⟩] := by
  cases governingStep_of_schemaStep? h with
  | property hp       => exact (described_pair ..).symm ▸ .property hp
  | slot ht hs        => exact (described_pair ..).symm ▸ .slot ht hs
  | items _ hf        => exact .items hf (by simp)
  | beyond _ _ _ hf   => exact .additional hf
  | other             => exact absurd rfl hn

-- What comes back leads to the same part, as no field has its name.
theorem schemaStep?_described (h : schemaStep? node key = some (steps, next))
    (hn : ¬ Crossing.NamesAnyIndex ⟨node, key, steps⟩) :
    schemaStep? node (Crossing.described ⟨node, key, steps⟩) = some (steps, next) := by
  have hany : Pointer.index? Pointer.anyIndex = none := by decide +kernel
  have hnone : (node.field? "properties").bind (·.field? Pointer.anyIndex) = none :=
    Option.not_isSome_iff_eq_none.mp hn
  cases governingStep_of_schemaStep? h with
  | property | slot => exact (described_pair ..).symm ▸ h
  | other           => exact h
  | items _ hf      =>
    show schemaStep? node Pointer.anyIndex = _
    simp [schemaStep?, hnone, itemStep?, hf]
  | beyond _ ht _ hf =>
    show schemaStep? node Pointer.anyIndex = _
    simp [schemaStep?, hnone, itemStep?, hany, ht, hf]

theorem exists_route (h : schemaAlong? node place tokens = some p) :
    ∃ route, route? node tokens = some route ∧ p = place.append (route.flatMap (·.steps)) ∧
      tokens = route.map (·.key) := by
  induction tokens generalizing node place with
  | nil =>
    cases h
    exact ⟨[], rfl, (Pointer.append_nil _).symm, rfl⟩
  | cons key rest ih =>
    rw [schemaAlong?] at h
    split at h
    case h_2 => simp at h
    case h_1 steps next hs =>
      obtain ⟨route, hr, rfl, rfl⟩ := ih h
      refine ⟨⟨node, key, steps⟩ :: route, by simp only [route?, hs, hr, Option.map_some], ?_, rfl⟩
      rw [Pointer.append_append, List.flatMap_cons]

theorem dataAlong?_route {route : List Crossing} (h : route? node tokens = some route)
    (hn : ∀ c ∈ route, ¬ c.ThroughAdditional) :
    dataAlong? node place (route.flatMap (·.steps)) = some (place.append (route.map (·.described))) := by
  induction tokens generalizing node place route with
  | nil =>
    cases h
    exact congrArg some (Pointer.append_nil place).symm
  | cons key rest ih =>
    rw [route?] at h
    split at h
    case h_2 => simp at h
    case h_1 steps next hs =>
      obtain ⟨route, hr, rfl⟩ := Option.map_eq_some_iff.mp h
      obtain ⟨hc, hn⟩ := List.forall_mem_cons.mp hn
      rw [List.flatMap_cons, (partStep_described hs hc).dataAlong?_append, ih hr hn, List.map_cons,
        Pointer.append_append, List.singleton_append]

theorem schemaAlong?_route {route : List Crossing} (h : route? node tokens = some route)
    (hn : ∀ c ∈ route, ¬ c.NamesAnyIndex) :
    schemaAlong? node place (route.map (·.described)) = schemaAlong? node place tokens := by
  induction tokens generalizing node place route with
  | nil =>
    cases h
    rfl
  | cons key rest ih =>
    rw [route?] at h
    split at h
    case h_2 => simp at h
    case h_1 steps next hs =>
      obtain ⟨route, hr, rfl⟩ := Option.map_eq_some_iff.mp h
      obtain ⟨hc, hn⟩ := List.forall_mem_cons.mp hn
      simp only [List.map_cons, schemaAlong?, hs, schemaStep?_described hs hc, ih hr hn]

-- A position that is governed by a node: the node exists and describes the generic form of the position,
-- if no step on the way is one to `additionalProperties`.
theorem translation_roundTrip (schema : Json) (d p : Pointer) :
    (schemaPointer? schema d = some p →
      (schema.get? p).isSome ∧
      ∃ route, route? schema d.tokens = some route ∧ p.tokens = route.flatMap (·.steps) ∧
        d.tokens = route.map (·.key) ∧
        ((∀ c ∈ route, ¬ c.ThroughAdditional) →
          ∃ g, dataPointer? schema p = some g ∧ g.depth = d.depth ∧
            g.tokens = route.map (fun c => if c.IsCollective then Pointer.anyIndex else c.key) ∧
            ((∀ c ∈ route, ¬ c.NamesAnyIndex) → schemaPointer? schema g = some p))) ∧
    ((dataPointer? schema p).isSome → (schema.get? p).isSome) := by
  refine ⟨fun h => ⟨isSome_get?_of_schemaPointer? h, ?_⟩, fun h => ?_⟩
  case refine_2 =>
    obtain ⟨g, hg⟩ := Option.isSome_iff_exists.mp h
    exact isSome_get?_of_dataPointer? hg
  obtain ⟨route, hr, rfl, hk⟩ := exists_route h
  refine ⟨route, hr, rfl, hk, fun hn => ⟨⟨route.map (·.described)⟩, ?back, ?depth, rfl, fun hnames => ?_⟩⟩
  case back  => exact dataAlong?_route hr hn
  case depth => simp [Pointer.depth, hk]
  exact (schemaAlong?_route hr hnames).trans h

def rows : Json :=
  .object [("additionalItems", .object [("items", .object [])]), ("items", .array [.object []])]

def sheet : Json :=
  .object [("properties", .object [("rows", rows)])]

theorem translation_roundTrip_sheet :
    let d : Pointer := ⟨["rows", "3", "0"]⟩
    let p : Pointer := ⟨["properties", "rows", "additionalItems", "items"]⟩
    let g : Pointer := ⟨["rows", "-", "-"]⟩
    schemaPointer? sheet d = some p ∧ (sheet.get? p).isSome ∧ dataPointer? sheet p = some g ∧
      schemaPointer? sheet g = some p := by
  intro d p g
  have hd : schemaPointer? sheet d = some p := rfl
  have hroute : route? sheet d.tokens = some [⟨sheet, "rows", ["properties", "rows"]⟩,
      ⟨rows, "3", ["additionalItems"]⟩, ⟨.object [("items", .object [])], "0", ["items"]⟩] := rfl
  obtain ⟨hp, route, hr, _, _, hback⟩ := (translation_roundTrip sheet d p).left hd
  cases hroute.symm.trans hr
  obtain ⟨⟨tokens⟩, hg, _, ht, hs⟩ := hback (by decide)
  cases ht
  exact ⟨hd, hp, hg, hs (by decide)⟩

end JsonSchema.Position
