import JsonSchema.Proofs.Merge.Steps

namespace JsonSchema.Merge

variable {merge : List Json → Option Json} {schema copy : Fields} {schemas : List Json}

-- Copies have the same values at all keys, up to the signs of zeros.
theorem get?_copy (h : Json.object schema == Json.object copy) (keyword : String) :
    (Fields.get? schema keyword).map Json.canonical = (Fields.get? copy keyword).map Json.canonical := by
  have hc := Json.canonical_eq_of_same h
  simp only [Json.canonical, Json.object.injEq] at hc
  rw [← Json.get?_canonicalFields, ← Json.get?_canonicalFields, hc]

theorem primed_eq_self {node other : Fields}
    (h : Fields.contains other "properties" = true → Fields.contains node "properties" = true) :
    primed node other = node := by
  unfold primed
  split
  case isFalse   => rfl
  case isTrue hl => simp [listNothing, h (Bool.and_eq_true_iff.mp hl).left]

theorem mergeField?_copy {earlier later : Option Json} {merged : Merged} {keyword : String}
    {current value : Json} (hc : Fields.get? merged.fields keyword = some current)
    (hs : current == value) : mergeField? merge earlier later merged keyword value = some merged := by
  simp [mergeField?, hc, hs]

theorem mergeObject?_copy (hs : (Json.object schema).WellFormed) (hc : (Json.object copy).WellFormed)
    (h : Json.object schema == Json.object copy) :
    mergeObject? merge ⟨schema, []⟩ copy = some ⟨schema, []⟩ := by
  have hp : Fields.contains schema "properties" = Fields.contains copy "properties" := by
    simpa [Fields.contains] using congrArg Option.isSome (get?_copy h "properties")
  rw [mergeObject?_eq, primed_eq_self (hp ▸ id), primed_eq_self (hp ▸ id)]
  refine stepwise_mergeFieldList?.idle fun keyword value hm => ?_
  have hv := (Json.wellFormed_object.mp hc).left.get? hm
  have he := get?_copy h keyword
  rw [hv, Option.map_some, Option.map_eq_some_iff] at he
  obtain ⟨current, hk, he⟩ := he
  exact mergeField?_copy hk ((Json.beq_iff_canonical_eq (hs.get? hk) (hc.get? hv)).mpr he)

theorem mergeObjects?_copies {copies : List Fields} (hs : (Json.object schema).WellFormed)
    (hc : ∀ copy ∈ copies, (Json.object copy).WellFormed ∧ (Json.object schema == Json.object copy) = true) :
    mergeObjects? merge ⟨schema, []⟩ copies = some ⟨schema, []⟩ := by
  induction copies with
  | nil => rfl
  | cons copy rest ih =>
    have ⟨⟨hw, h⟩, hr⟩ := List.forall_mem_cons.mp hc
    rw [mergeObjects?, mergeObject?_copy hs hw h]
    exact ih hr

theorem mergeLevel?_copies {copies : List Fields} (hs : (Json.object schema).WellFormed)
    (hc : ∀ copy ∈ copies, (Json.object copy).WellFormed ∧ (Json.object schema == Json.object copy) = true)
    (h : substantial schemas = (schema :: copies).map .object) :
    mergeLevel? merge schemas = some (.object schema) := by
  rw [mergeLevel?_objects h (Json.wellFormed_object.mp hs).left, mergeObjects?_copies hs hc, Option.map_some]

theorem substantial_eq_replicate {s : Json} (hs : isIdentity s = false)
    (h : ∀ t ∈ schemas, t = s ∨ t = .object [] ∨ t = .bool true) :
    substantial schemas = List.replicate (substantial schemas).length s := by
  refine List.eq_replicate_iff.mpr ⟨rfl, fun t ht => ?_⟩
  obtain ⟨hm, hn⟩ := List.mem_filter.mp ht
  obtain rfl | rfl | rfl := h t hm
  case inl     => rfl
  case inr.inl => simp [isIdentity] at hn
  case inr.inr => simp [isIdentity] at hn

theorem mergeAll_copies (hw : (Json.object schema).WellFormed) (hn : schema ≠ [])
    (hm : .object schema ∈ schemas)
    (h : ∀ s ∈ schemas, s = .object schema ∨ s = .object [] ∨ s = .bool true) :
    mergeAll schemas = .object schema := by
  have hi : isIdentity (.object schema) = false := by simpa [isIdentity] using hn
  have hs := substantial_eq_replicate hi h
  have hms : .object schema ∈ substantial schemas := List.mem_filter.mpr ⟨hm, by simp [hi]⟩
  obtain ⟨count, hl⟩ := Nat.exists_eq_add_one.mpr (List.length_pos_of_mem hms)
  rw [hl] at hs
  have he : substantial schemas = (schema :: List.replicate count schema).map .object := by
    rw [hs, ← List.replicate_succ, List.map_replicate]
  have hr : Json.object schema == Json.object schema := (Json.beq_iff_canonical_eq hw hw).mpr rfl
  have hc : ∀ copy ∈ List.replicate count schema,
      (Json.object copy).WellFormed ∧ (Json.object schema == Json.object copy) = true := by
    intro copy hc
    obtain rfl := List.eq_of_mem_replicate hc
    exact ⟨hw, hr⟩
  obtain ⟨levels, hb⟩ := exists_levels schemas
  rw [mergeAll, conjoin, tryMerge?, hb, mergeLevels?_succ, mergeLevel?_copies hw hc he, Option.getD_some]

-- A closed person, with members of an `allOf`, a repeated value and a keyword that no rule knows.
theorem mergeAll_copies_person :
    let person : Fields := [
      ("$id", .string "person"), ("additionalProperties", .bool false),
      ("allOf", .array [.object [("minProperties", .ofNat 1)], .object []]),
      ("enum", .array [.ofNat 1, .ofNat 1]),
      ("properties", .object [("name", .object [("type", .string "string")])]),
      ("x-order", .array [.string "name", .string "name"])]
    let schemas := [.object [], .object person, .bool true, .object person, .object person]
    (Json.object person).WellFormed ∧ person ≠ [] ∧ .object person ∈ schemas ∧
      (∀ s ∈ schemas, s = .object person ∨ s = .object [] ∨ s = .bool true) ∧
      mergeAll schemas = .object person := by
  intro person schemas
  have hw : (Json.object person).WellFormed := by decide
  have hn : person ≠ [] := by simp [person]
  have hm : .object person ∈ schemas := by simp [schemas]
  have h : ∀ s ∈ schemas, s = .object person ∨ s = .object [] ∨ s = .bool true := by simp [schemas]
  exact ⟨hw, hn, hm, h, mergeAll_copies hw hn hm h⟩

end JsonSchema.Merge
