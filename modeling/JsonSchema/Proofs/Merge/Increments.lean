import JsonSchema.Proofs.Merge.Levels

namespace JsonSchema.Merge

variable {merge : List Json → Option Json} {schemas others : List Json} {merged : Json}

-- No two of the schemas disagree about what identifies them.
def Consistent (schemas : List Json) : Prop :=
  ∀ keyword ∈ identifiers, ∀ s ∈ schemas, ∀ t ∈ schemas,
    ∀ v ∈ s.field? keyword, ∀ w ∈ t.field? keyword, (v == w) = true

theorem Consistent.not_contested {objects : List Fields} {keyword : String} (hc : Consistent schemas)
    (ho : substantial schemas = objects.map .object) (hk : keyword ∈ identifiers) :
    ¬ Contested objects keyword := by
  have hm {fields : Fields} (hf : fields ∈ objects) : .object fields ∈ schemas :=
    mem_of_mem_substantial (ho ▸ List.mem_map_of_mem hf)
  rintro ⟨left, hl, right, hr, v, hv, w, hw, hn⟩
  simp [hc keyword hk _ (hm hl) _ (hm hr) v hv w hw] at hn

-- The whole state is in the fields if no keyword is left out, and there are some.
theorem mergeObjects?_resume {first : Fields} {rest : List Fields} {result : Merged}
    (hw : ∀ schema ∈ first :: rest, (Json.object schema).WellFormed) (hne : first ≠ [])
    (hi : ∀ keyword ∈ identifiers, ¬ Contested (first :: rest) keyword)
    (h : mergeObjects? merge ⟨first, []⟩ rest = some result) :
    result = ⟨result.fields, []⟩ ∧ result.fields ≠ [] := by
  have ⟨hf, _⟩ := List.forall_mem_cons.mp hw
  have hg := (gathers_singleton hf).mergeObjects? hw h
  have hd := hg.dropped_eq_nil hi
  refine ⟨by rw [← hd], fun he => ?_⟩
  obtain ⟨⟨keyword, value⟩, _, rfl⟩ := List.exists_cons_of_ne_nil hne
  have hk := (hg.isSome_iff keyword).mpr
    ⟨⟨_, List.mem_cons_self, by simp [Fields.keys]⟩, fun ⟨hk, hc⟩ => hi keyword hk hc⟩
  simp [he, Fields.get?] at hk

theorem substantial_append (schemas others : List Json) :
    substantial (schemas ++ others) = substantial schemas ++ substantial others :=
  List.filter_append ..

theorem substantial_cons {s : Json} (h : isIdentity s = false) (others : List Json) :
    substantial (s :: others) = s :: substantial others :=
  List.filter_cons_of_pos (by simp [h])

theorem mergeLevel?_congr (h : substantial schemas = substantial others) :
    mergeLevel? merge schemas = mergeLevel? merge others := by
  simp only [mergeLevel?, h]

theorem mergeLevel?_append_objects {first : Fields} {rest : List Fields} {result : Merged}
    (hw : ∀ schema ∈ first :: rest, (Json.object schema).WellFormed)
    (hr : Fields.Sorted result.fields) (hc : Consistent schemas)
    (hs : substantial schemas = (first :: rest).map .object)
    (h : mergeObjects? merge ⟨first, []⟩ rest = some result) :
    mergeLevel? merge (schemas ++ others) = mergeLevel? merge (.object result.fields :: others) := by
  have hf := (Json.wellFormed_object.mp (hw first List.mem_cons_self)).left
  have hne : first ≠ [] := by
    have hm : Json.object first ∈ substantial schemas := by simp [hs]
    simpa [isIdentity] using (List.mem_filter.mp hm).right
  obtain ⟨hd, hn⟩ := mergeObjects?_resume hw hne (fun _ => hc.not_contested hs) h
  have ha := substantial_append schemas others
  have hm := substantial_cons (s := .object result.fields) (by simpa [isIdentity] using hn) others
  cases ho : (substantial others).mapM Json.asObject? with
  | some later =>
    have hl := eq_map_of_mapM_asObject? ho
    have ha : substantial (schemas ++ others) = (first :: (rest ++ later)).map .object := by
      simp [ha, hs, hl]
    have hm : substantial (.object result.fields :: others) = (result.fields :: later).map .object := by
      simp [hm, hl]
    rw [mergeLevel?_objects ha hf, mergeLevel?_objects hm hr, mergeObjects?_append, h, Option.bind_some, ← hd]
  | none =>
    have hl : 0 < (substantial others).length :=
      List.length_pos_iff.mpr fun he => by simp [he] at ho
    have hal : 1 < (substantial (schemas ++ others)).length := by
      simp only [ha, hs, List.length_append, List.length_map, List.length_cons]
      omega
    have hml : 1 < (substantial (.object result.fields :: others)).length := by simp [hm, hl]
    rw [mergeLevel?_eq_none hal (by simp [ha, ho, List.mapM_append]), mergeLevel?_eq_none hml (by simp [hm, ho])]

theorem mergeLevel?_append (hw : ∀ s ∈ schemas, s.WellFormed) (hm : merged.WellFormed) (hc : Consistent schemas)
    (h : mergeLevel? merge schemas = some merged) :
    mergeLevel? merge (schemas ++ others) = mergeLevel? merge (merged :: others) := by
  have ha := substantial_append schemas others
  unfold mergeLevel? at h
  split at h
  case h_1 he =>
    cases h
    refine mergeLevel?_congr ?_
    rw [ha, he]
    rfl
  case h_2 he =>
    cases h
    have hs : merged ∈ substantial schemas := by simp [he]
    have hn : isIdentity merged = false := by simpa using (List.mem_filter.mp hs).right
    refine mergeLevel?_congr ?_
    rw [ha, he, substantial_cons hn, List.singleton_append]
  case h_3 hne _ =>
    simp only [Option.bind_eq_bind, Option.bind_eq_some_iff, Option.some.injEq] at h
    obtain ⟨objects, ho, result, hr, rfl⟩ := h
    have hs := eq_map_of_mapM_asObject? ho
    have hws : ∀ schema ∈ objects, (Json.object schema).WellFormed := fun schema h =>
      hw _ (mem_of_mem_substantial (mem_of_mem_mapM_asObject? ho h))
    have hne : objects ≠ [] := by
      rintro rfl
      exact hne hs
    obtain ⟨first, rest, rfl⟩ := List.exists_cons_of_ne_nil hne
    have hf := (Json.wellFormed_object.mp (hws first List.mem_cons_self)).left
    rw [mergeObjects?_cons hf] at hr
    exact mergeLevel?_append_objects hws (Json.wellFormed_object.mp hm).left hc hs hr

-- Schemas that do not disagree about what identifies them may as well be merged before others come.
theorem tryMerge?_append (hw : ∀ s ∈ schemas ++ others, s.WellFormed) (hc : Consistent schemas)
    (h : tryMerge? schemas = some merged) : tryMerge? (schemas ++ others) = tryMerge? (merged :: others) := by
  have ⟨hs, ho⟩ := List.forall_mem_append.mp hw
  have hm : merged.WellFormed := stable_wellFormed.tryMerge? "" schemas merged hs h
  rw [tryMerge?_eq hs] at h
  rw [tryMerge?_eq hw, tryMerge?_eq (List.forall_mem_cons.mpr ⟨hm, ho⟩)]
  exact mergeLevel?_append hs hm hc h

-- Two parts of one schema, the second of which is closed, and one with properties and an identifier of its own.
theorem tryMerge?_append_closed :
    let parts : List Json := [
      .object [("$id", .string "person"), ("required", .ofStrings ["name"])],
      .bool true,
      .object [("$id", .string "person"), ("additionalProperties", .bool false)]]
    let listed : Json := .object [
      ("$id", .string "listed"), ("properties", .object [("name", .object [])]), ("required", .ofStrings ["city"])]
    let person : Json := .object [
      ("$id", .string "person"), ("additionalProperties", .bool false), ("required", .ofStrings ["name"])]
    let merged : Json := .object [
      ("additionalProperties", .bool false), ("properties", .object []), ("required", .ofStrings ["name", "city"])]
    (∀ s ∈ parts ++ [listed], s.WellFormed) ∧ Consistent parts ∧ tryMerge? parts = some person ∧
      tryMerge? (parts ++ [listed]) = tryMerge? [person, listed] ∧ tryMerge? [person, listed] = some merged := by
  intro parts listed person merged
  have hw : ∀ s ∈ parts ++ [listed], s.WellFormed := by decide
  have hc : Consistent parts := by unfold Consistent; decide
  have hp : tryMerge? parts = some person := by rfl
  exact ⟨hw, hc, hp, tryMerge?_append hw hc hp, by rfl⟩

end JsonSchema.Merge
