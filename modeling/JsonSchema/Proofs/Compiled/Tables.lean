import JsonSchema.Proofs.Compiled.Resolution
import JsonSchema.Proofs.Position.Bare

namespace JsonSchema.CompiledSchema

open Json
open Position (dataAlong?_bare dataPointer?)

variable {schema j : Json} {options : Options} {compiled : CompiledSchema} {place p q d e : Pointer}
  {tokens : List String}

-- Which text a reference has says nothing about positions and arrays.
theorem bareAt_modifyAlong? {j changed : Json} {path : List String} {target : Pointer} {text : String}
    (hw : j.WellFormed) (hr : (j.follow? path).bind Json.reference? = some text)
    (h : modifyAlong? (setReference target) path j = some changed) (key : String) :
    bareAt key changed = bareAt key j := by
  induction path generalizing j changed key with
  | nil =>
    cases h
    obtain ⟨fields, rfl, hf⟩ := Json.object_of_reference? hr
    rw [setReference, bareAt_object, bareAt_object]
    exact congrArg object (bareFields_insert (wellFormed_object.mp hw).left hf rfl)
  | cons token rest ih =>
    cases modifyAlong?_cons h
    case inl h =>
      obtain ⟨fields, child, c, rfl, hc, hm, rfl⟩ := h
      simp only [follow?, step?, hc, Option.bind_some] at hr
      rw [bareAt_object, bareAt_object]
      exact congrArg object
        (bareFields_insert (wellFormed_object.mp hw).left hc (ih (hw.get? hc) hr hm token))
    case inr h =>
      obtain ⟨items, i, child, c, rfl, hi, hc, hm, rfl⟩ := h
      simp only [follow?, step?, hi, hc, Option.bind_some] at hr
      have ih := ih (wellFormed_array.mp hw child (List.mem_of_getElem? hc)) hr hm ""
      rw [bareAt_of_ne (by decide), bareAt_of_ne (by decide)] at ih
      obtain ⟨hl, rfl⟩ := List.getElem?_eq_some_iff.mp hc
      rw [bareAt_array, bareAt_array, bareItems_eq_map, bareItems_eq_map, List.map_set, ih,
        ← List.map_set, List.set_getElem_self]

theorem bare_redirect {findings : List Finding} {j : Json} (hw : j.WellFormed)
    (hr : ∀ f ∈ findings, (j.get? f.place).isSome → (referenceAt? j f.place).isSome) :
    (findings.foldl (fun j f => (j.modify? f.place (setReference f.target)).getD j) j).bare =
      j.bare := by
  induction findings generalizing j with
  | nil => rfl
  | cons f rest ih =>
    have ⟨hf, hrest⟩ := List.forall_mem_cons.mp hr
    rw [List.foldl_cons]
    cases hc : j.modify? f.place (setReference f.target) with
    | none         => exact ih hw hrest
    | some changed =>
      have hm : (j.modify? f.place (setReference f.target)).isSome = (j.get? f.place).isSome :=
        modifyAlong?_isSome ..
      obtain ⟨text, ht⟩ := Option.isSome_iff_exists.mp (hf (by simp [← hm, hc]))
      have hb := bareAt_modifyAlong? hw ht hc ""
      rw [bareAt_of_ne (by decide), bareAt_of_ne (by decide)] at hb
      rw [Option.getD_some, ← hb]
      refine ih (hw.modifyAlong? (fun _ => wellFormed_setReference) hc) fun g hg h => ?_
      rw [isSome_get?_modify? hw ht hc] at h
      exact isSome_referenceAt?_modify? hw ht hc (hrest g hg h)

theorem bare_compiled (hw : schema.WellFormed) (h : compile options schema = .ok compiled) :
    compiled.schema.bare = (expanded options schema).bare := by
  rw [schema_of_compile h]
  exact bare_redirect (wellFormed_expanded hw) fun _ => isSome_referenceAt?_of_redirected hw

theorem describesArray_bare (type : Option Json) :
    Expansion.describesArray (type.map bare) = Expansion.describesArray type := by
  have hsame (j : Json) : (j.bare == string "array") = (j == string "array") := by
    cases j <;> rfl
  cases type with
  | none      => rfl
  | some type =>
    cases type
    case array names =>
      simp only [Option.map_some, bare, Expansion.describesArray, bareItems_eq_map, List.any_map]
      exact congrArg names.any (funext hsame)
    all_goals rfl

theorem arity?_bare (j : Json) : arity? j.bare = arity? j := by
  simp only [arity?, field?_bare_of_ne j (show "type" ≠ "$ref" by decide),
    field?_bare_of_ne j (show "items" ≠ "$ref" by decide),
    field?_bare_of_ne j (show "additionalItems" ≠ "$ref" by decide), describesArray_bare,
    Option.isSome_map]
  congr 1
  cases j.field? "items" with
  | none       => rfl
  | some items => cases items <;> simp [bare, bareItems_eq_map]

theorem arity?_follow?_bare (j : Json) (tokens : List String) :
    (j.bare.follow? tokens).bind arity? = (j.follow? tokens).bind arity? := by
  induction tokens generalizing j with
  | nil => exact arity?_bare j
  | cons token rest ih =>
    simp only [follow?, step?_bare]
    cases j.step? token with
    | none       => rfl
    | some child =>
      cases bareAt_cases token child
      case inl hb => simpa [hb] using ih child
      case inr hb =>
        obtain ⟨text, rfl, hb⟩ := hb
        simp only [Option.map_some, Option.bind_some, hb]
        cases rest <;> rfl

section Tables

variable (hw : schema.WellFormed) (hc : compile options schema = .ok compiled)

include hw hc

theorem dataPointer?_compiled (p : Pointer) :
    dataPointer? compiled.schema p = dataPointer? (expanded options schema) p := by
  rw [dataPointer?, dataPointer?, ← dataAlong?_bare, bare_compiled hw hc, dataAlong?_bare]

theorem arity?_compiled (p : Pointer) :
    (compiled.schema.get? p).bind arity? = ((expanded options schema).get? p).bind arity? := by
  rw [Json.get?, Json.get?, ← arity?_follow?_bare, bare_compiled hw hc, arity?_follow?_bare]

theorem targetAt?_compiled (place : Pointer) :
    compiled.schema.targetAt? place = ((expanded options schema).get? place).bind fun j =>
      (finding? (recursive schema) place j).map (·.target) := by
  have hjoin (t : Option String) : t.bind Pointer.parse? = (t.map Pointer.parse?).bind id := by
    cases t <;> rfl
  rw [targetAt?_eq, hjoin, parse?_compiled hw hc place, referenceAt?]
  cases (expanded options schema).get? place with
  | none   => rfl
  | some j =>
    simp only [Option.bind_some, finding?]
    cases j.reference? with
    | none      => rfl
    | some text =>
      simp only [Option.map_some, Option.bind_some, id_eq, Option.map_map]
      congr 1
      funext target
      simp only [Function.comp_apply, destination]
      repeat' split
      all_goals rfl

omit hw in
theorem tables_of_compile :
    compiled.dataReferences = PointerTable.ofList
      (((findings options schema).filter fun f => (compiled.schema.get? f.target).isSome).filterMap
        (dataReference? compiled.schema)) ∧
    compiled.arrays = PointerTable.ofList
      (((expanded options schema).nodes .root).filterMap fun (place, j) =>
        array? (expanded options schema) place j) := by
  obtain ⟨_, rfl⟩ := ofExpanded_of_compile hc
  exact ⟨rfl, rfl⟩

theorem exists_of_mem_dataReferences (h : (d, e) ∈ compiled.dataReferences.entries) :
    ∃ p q, compiled.schema.targetAt? p = some q ∧
      dataPointer? compiled.schema p = some d ∧ dataPointer? compiled.schema q = some e := by
  rw [(tables_of_compile hc).left] at h
  obtain ⟨f, hf, hd⟩ := List.mem_filterMap.mp (PointerTable.mem_ofList h)
  obtain ⟨hf, _⟩ := List.mem_filter.mp hf
  unfold dataReference? at hd
  split at hd
  case h_2 => simp at hd
  case h_1 hp hq =>
    cases hd
    have hg := Position.isSome_get?_of_dataPointer? (dataPointer?_compiled hw hc _ ▸ hp)
    obtain ⟨j, hj⟩ := Option.isSome_iff_exists.mp hg
    refine ⟨f.place, f.target, ?_, hp, hq⟩
    rw [targetAt?_compiled hw hc, hj, Option.bind_some, finding?_of_mem_findings hw hf hj,
      Option.map_some]

theorem exists_mem_dataReferences (ht : compiled.schema.targetAt? p = some q)
    (hq : (compiled.schema.get? q).isSome) (hd : dataPointer? compiled.schema p = some d)
    (he : dataPointer? compiled.schema q = some e) :
    ∃ target, (d, target) ∈ compiled.dataReferences.entries := by
  rw [targetAt?_compiled hw hc] at ht
  obtain ⟨j, hj, ht⟩ := Option.bind_eq_some_iff.mp ht
  obtain ⟨f, hf, rfl⟩ := Option.map_eq_some_iff.mp ht
  obtain ⟨rfl, _⟩ := finding?_eq_some hf
  have hm : f ∈ findings options schema := List.mem_filterMap.mpr ⟨_, mem_nodes_of_get? hj, hf⟩
  have hentry : dataReference? compiled.schema f = some (d, e) := by
    simp only [dataReference?, hd, he]
  have hk : d ∈ compiled.dataReferences.keys := by
    rw [(tables_of_compile hc).left]
    exact PointerTable.mem_keys_of_mem
      (List.mem_filterMap.mpr ⟨f, List.mem_filter.mpr ⟨hm, hq⟩, hentry⟩)
  obtain ⟨⟨_, target⟩, hm, rfl⟩ := List.mem_map.mp hk
  exact ⟨target, hm⟩

theorem exists_of_get?_arrays {arity : Nat} (h : compiled.arrays.get? d = some arity) :
    ∃ p node, compiled.schema.get? p = some node ∧ arity? node = some arity ∧
      dataPointer? compiled.schema p = some d := by
  have hm := PointerTable.mem_of_get? h
  rw [(tables_of_compile hc).right] at hm
  obtain ⟨⟨p, j⟩, hj, ha⟩ := List.mem_filterMap.mp (PointerTable.mem_ofList hm)
  have ha : array? (expanded options schema) p j = some (d, arity) := ha
  unfold array? at ha
  split at ha
  case h_2 => simp at ha
  case h_1 ha hd =>
    cases ha
    obtain ⟨other, ho⟩ := Option.isSome_iff_exists.mp (Position.isSome_get?_of_dataPointer? hd)
    obtain rfl := get?_of_mem_nodes (wellFormed_expanded hw) hj ho
    have hnode := arity?_compiled hw hc p
    rw [ho, Option.bind_some, ha] at hnode
    obtain ⟨node, hn, hnode⟩ := Option.bind_eq_some_iff.mp hnode
    exact ⟨p, node, hn, hnode, (dataPointer?_compiled hw hc p).trans hd⟩

theorem isSome_get?_arrays {node : Json} (hn : compiled.schema.get? p = some node)
    (ha : (arity? node).isSome) (hd : dataPointer? compiled.schema p = some d) :
    (compiled.arrays.get? d).isSome := by
  obtain ⟨arity, ha⟩ := Option.isSome_iff_exists.mp ha
  have hj := arity?_compiled hw hc p
  rw [hn, Option.bind_some, ha, eq_comm] at hj
  obtain ⟨j, hj, hja⟩ := Option.bind_eq_some_iff.mp hj
  rw [dataPointer?_compiled hw hc] at hd
  have hentry : array? (expanded options schema) p j = some (d, arity) := by
    simp only [array?, hja, hd]
  rw [PointerTable.isSome_get?, (tables_of_compile hc).right]
  exact PointerTable.mem_keys_of_mem
    (List.mem_filterMap.mpr ⟨(p, j), mem_nodes_of_get? hj, hentry⟩)

end Tables

end JsonSchema.CompiledSchema
