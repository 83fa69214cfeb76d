import JsonSchema.Proofs.Compiled.Tables

namespace JsonSchema.CompiledSchema

open Json
open Position (dataPointer?)

-- The tables of a compiled schema have the entries that its document calls for, and no others.
structure Indexed (c : CompiledSchema) : Prop where
  references (place target : Pointer) (h : (c.schema.get? place).isSome) :
    c.schemaReferences.get? place = some target ↔
      c.schema.targetAt? place = some target ∧ (c.schema.get? target).isSome
  places (place : Pointer) (h : place ∈ c.schemaReferences.keys) :
    ∃ node, (place, node) ∈ c.schema.nodes .root
  targets (target : Pointer) :
    target ∈ c.library.keys ↔ ∃ place, c.schemaReferences.get? place = some target
  copies (target : Pointer) (j : Json) (h : c.library.get? target = some j) :
    c.schema.get? target = some j
  dataReferences (d : Pointer) :
    c.dataReferences.get? d = (c.schema.nodes .root).findSome? fun (place, _) =>
      if dataPointer? c.schema place = some d then
        (c.schemaReferences.get? place).bind (dataPointer? c.schema)
      else none
  arrays (d : Pointer) :
    c.arrays.get? d = (c.schema.nodes .root).findSome? fun (place, node) =>
      if dataPointer? c.schema place = some d then arity? node else none

variable {schema : Json} {options : Options} {compiled : CompiledSchema} {place p q d : Pointer}

theorem dataReference?_eq (schema : Json) (f : Finding) :
    dataReference? schema f = (dataPointer? schema f.place).bind fun source =>
      (dataPointer? schema f.target).map fun target => (source, target) := by
  unfold dataReference?
  cases dataPointer? schema f.place <;> cases dataPointer? schema f.target <;> rfl

theorem array?_eq (schema : Json) (place : Pointer) (j : Json) :
    array? schema place j =
      (arity? j).bind fun arity => (dataPointer? schema place).map fun p => (p, arity) := by
  unfold array?
  cases arity? j <;> cases dataPointer? schema place <;> rfl

-- The references that lead to a node.
def kept (options : Options) (schema : Json) (compiled : CompiledSchema) : List Finding :=
  (findings options schema).filter fun f => (compiled.schema.get? f.target).isSome

section

variable (hc : compile options schema = .ok compiled)

include hc

theorem references_of_compile :
    compiled.schemaReferences =
      PointerTable.ofList ((kept options schema compiled).map fun f => (f.place, f.target)) ∧
    compiled.library = PointerTable.ofList
      ((kept options schema compiled).filterMap fun f =>
        (compiled.schema.get? f.target).map fun j => (f.target, j)) := by
  obtain ⟨_, rfl⟩ := ofExpanded_of_compile hc
  exact ⟨rfl, rfl⟩

variable (hw : schema.WellFormed)

include hw

theorem mem_kept_iff (hp : (compiled.schema.get? place).isSome) (target : Pointer) :
    (place, target) ∈ (kept options schema compiled).map (fun f => (f.place, f.target)) ↔
      compiled.schema.targetAt? place = some target ∧ (compiled.schema.get? target).isSome := by
  rw [isSome_get?_compiled hw hc] at hp
  obtain ⟨j, hj⟩ := Option.isSome_iff_exists.mp hp
  simp only [targetAt?_compiled hw hc, hj, Option.bind_some, List.mem_map, kept, List.mem_filter,
    Prod.mk.injEq, Option.map_eq_some_iff]
  constructor
  case mp =>
    rintro ⟨f, ⟨hf, ht⟩, rfl, rfl⟩
    exact ⟨⟨f, finding?_of_mem_findings hw hf hj, rfl⟩, ht⟩
  case mpr =>
    rintro ⟨⟨f, hf, rfl⟩, ht⟩
    obtain ⟨rfl, _⟩ := finding?_eq_some hf
    exact ⟨f, ⟨List.mem_filterMap.mpr ⟨_, mem_nodes_of_get? hj, hf⟩, ht⟩, rfl, rfl⟩

theorem get?_schemaReferences (hp : (compiled.schema.get? place).isSome) (target : Pointer) :
    compiled.schemaReferences.get? place = some target ↔
      compiled.schema.targetAt? place = some target ∧ (compiled.schema.get? target).isSome := by
  rw [← mem_kept_iff hc hw hp, (references_of_compile hc).left, PointerTable.get?_ofList]
  constructor
  case mp => exact PointerTable.mem_of_lookup
  case mpr =>
    intro hm
    refine PointerTable.lookup_eq_some hm fun other ho => ?_
    have hm := ((mem_kept_iff hc hw hp _).mp hm).left
    have ho := ((mem_kept_iff hc hw hp _).mp ho).left
    exact Option.some.inj (ho.symm.trans hm)

theorem get?_of_mem_kept {f : Finding} (hf : f ∈ kept options schema compiled) :
    compiled.schemaReferences.get? f.place = some f.target := by
  rw [(references_of_compile hc).left, PointerTable.get?_ofList]
  refine PointerTable.lookup_eq_some (List.mem_map.mpr ⟨f, hf, rfl⟩) fun other ho => ?_
  obtain ⟨g, hg, he⟩ := List.mem_map.mp ho
  obtain ⟨hp, rfl⟩ := Prod.mk.inj he
  obtain ⟨⟨p, i⟩, hi, hgi⟩ := List.mem_filterMap.mp (List.mem_filter.mp hg).left
  obtain ⟨⟨q, j⟩, hj, hfj⟩ := List.mem_filterMap.mp (List.mem_filter.mp hf).left
  obtain rfl : g.place = p := (finding?_eq_some hgi).left
  obtain rfl : f.place = q := (finding?_eq_some hfj).left
  obtain rfl := eq_of_mem_nodes (wellFormed_expanded hw) (hp ▸ hi) hj
  rw [hp, hfj] at hgi
  rw [Option.some.inj hgi]

theorem wellFormed_compiled : compiled.schema.WellFormed := by
  have hr (findings : List Finding) {j : Json} (hj : j.WellFormed) :
      (findings.foldl (fun j f => (j.modify? f.place (setReference f.target)).getD j) j).WellFormed := by
    induction findings generalizing j with
    | nil => exact hj
    | cons f rest ih =>
      rw [List.foldl_cons]
      refine ih ?_
      cases hm : j.modify? f.place (setReference f.target) with
      | none         => exact hj
      | some changed => exact hj.modifyAlong? (fun _ => wellFormed_setReference) hm
  rw [schema_of_compile hc]
  exact hr _ (wellFormed_expanded hw)

theorem places_compiled :
    (compiled.schema.nodes .root).map (·.1) = ((expanded options schema).nodes .root).map (·.1) := by
  rw [← places_bare, bare_compiled hw hc, places_bare]

theorem findSome?_compiled {α : Type} {f g : Pointer × Json → Option α} (say : Pointer → Option α)
    (hf : ∀ n ∈ compiled.schema.nodes .root, f n = say n.1)
    (hg : ∀ n ∈ (expanded options schema).nodes .root, g n = say n.1) :
    (compiled.schema.nodes .root).findSome? f =
      ((expanded options schema).nodes .root).findSome? g := by
  have hsay {nodes : List (Pointer × Json)} {f : Pointer × Json → Option α}
      (h : ∀ n ∈ nodes, f n = say n.1) : nodes.findSome? f = (nodes.map (·.1)).findSome? say := by
    induction nodes with
    | nil => rfl
    | cons n rest ih =>
      have ⟨hn, hrest⟩ := List.forall_mem_cons.mp h
      rw [List.map_cons, List.findSome?_cons, List.findSome?_cons, hn, ih hrest]
  rw [hsay hf, hsay hg, places_compiled hc hw]

theorem get?_dataReferences (d : Pointer) :
    compiled.dataReferences.get? d = (compiled.schema.nodes .root).findSome? fun (place, _) =>
      if dataPointer? compiled.schema place = some d then
        (compiled.schemaReferences.get? place).bind (dataPointer? compiled.schema)
      else none := by
  rw [(tables_of_compile hc).left, PointerTable.get?_ofList, List.filterMap_filter, findings,
    List.filterMap_filterMap, PointerTable.lookup_filterMap]
  refine (findSome?_compiled hc hw (fun place =>
    if dataPointer? compiled.schema place = some d then
      (compiled.schemaReferences.get? place).bind (dataPointer? compiled.schema)
    else none) (fun _ _ => rfl) fun (place, j) hm => ?_).symm
  dsimp only
  split
  case isFalse hd =>
    cases hf : finding? (recursive schema) place j with
    | none   => rfl
    | some f =>
      obtain ⟨rfl, _⟩ := finding?_eq_some hf
      rw [Option.bind_some, dataReference?_eq]
      split
      case isFalse => rfl
      case isTrue =>
        cases hs : dataPointer? compiled.schema f.place with
        | none   => rfl
        | some e =>
          have he : e ≠ d := fun he => hd (he ▸ hs)
          cases dataPointer? compiled.schema f.target <;> simp [he]
  case isTrue hd =>
    have hp := Position.isSome_get?_of_dataPointer? hd
    obtain ⟨found, hj⟩ := Option.isSome_iff_exists.mp ((isSome_get?_compiled hw hc _).symm.trans hp)
    obtain rfl := get?_of_mem_nodes (wellFormed_expanded hw) hm hj
    have hr := get?_schemaReferences hc hw hp
    simp only [targetAt?_compiled hw hc, hj, Option.bind_some] at hr
    cases hf : finding? (recursive schema) place found with
    | none =>
      have hn : compiled.schemaReferences.get? place = none := by
        refine Option.eq_none_iff_forall_ne_some.mpr fun target ht => ?_
        simpa [hf] using (hr target).mp ht
      rw [hn]
      rfl
    | some f =>
      obtain ⟨rfl, _⟩ := finding?_eq_some hf
      rw [Option.bind_some, dataReference?_eq, hd]
      split
      case isTrue ht =>
        rw [(hr f.target).mpr ⟨by rw [hf, Option.map_some], ht⟩]
        cases ht : dataPointer? compiled.schema f.target <;> simp [ht]
      case isFalse ht =>
        have hn : compiled.schemaReferences.get? f.place = none := by
          refine Option.eq_none_iff_forall_ne_some.mpr fun target h => ?_
          have ⟨he, hs⟩ := (hr target).mp h
          rw [hf, Option.map_some] at he
          exact ht (Option.some.inj he ▸ hs)
        rw [hn]
        rfl

theorem get?_arrays (d : Pointer) :
    compiled.arrays.get? d = (compiled.schema.nodes .root).findSome? fun (place, node) =>
      if dataPointer? compiled.schema place = some d then arity? node else none := by
  have hj {document j : Json} {place : Pointer} (hd : document.WellFormed)
      (hm : (place, j) ∈ document.nodes .root) (hp : (document.get? place).isSome) :
      arity? j = (document.get? place).bind arity? := by
    obtain ⟨other, ho⟩ := Option.isSome_iff_exists.mp hp
    rw [ho, get?_of_mem_nodes hd hm ho, Option.bind_some]
  rw [(tables_of_compile hc).right, PointerTable.get?_ofList, PointerTable.lookup_filterMap]
  refine (findSome?_compiled hc hw (fun place =>
    if dataPointer? compiled.schema place = some d then
      (compiled.schema.get? place).bind arity?
    else none) (fun (place, node) hm => ?_) fun (place, j) hm => ?_).symm
  case refine_1 =>
    dsimp only
    split
    case isFalse   => rfl
    case isTrue hp =>
      exact hj (wellFormed_compiled hc hw) hm (Position.isSome_get?_of_dataPointer? hp)
  case refine_2 =>
    dsimp only
    rw [array?_eq, ← dataPointer?_compiled hw hc]
    split
    case isFalse hp =>
      cases arity? j with
      | none   => rfl
      | some a => cases hd : dataPointer? compiled.schema place <;> simp_all
    case isTrue hp =>
      have hg := Position.isSome_get?_of_dataPointer? hp
      rw [isSome_get?_compiled hw hc] at hg
      rw [arity?_compiled hw hc, ← hj (wellFormed_expanded hw) hm hg, hp]
      cases arity? j <;> simp

end

-- The tables are collected from the expanded document, before references are redirected. That changes none of
-- its places, and neither the positions in the data nor the arrays that are described there.
theorem indexed_compile (hw : schema.WellFormed) (hc : compile options schema = .ok compiled) :
    compiled.Indexed := by
  have ⟨hr, hl⟩ := references_of_compile hc
  constructor
  case references     => exact fun place target hp => get?_schemaReferences hc hw hp target
  case dataReferences => exact get?_dataReferences hc hw
  case arrays         => exact get?_arrays hc hw
  case places =>
    intro place hp
    rw [hr, PointerTable.mem_keys_ofList, List.map_map] at hp
    obtain ⟨f, hf, rfl⟩ := List.mem_map.mp hp
    obtain ⟨⟨place, j⟩, hm, hf⟩ := List.mem_filterMap.mp (List.mem_filter.mp hf).left
    obtain ⟨hp, _⟩ := finding?_eq_some hf
    have hm : f.place ∈ (compiled.schema.nodes .root).map (·.1) := by
      rw [places_compiled hc hw]
      exact List.mem_map.mpr ⟨_, hm, hp.symm⟩
    obtain ⟨⟨_, node⟩, hn, rfl⟩ := List.mem_map.mp hm
    exact ⟨node, hn⟩
  case targets =>
    intro target
    rw [hl, PointerTable.mem_keys_ofList]
    constructor
    case mp =>
      intro hm
      obtain ⟨⟨_, j⟩, hj, rfl⟩ := List.mem_map.mp hm
      obtain ⟨f, hf, he⟩ := List.mem_filterMap.mp hj
      obtain ⟨_, _, he⟩ := Option.map_eq_some_iff.mp he
      cases he
      exact ⟨f.place, get?_of_mem_kept hc hw hf⟩
    case mpr =>
      rintro ⟨place, ht⟩
      rw [hr, PointerTable.get?_ofList] at ht
      obtain ⟨f, hf, he⟩ := List.mem_map.mp (PointerTable.mem_of_lookup ht)
      cases he
      obtain ⟨j, hj⟩ := Option.isSome_iff_exists.mp (List.mem_filter.mp hf).right
      exact List.mem_map.mpr ⟨(f.target, j), List.mem_filterMap.mpr ⟨f, hf, by rw [hj]; rfl⟩, rfl⟩
  case copies =>
    intro target j h
    rw [hl] at h
    obtain ⟨f, _, hf⟩ := List.mem_filterMap.mp (PointerTable.mem_ofList (PointerTable.mem_of_get? h))
    obtain ⟨found, hg, he⟩ := Option.map_eq_some_iff.mp hf
    cases he
    exact hg

-- The root describes the same array as its alternative, with another arity, and comes first.
def forest : Json :=
  .object [
    ("anyOf", .array [.object [("items", .array [.bool true]), ("type", .string "array")]]),
    ("items", .object [("properties", .object [("children", .object [("$ref", .string "#")])])]),
    ("type", .string "array")]

theorem indexed_forest :
    forest.WellFormed ∧ ∃ compiled, compile {} forest = .ok compiled ∧ compiled.Indexed ∧
      compiled.dataReferences.get? ⟨["-", "children"]⟩ = some .root ∧
      compiled.arrays.get? .root = some 0 := by
  have hw : forest.WellFormed := by decide
  have hs : (compile {} forest).toOption.any (fun c =>
      c.dataReferences.get? ⟨["-", "children"]⟩ == some .root &&
        c.arrays.get? .root == some 0) = true := by
    decide +kernel
  obtain ⟨compiled, hc, hs⟩ := exists_compile_of_any hs
  simp only [Bool.and_eq_true, beq_iff_eq] at hs
  exact ⟨hw, compiled, hc, indexed_compile hw hc, hs.left, hs.right⟩

end JsonSchema.CompiledSchema
