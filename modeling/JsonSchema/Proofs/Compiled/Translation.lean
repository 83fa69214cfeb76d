import JsonSchema.Proofs.Compiled.Lookup
import JsonSchema.Proofs.Compiled.Tables

namespace JsonSchema

open CompiledSchema (arity?)
open Position

namespace Json

variable {schema node found : Json} {p q d e : Pointer} {key : String} {steps : List String}

def RefersBack (schema : Json) : Prop :=
  ∀ p found, schema.get? p = some found → found.reference?.isSome →
    ∃ q, schema.targetAt? p = some q ∧ p.isInside q = true ∧ (schema.get? q).isSome

-- No keyword for fields or items stands beside a reference.
def LeafReferences (schema : Json) : Prop :=
  ∀ p node, schema.get? p = some node → node.reference?.isSome →
    ∀ keyword ∈ ["properties", "items", "additionalItems", "additionalProperties"],
      node.field? keyword = none

-- References are leaves and lead back. References, their targets and arrays govern the positions that they
-- describe. Items belong to arrays, and no property of an array is named like an item.
structure Translatable (schema : Json) : Prop where
  leaves     : schema.LeafReferences
  refersBack : schema.RefersBack
  references : ∀ p q d e, schema.targetAt? p = some q → dataPointer? schema p = some d →
    dataPointer? schema q = some e → schemaPointer? schema d = some p ∧ schemaPointer? schema e = some q
  items      : ∀ d p node, schemaPointer? schema d = some p → schema.get? p = some node →
    (node.field? "items").isSome → (arity? node).isSome
  arrays     : ∀ p d node, schema.get? p = some node → (arity? node).isSome →
    dataPointer? schema p = some d → schemaPointer? schema d = some p ∧
      ∀ key, (Pointer.index? key).isSome ∨ key = Pointer.anyIndex →
        (node.field? "properties").bind (·.field? key) = none

-- Each reference that governs a position describes one, and so does its target.
def Described (schema : Json) : Prop :=
  ∀ d p q, schemaPointer? schema d = some p → schema.targetAt? p = some q →
    (dataPointer? schema p).isSome ∧ (dataPointer? schema q).isSome

namespace LeafReferences

variable (hl : schema.LeafReferences)

include hl

theorem reference?_of_schemaStep? (hn : schema.get? p = some node)
    (hs : schemaStep? node key = some (steps, found)) : node.reference? = none := by
  refine Option.not_isSome_iff_eq_none.mp fun hr => ?_
  have hnone := hl p node hn hr
  simp only [List.forall_mem_cons] at hnone
  simp [schemaStep?, itemStep?, hnone] at hs

theorem reference?_of_arity? (hn : schema.get? p = some node) (ha : (arity? node).isSome) :
    node.reference? = none := by
  refine Option.not_isSome_iff_eq_none.mp fun hr => ?_
  have hnone := hl p node hn hr
  simp only [List.forall_mem_cons] at hnone
  simp [arity?, hnone] at ha

theorem comes (h : schemaPointer? schema d = some p) : schema.Comes .root d.tokens p := by
  induction d using Pointer.induct_child generalizing p with
  | root => exact (Option.some.inj h).symm
  | child d key ih =>
    rw [schemaPointer?_child] at h
    obtain ⟨q, hq, h⟩ := Option.bind_eq_some_iff.mp h
    obtain ⟨node, hn, h⟩ := Option.bind_eq_some_iff.mp h
    obtain ⟨⟨steps, next⟩, hs, rfl⟩ := Option.map_eq_some_iff.mp h
    have hr := hl.reference?_of_schemaStep? hn hs
    exact comes_child.mpr ⟨q, q, node, steps, next, ih hq, .here hn hr, hn, hs, rfl⟩

theorem eq_of_isWithin (hp : schemaPointer? schema d = some p) (hq : schemaPointer? schema e = some q)
    (hr : (schema.targetAt? q).isSome) (hw : d.isWithin e = true) : d = e := by
  obtain ⟨tokens, rfl⟩ := Pointer.isWithin_iff_exists.mp hw
  cases tokens with
  | nil => exact Pointer.append_nil e
  | cons key rest =>
    obtain ⟨node, hn⟩ := Option.isSome_iff_exists.mp (isSome_get?_of_schemaPointer? hq)
    rw [schemaPointer?, Pointer.append, schemaAlong?_append (get?_root schema)] at hp
    rw [schemaPointer?] at hq
    rw [hq, Option.bind_some, hn, Option.bind_some, schemaAlong?] at hp
    split at hp
    case h_2 => simp at hp
    case h_1 hs =>
      have := hl.reference?_of_schemaStep? hn hs
      simp [targetAt?, hn, this] at hr

end LeafReferences

def hasItemNames (node : Json) : Bool :=
  ((node.field? "properties").bind asObject?).any fun fields =>
    fields.any fun (key, _) => (Pointer.index? key).isSome || key = Pointer.anyIndex

def isTranslatable (schema : Json) : Bool :=
  (schema.nodes .root).all fun (p, node) =>
    (node.reference?.isNone ||
      ["properties", "items", "additionalItems", "additionalProperties"].all fun keyword =>
        (node.field? keyword).isNone) &&
    (node.reference?.isNone || (schema.targetAt? p).any fun q =>
      p.isInside q && (schema.get? q).isSome) &&
    ((schema.targetAt? p).all fun q =>
      (dataPointer? schema p).all fun d => (dataPointer? schema q).all fun e =>
        schemaPointer? schema d = some p && schemaPointer? schema e = some q) &&
    ((node.field? "items").isNone || (arity? node).isSome) &&
    ((arity? node).isNone || (dataPointer? schema p).all fun d =>
      schemaPointer? schema d = some p && !node.hasItemNames)

def isDescribed (schema : Json) : Bool :=
  (schema.nodes .root).all fun (p, _) => (schema.targetAt? p).all fun q =>
    (dataPointer? schema p).isSome && (dataPointer? schema q).isSome

theorem property_of_not_hasItemNames (h : node.hasItemNames = false)
    (hk : (Pointer.index? key).isSome ∨ key = Pointer.anyIndex) :
    (node.field? "properties").bind (·.field? key) = none := by
  unfold hasItemNames at h
  cases hp : node.field? "properties" with
  | none            => rfl
  | some properties =>
    cases properties
    case object fields =>
      simp only [hp, Option.bind_some, asObject?, Option.any_some, List.any_eq_false] at h
      refine Fields.get?_eq_none_iff.mpr fun hm => ?_
      obtain ⟨⟨_, value⟩, hf, rfl⟩ := List.mem_map.mp hm
      exact h _ hf (by simpa using hk)
    all_goals rfl

theorem translatable_of_isTranslatable (h : schema.isTranslatable = true) : schema.Translatable := by
  have hn {p : Pointer} {node : Json} (hg : schema.get? p = some node) :=
    List.all_eq_true.mp h _ (mem_nodes_of_get? hg)
  simp only [Bool.and_eq_true, Bool.or_eq_true, List.all_eq_true, Option.isNone_iff_eq_none] at hn
  constructor
  case leaves =>
    intro p node hf hr
    obtain ⟨⟨⟨⟨hl, _⟩, _⟩, _⟩, _⟩ := hn hf
    exact hl.resolve_left (Option.isSome_iff_ne_none.mp hr)
  case refersBack =>
    intro p found hf hr
    obtain ⟨⟨⟨⟨_, hup⟩, _⟩, _⟩, _⟩ := hn hf
    obtain ⟨q, hq, hup⟩ :=
      (Option.any_eq_true ..).mp (hup.resolve_left (Option.isSome_iff_ne_none.mp hr))
    exact ⟨q, hq, (Bool.and_eq_true _ _).mp hup⟩
  case references =>
    intro p q d e ht hd he
    obtain ⟨found, hf⟩ := Option.isSome_iff_exists.mp (isSome_get?_of_targetAt? ht)
    obtain ⟨⟨⟨_, h⟩, _⟩, _⟩ := hn hf
    simpa [ht, hd, he] using h
  case items =>
    intro d p node _ hf hi
    obtain ⟨⟨_, h⟩, _⟩ := hn hf
    exact h.resolve_left (Option.isSome_iff_ne_none.mp hi)
  case arrays =>
    intro p d node hf ha hd
    obtain ⟨_, h⟩ := hn hf
    have h := h.resolve_left (Option.isSome_iff_ne_none.mp ha)
    simp only [hd, Option.all_some, Bool.and_eq_true, decide_eq_true_eq, Bool.not_eq_true'] at h
    exact ⟨h.left, fun key => property_of_not_hasItemNames h.right⟩

theorem described_of_isDescribed (h : schema.isDescribed = true) : schema.Described := by
  intro d p q _ ht
  obtain ⟨found, hf⟩ := Option.isSome_iff_exists.mp (isSome_get?_of_targetAt? ht)
  have h := List.all_eq_true.mp h _ (mem_nodes_of_get? hf)
  simpa [ht] using h

end Json

namespace CompiledSchema

open Json (Translatable Described)

variable {schema node : Json} {options : Options} {compiled : CompiledSchema} {d e p q : Pointer}
  {key : String} {arity index : Nat}

theorem arity_le_iff (ha : arity? node = some arity) :
    arity ≤ index ↔ ∀ tuple, node.field? "items" = some (.array tuple) → tuple.length ≤ index := by
  unfold arity? at ha
  split at ha
  case isFalse => simp at ha
  case isTrue =>
    split at ha
    case h_1 tuple hi    => cases ha; simp [hi]
    case h_2 hn          =>
      cases ha
      exact ⟨fun _ tuple hi => absurd hi (hn tuple), fun _ => Nat.zero_le index⟩

-- Beyond the arity of an array all steps are alike.
theorem schemaStep?_eq_of_arity_le (ha : arity? node = some arity)
    (hn : ∀ key, (Pointer.index? key).isSome ∨ key = Pointer.anyIndex →
      (node.field? "properties").bind (·.field? key) = none)
    (hi : Pointer.index? key = some index) (hle : arity ≤ index) :
    schemaStep? node key = schemaStep? node Pointer.anyIndex := by
  have hany : Pointer.index? Pointer.anyIndex = none := by decide +kernel
  have hitem : itemStep? node key = itemStep? node Pointer.anyIndex := by
    simp only [itemStep?, hi, hany, Option.isSome_some, Bool.true_or, decide_true, Bool.or_true,
      reduceIte, Option.bind_some, Option.bind_none]
    cases hf : node.field? "items" with
    | none       => rfl
    | some items =>
      cases items
      case array tuple =>
        have hlen := (arity_le_iff ha).mp hle tuple hf
        simp [hlen]
      all_goals rfl
  simp only [schemaStep?, hn key (.inl (by simp [hi])), hn Pointer.anyIndex (.inr rfl), hitem]

section Tables

variable (hw : schema.WellFormed) (hc : compile options schema = .ok compiled)
  (ht : compiled.schema.Translatable)

include hw hc ht

theorem exists_array (h : compiled.arrays.get? d = some arity) :
    ∃ p node, schemaPointer? compiled.schema d = some p ∧ compiled.schema.get? p = some node ∧
      arity? node = some arity ∧ ∀ key index, Pointer.index? key = some index → arity ≤ index →
        schemaStep? node key = schemaStep? node Pointer.anyIndex := by
  obtain ⟨p, node, hn, ha, hd⟩ := exists_of_get?_arrays hw hc h
  obtain ⟨hp, hnames⟩ := ht.arrays p d node hn (by simp [ha]) hd
  exact ⟨p, node, hp, hn, ha, fun _ _ => schemaStep?_eq_of_arity_le ha hnames⟩

theorem soundTables_of_translatable : compiled.SoundTables where
  references := by
    intro source target hm
    obtain ⟨p, q, htarget, hd, he⟩ := exists_of_mem_dataReferences hw hc hm
    obtain ⟨hp, hq⟩ := ht.references p q source target htarget hd he
    exact ⟨p, q, ht.leaves.comes hp, ht.leaves.comes hq, htarget⟩
  arrays := by
    intro position arity harity p q node hp hq hn
    obtain ⟨r, array, hr, harray, ha, halike⟩ := exists_array hw hc ht harity
    obtain rfl := (ht.leaves.comes hr).unique hp
    have hself : compiled.schema.Settles r r :=
      .here harray (ht.leaves.reference?_of_arity? harray (by simp [ha]))
    obtain rfl := hself.unique hq
    obtain rfl := Option.some.inj (harray.symm.trans hn)
    exact halike

theorem schemaPointer?_toGeneric (d : Pointer) :
    schemaPointer? compiled.schema (d.toGeneric compiled.arrays) = schemaPointer? compiled.schema d := by
  induction d using Pointer.induct_child with
  | root => rfl
  | child d key ih =>
    rw [Pointer.toGeneric_child, schemaPointer?_child, schemaPointer?_child, ih]
    refine Option.bind_congr fun q hq => Option.bind_congr fun node hn => congrArg _ ?_
    unfold Pointer.genericStep
    split
    case h_2 => rfl
    case h_1 index arity hi harity =>
      split
      case isFalse    => rfl
      case isTrue hle =>
        obtain ⟨r, array, hr, harray, _, halike⟩ := exists_array hw hc ht harity
        obtain rfl := Option.some.inj (hr.symm.trans (ih.trans hq))
        obtain rfl := Option.some.inj (harray.symm.trans hn)
        exact (halike key index hi hle).symm

theorem dataPointer?_of_generic (hg : d.Generic compiled.arrays)
    (hp : schemaPointer? compiled.schema d = some p) (hs : (dataPointer? compiled.schema p).isSome) :
    dataPointer? compiled.schema p = some d := by
  have hself : (dataPointer? compiled.schema (p.append [])).isSome := by rwa [Pointer.append_nil]
  refine dataPointer?_of_schemaPointer? hg ?_ hp hself
  intro e r node key hr hn he hb
  obtain ⟨index, hi, hitems, hslots⟩ := hb
  have ha := isSome_get?_arrays hw hc hn (ht.items e r node hr hn hitems) he
  obtain ⟨arity, harity⟩ := Option.isSome_iff_exists.mp ha
  obtain ⟨r', array, hr', harray, ha, _⟩ := exists_array hw hc ht harity
  obtain rfl := Option.some.inj (hr.symm.trans hr')
  obtain rfl := Option.some.inj (hn.symm.trans harray)
  simp [Pointer.genericStep, hi, harity, (arity_le_iff ha).mpr hslots]

theorem completeTables_of_described (hd : compiled.schema.Described) : compiled.CompleteTables := by
  refine completeTables_of_first fun d p found hg hnormal hp hf _ => ?_
  refine Option.not_isSome_iff_eq_none.mp fun hr => ?_
  obtain ⟨q, hq, hinside, hqg⟩ := ht.refersBack p found hf hr
  obtain ⟨hps, hqs⟩ := hd d p q hp hq
  have hpd := dataPointer?_of_generic hw hc ht hg hp hps
  obtain ⟨e, he⟩ := Option.isSome_iff_exists.mp hqs
  -- Another reference may come first in the table, but it is the one at the same node.
  obtain ⟨target, hm⟩ := exists_mem_dataReferences hw hc hq hqg hpd he
  obtain ⟨p', q', hq', hpd', he'⟩ := exists_of_mem_dataReferences hw hc hm
  obtain ⟨hp', hqe⟩ := ht.references p' q' d target hq' hpd' he'
  obtain rfl := Option.some.inj (hp.symm.trans hp')
  obtain rfl := Option.some.inj (hq.symm.trans hq')
  obtain rfl := Option.some.inj (he.symm.trans he')
  have hde : d.isInside e = true := by
    obtain ⟨node, hn⟩ := Option.isSome_iff_exists.mp hqg
    obtain ⟨hwithin, hne⟩ := Pointer.isInside_iff.mp hinside
    obtain ⟨tokens, rfl⟩ := Pointer.isWithin_iff_exists.mp hwithin
    rw [dataPointer?_append he hn] at hpd
    refine Pointer.isInside_iff.mpr ⟨dataAlong?_isWithin hpd, ?_⟩
    rintro rfl
    exact hne (Option.some.inj (hp.symm.trans hqe))
  simpa using hnormal d e hm hde

theorem described_of_completeTables (h : compiled.CompleteTables) : compiled.schema.Described := by
  intro d p q hp hq
  have hg := schemaPointer?_toGeneric hw hc ht d
  rw [hp] at hg
  obtain ⟨found, hf, hr⟩ := Option.bind_eq_some_iff.mp hq
  obtain ⟨text, hr, _⟩ := Option.bind_eq_some_iff.mp hr
  refine Decidable.byContradiction fun hn => ?_
  refine h _ p found (Pointer.generic_toGeneric _ d) (ht.leaves.comes hg) hf (by simp [hr]) ?_
  intro source target hm _
  refine Bool.eq_false_iff.mpr fun hwithin => hn ?_
  obtain ⟨p', q', hq', hd, he⟩ := exists_of_mem_dataReferences hw hc hm
  obtain ⟨hp', _⟩ := ht.references p' q' source target hq' hd he
  have hsource := ht.leaves.eq_of_isWithin hg hp' (by simp [hq']) hwithin
  rw [hsource] at hg
  obtain rfl := Option.some.inj (hg.symm.trans hp')
  obtain rfl := Option.some.inj (hq.symm.trans hq')
  exact ⟨by simp [hd], by simp [he]⟩

-- A reference that governs a position but describes none is missing from the tables, which are made by
-- translating nodes into the positions that they describe.
theorem looksUp_iff_described : (∀ d, compiled.LooksUp d) ↔ compiled.schema.Described := by
  rw [looksUp_iff_completeTables (soundTables_of_translatable hw hc ht)]
  exact ⟨described_of_completeTables hw hc ht, completeTables_of_described hw hc ht⟩

end Tables

-- A person whose children are persons again.
def family : Json :=
  .object [
    ("properties", .object [
      ("children", .object [("items", .object [("$ref", .string "#")]), ("type", .string "array")]),
      ("name", .object [("type", .string "string")])]),
    ("type", .string "object")]

theorem looksUp_family :
    family.WellFormed ∧ ∃ compiled, compile {} family = .ok compiled ∧
      compiled.schema.Translatable ∧ ∀ d, compiled.LooksUp d := by
  have hw : family.WellFormed := by decide
  have hs : (compile {} family).toOption.any fun c =>
      c.schema.isTranslatable && c.schema.isDescribed := by
    decide +kernel
  obtain ⟨compiled, hc, hs⟩ := exists_compile_of_any hs
  obtain ⟨ht, hd⟩ := (Bool.and_eq_true _ _).mp hs
  have ht := Json.translatable_of_isTranslatable ht
  exact ⟨hw, compiled, hc, ht,
    (looksUp_iff_described hw hc ht).mpr (Json.described_of_isDescribed hd)⟩

-- All properties but the name are again what the root is. No position is described by the node for them, so
-- that its reference is missing from the table of references.
def record : Json :=
  .object [
    ("additionalProperties", .object [("$ref", .string "#")]),
    ("properties", .object [("name", .object [("type", .string "string")])])]

theorem not_looksUp_record :
    record.WellFormed ∧ record.isObject ∧ ∃ compiled, compile {} record = .ok compiled ∧
      compiled.schema.RefersBack ∧ ¬ compiled.LooksUp ⟨["x", "name"]⟩ := by
  let others : Pointer := ⟨["additionalProperties"]⟩
  let name : Pointer := ⟨["properties", "name"]⟩
  have hs : (compile {} record).toOption.any fun c =>
      c.schema.isTranslatable && schemaPointer? c.schema ⟨["x"]⟩ = some others &&
        c.schema.targetAt? others = some .root && schemaPointer? c.schema ⟨["name"]⟩ = some name &&
        (c.schema.get? name).any (·.reference?.isNone) && (c.schemaAt? ⟨["x", "name"]⟩).isNone := by
    decide +kernel
  obtain ⟨compiled, hc, hs⟩ := exists_compile_of_any hs
  simp only [Bool.and_eq_true, decide_eq_true_eq] at hs
  obtain ⟨⟨⟨⟨⟨ht, hx⟩, hroot⟩, hname⟩, hfound⟩, hnone⟩ := hs
  have ht := Json.translatable_of_isTranslatable ht
  obtain ⟨found, hf, hr⟩ := (Option.any_eq_true ..).mp hfound
  have hwalk : compiled.schema.Governs .root ["x", "name"] name := by
    refine Json.governs_append.mpr ⟨others, ht.leaves.comes hx, ?_⟩
    refine (Json.governs_of_targetAt? hroot).mpr ⟨name, ht.leaves.comes hname, ?_⟩
    exact .here hf (Option.isNone_iff_eq_none.mp hr)
  refine ⟨by decide, rfl, compiled, hc, ht.refersBack, fun h => ?_⟩
  simp [(h found).mpr ⟨name, hwalk, hf⟩] at hnone

end CompiledSchema

end JsonSchema
