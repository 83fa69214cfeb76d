import JsonSchema.Compiled
import JsonSchema.Proofs.Position.Walk
import JsonSchema.Proofs.Reference.Shortening

namespace JsonSchema.CompiledSchema

open Position

variable {c : CompiledSchema} {d p q r x : Pointer} {found : Json} {tokens : List String}

-- The references of the table are those that walks come to, and beyond the arity of an array all steps
-- are alike.
structure SoundTables (c : CompiledSchema) : Prop where
  references : ∀ source target, (source, target) ∈ c.dataReferences.entries →
    ∃ p q, c.schema.Comes .root source.tokens p ∧ c.schema.Comes .root target.tokens q ∧
      c.schema.targetAt? p = some q
  arrays     : ∀ position arity, c.arrays.get? position = some arity →
    ∀ p q node, c.schema.Comes .root position.tokens p → c.schema.Settles p q →
      c.schema.get? q = some node → ∀ token index, Pointer.index? token = some index →
        arity ≤ index → schemaStep? node token = schemaStep? node Pointer.anyIndex

-- Every generic position at which a walk comes to a reference can be shortened.
def CompleteTables (c : CompiledSchema) : Prop :=
  ∀ d p found, d.Generic c.arrays → c.schema.Comes .root d.tokens p →
    c.schema.get? p = some found → found.reference?.isSome → ¬ c.dataReferences.Normal d

-- A position is looked up as a walk goes that follows references.
def LooksUp (c : CompiledSchema) (d : Pointer) : Prop :=
  ∀ found, c.schemaAt? d = some found ↔
    ∃ r, c.schema.Governs .root d.tokens r ∧ c.schema.get? r = some found

namespace SoundTables

variable (hs : c.SoundTables)

include hs

theorem comes_child_generic (hp : c.schema.Comes .root d.tokens p) (token : String) :
    c.schema.Comes p [token] r ↔ c.schema.Comes p [Pointer.genericStep c.arrays d token] r := by
  have hstep {q : Pointer} {node : Json} (hq : c.schema.Settles p q)
      (hn : c.schema.get? q = some node) :
      schemaStep? node (Pointer.genericStep c.arrays d token) = schemaStep? node token := by
    unfold Pointer.genericStep
    split
    case h_2 => rfl
    case h_1 index arity hi ha =>
      split
      case isFalse    => rfl
      case isTrue hle => exact (hs.arrays d arity ha p q node hp hq hn token index hi hle).symm
  constructor
  case mp =>
    rintro ⟨q, node, steps, next, hq, hn, h, hr⟩
    exact ⟨q, node, steps, next, hq, hn, (hstep hq hn).trans h, hr⟩
  case mpr =>
    rintro ⟨q, node, steps, next, hq, hn, h, hr⟩
    exact ⟨q, node, steps, next, hq, hn, (hstep hq hn).symm.trans h, hr⟩

theorem comes_toGeneric (d p : Pointer) :
    c.schema.Comes .root (d.toGeneric c.arrays).tokens p ↔ c.schema.Comes .root d.tokens p := by
  induction d using Pointer.induct_child generalizing p with
  | root => rfl
  | child d token ih =>
    rw [Pointer.toGeneric_child]
    simp only [Pointer.child, Json.comes_append]
    constructor
    case mp =>
      rintro ⟨q, hq, h⟩
      exact ⟨q, (ih q).mp hq, (hs.comes_child_generic hq token).mpr h⟩
    case mpr =>
      rintro ⟨q, hq, h⟩
      have hq := (ih q).mpr hq
      exact ⟨q, hq, (hs.comes_child_generic hq token).mp h⟩

theorem governs_toGeneric (d r : Pointer) :
    c.schema.Governs .root (d.toGeneric c.arrays).tokens r ↔ c.schema.Governs .root d.tokens r :=
  exists_congr fun p => and_congr_left fun _ => hs.comes_toGeneric d p

theorem governs_of_mem {source target : Pointer} (h : (source, target) ∈ c.dataReferences.entries) :
    c.schema.Governs .root (source.tokens ++ tokens) r ↔
      c.schema.Governs .root (target.tokens ++ tokens) r := by
  obtain ⟨p, q, hp, hq, ht⟩ := hs.references source target h
  have hfrom {x : Pointer} {front : List String} (hx : c.schema.Comes .root front x) :
      c.schema.Governs .root (front ++ tokens) r ↔ c.schema.Governs x tokens r := by
    rw [Json.governs_append]
    constructor
    case mp  => rintro ⟨y, hy, h⟩; exact hx.unique hy ▸ h
    case mpr => exact fun h => ⟨x, hx, h⟩
  rw [hfrom hp, hfrom hq, Json.governs_of_targetAt? ht]

theorem governs_shortenData (d r : Pointer) :
    c.schema.Governs .root (c.shortenData d).tokens r ↔ c.schema.Governs .root d.tokens r := by
  refine ReferenceMap.shorten_induct_generic (motive := fun e : Pointer =>
    c.schema.Governs .root e.tokens r ↔ c.schema.Governs .root d.tokens r) ?_ (hs.governs_toGeneric d r)
  intro source target tokens he _ h
  rw [hs.governs_toGeneric]
  exact (hs.governs_of_mem he).symm.trans h

end SoundTables

theorem schemaAt?_eq_some_iff (hd : c.shortenData d = d)
    (hn : ∀ e x found, d.isInside e = true → c.schema.Comes .root e.tokens x →
      c.schema.get? x = some found → found.reference? = none) :
    c.schemaAt? d = some found ↔ ∃ p, c.schema.Comes .root d.tokens p ∧ c.schema.get? p = some found := by
  rw [schemaAt?, hd, Option.bind_eq_some_iff]
  simp only [Json.comes_root_iff hn]

theorem shortenData_shortenData (c : CompiledSchema) (d : Pointer) :
    c.shortenData (c.shortenData d) = c.shortenData d :=
  ReferenceMap.shorten_eq_self_of_generic (ReferenceMap.normal_shorten c.dataReferences c.arrays d)
    (ReferenceMap.generic_shorten c.dataReferences c.arrays d)

theorem completeTables_of_first
    (h : ∀ d p found, d.Generic c.arrays → c.dataReferences.Normal d →
      schemaPointer? c.schema d = some p → c.schema.get? p = some found →
      (∀ e x other, d.isInside e = true → c.schema.Comes .root e.tokens x →
        c.schema.get? x = some other → other.reference? = none) → found.reference? = none) :
    c.CompleteTables := by
  intro d p found hg hp hf hr hd
  induction hn : d.depth using Nat.strongRecOn generalizing d p found with
  | ind n ih =>
    have hnone (e x : Pointer) (other : Json) (he : d.isInside e = true)
        (hx : c.schema.Comes .root e.tokens x) (ho : c.schema.get? x = some other) :
        other.reference? = none := by
      have hw := (Pointer.isInside_iff.mp he).left
      have hlt := Pointer.depth_lt_of_isInside he
      refine Option.not_isSome_iff_eq_none.mp fun hr => ?_
      exact ih e.depth (hn ▸ hlt) e x other (hg.of_isWithin hw) hx ho hr (hd.of_isWithin hw) rfl
    have hp := (Json.comes_root_iff hnone).mp hp
    simp [h d p found hg hd hp hf hnone] at hr

theorem looksUp_iff_completeTables (hs : c.SoundTables) : (∀ d, c.LooksUp d) ↔ c.CompleteTables := by
  constructor
  case mp =>
    intro hl
    refine completeTables_of_first fun d p found hg hd hp hf hnone => ?_
    have hself : c.shortenData d = d := ReferenceMap.shorten_eq_self_of_generic hd hg
    have hat : c.schemaAt? d = some found := by
      rw [schemaAt?, hself, hp, Option.bind_some, hf]
    obtain ⟨r, ⟨q, hq, hsettles⟩, hfound⟩ := (hl d found).mp hat
    obtain ⟨other, ho, hr⟩ := hsettles.exists_get?
    obtain rfl := Option.some.inj (ho.symm.trans hfound)
    exact hr
  case mpr =>
    intro hc d found
    have hnormal := ReferenceMap.normal_shorten c.dataReferences c.arrays d
    have hgeneric := ReferenceMap.generic_shorten c.dataReferences c.arrays d
    have hnone (e x : Pointer) (other : Json) (he : (c.shortenData d).isWithin e = true)
        (hx : c.schema.Comes .root e.tokens x) (ho : c.schema.get? x = some other) :
        other.reference? = none :=
      Option.not_isSome_iff_eq_none.mp fun hr =>
        hc e x other (hgeneric.of_isWithin he) hx ho hr (hnormal.of_isWithin he)
    have hat : c.schemaAt? d = c.schemaAt? (c.shortenData d) := by
      rw [schemaAt?, schemaAt?, shortenData_shortenData]
    rw [hat, schemaAt?_eq_some_iff (shortenData_shortenData c d) fun e x other he =>
      hnone e x other (Pointer.isInside_iff.mp he).left]
    simp only [← hs.governs_shortenData d]
    constructor
    case mp =>
      rintro ⟨p, hp, hf⟩
      exact ⟨p, ⟨p, hp, .here hf (hnone _ p found (Pointer.isWithin_refl _) hp hf)⟩, hf⟩
    case mpr =>
      rintro ⟨r, ⟨p, hp, hsettles⟩, hf⟩
      obtain ⟨other, ho⟩ := Option.isSome_iff_exists.mp hsettles.isSome_get?
      have hself : c.schema.Settles p p := .here ho (hnone _ p other (Pointer.isWithin_refl _) hp ho)
      exact ⟨p, hp, hself.unique hsettles ▸ hf⟩

end JsonSchema.CompiledSchema
