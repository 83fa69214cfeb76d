import JsonSchema.Position
import JsonSchema.Proofs.Json.Walk
import JsonSchema.Proofs.Pointer.Within

namespace JsonSchema

open Position

variable {schema node next : Json} {p q r x y place : Pointer} {key : String} {steps : List String}
  {tokens front back : List String}

namespace Position

theorem field?_eq_step? {key : String} {child : Json} (h : node.field? key = some child) :
    node.step? key = some child := by
  cases node <;> simp [Json.field?, Json.asObject?] at h
  case object fields => exact h

def IsItem (key : String) : Prop := (Pointer.index? key).isSome ∨ key = Pointer.anyIndex

inductive GoverningStep (node : Json) (key : String) : (steps : List String) → Json → Prop
  | property {part} :
    (node.field? "properties").bind (·.field? key) = some part →
      GoverningStep node key ["properties", key] part
  | slot {tuple part} :
    node.field? "items" = some (.array tuple) → member? tuple key = some part →
      GoverningStep node key ["items", key] part
  | items {fields} :
    IsItem key → node.field? "items" = some (.object fields) →
      GoverningStep node key ["items"] (.object fields)
  | beyond {tuple fields} :
    IsItem key → node.field? "items" = some (.array tuple) → member? tuple key = none →
      node.field? "additionalItems" = some (.object fields) →
        GoverningStep node key ["additionalItems"] (.object fields)
  | other {fields} :
    node.field? "additionalProperties" = some (.object fields) →
      GoverningStep node key ["additionalProperties"] (.object fields)

theorem governingStep_of_itemStep? (h : itemStep? node key = some (steps, next)) :
    GoverningStep node key steps next := by
  simp only [itemStep?] at h
  split at h
  case isFalse => simp at h
  case isTrue hk =>
    have hk : IsItem key := by simpa [IsItem] using hk
    split at h
    case h_1 tuple ht =>
      split at h
      case h_1 slot hs => cases h; exact .slot ht hs
      case h_2 hs =>
        split at h
        case h_1 fields hf => cases h; exact .beyond hk ht hs hf
        case h_2           => simp at h
    case h_2 fields hf => cases h; exact .items hk hf
    case h_3           => simp at h

theorem governingStep_of_schemaStep? (h : schemaStep? node key = some (steps, next)) :
    GoverningStep node key steps next := by
  simp only [schemaStep?] at h
  split at h
  case h_1 property hp => cases h; exact .property hp
  case h_2 =>
    split at h
    case h_1 step hs => cases h; exact governingStep_of_itemStep? hs
    case h_2 =>
      split at h
      case h_1 fields hf => cases h; exact .other hf
      case h_2           => simp at h

theorem follow?_schemaStep? (h : schemaStep? node key = some (steps, next)) :
    node.follow? steps = some next := by
  cases governingStep_of_schemaStep? h with
  | property hp =>
    obtain ⟨properties, hf, hp⟩ := Option.bind_eq_some_iff.mp hp
    simp [Json.follow?, field?_eq_step? hf, field?_eq_step? hp]
  | slot ht hs =>
    have hk : (Json.array _).step? key = some next := hs
    simp [Json.follow?, field?_eq_step? ht, hk]
  | items _ hf | beyond _ _ _ hf | other hf => simp [Json.follow?, field?_eq_step? hf]

theorem schemaAlong?_append (hp : schema.get? place = some node) (front back : List String) :
    schemaAlong? node place (front ++ back) =
      (schemaAlong? node place front).bind fun q =>
        (schema.get? q).bind fun found => schemaAlong? found q back := by
  induction front generalizing node place with
  | nil => simp [schemaAlong?, hp]
  | cons key rest ih =>
    simp only [List.cons_append, schemaAlong?]
    cases hs : schemaStep? node key with
    | none => rfl
    | some step =>
      obtain ⟨steps, next⟩ := step
      refine ih ?_
      rw [Json.get?_append, hp]
      exact follow?_schemaStep? hs

theorem schemaPointer?_child (p : Pointer) (key : String) :
    schemaPointer? schema (p.child key) =
      (schemaPointer? schema p).bind fun q => (schema.get? q).bind fun node =>
        (schemaStep? node key).map fun step => q.append step.1 := by
  rw [schemaPointer?, Pointer.child, schemaAlong?_append (Json.get?_root schema), schemaPointer?]
  congr 1
  funext q
  congr 1
  funext node
  rw [schemaAlong?]
  cases schemaStep? node key <;> rfl

theorem isSome_get?_of_schemaPointer? (h : schemaPointer? schema p = some q) :
    (schema.get? q).isSome := by
  have hf (tokens : List String) {node : Json} {place : Pointer}
      (hp : schema.get? place = some node) (h : schemaAlong? node place tokens = some q) :
      (schema.get? q).isSome := by
    induction tokens generalizing node place with
    | nil => cases h; simp [hp]
    | cons key rest ih =>
      rw [schemaAlong?] at h
      split at h
      case h_2 => simp at h
      case h_1 steps next hs =>
        refine ih ?_ h
        rw [Json.get?_append, hp]
        exact follow?_schemaStep? hs
  exact hf p.tokens (Json.get?_root schema) h

end Position

namespace Json

-- From a node, steps of the data lead to another one; references are followed before every step.
def Comes (schema : Json) : Pointer → List String → Pointer → Prop
  | p, [], r          => r = p
  | p, key :: rest, r =>
    ∃ q node steps next, schema.Settles p q ∧ schema.get? q = some node ∧
      schemaStep? node key = some (steps, next) ∧ schema.Comes (q.append steps) rest r

-- References are followed at the end, too.
def Governs (schema : Json) (p : Pointer) (tokens : List String) (r : Pointer) : Prop :=
  ∃ q, schema.Comes p tokens q ∧ schema.Settles q r

theorem Comes.unique (hq : schema.Comes p tokens q) (hr : schema.Comes p tokens r) : q = r := by
  induction tokens generalizing p with
  | nil => exact Eq.trans hq (Eq.symm hr)
  | cons key rest ih =>
    obtain ⟨a, node, steps, next, ha, hn, hs, hq⟩ := hq
    obtain ⟨b, other, steps', next', hb, ho, hs', hr⟩ := hr
    obtain rfl := ha.unique hb
    obtain rfl := Option.some.inj (hn.symm.trans ho)
    cases hs.symm.trans hs'
    exact ih hq hr

theorem comes_append :
    schema.Comes p (front ++ back) r ↔ ∃ q, schema.Comes p front q ∧ schema.Comes q back r := by
  induction front generalizing p with
  | nil =>
    constructor
    case mp  => exact fun h => ⟨p, rfl, h⟩
    case mpr => rintro ⟨_, rfl, h⟩; exact h
  | cons key rest ih =>
    constructor
    case mp =>
      rintro ⟨a, node, steps, next, ha, hn, hs, h⟩
      obtain ⟨q, hf, hb⟩ := ih.mp h
      exact ⟨q, ⟨a, node, steps, next, ha, hn, hs, hf⟩, hb⟩
    case mpr =>
      rintro ⟨q, ⟨a, node, steps, next, ha, hn, hs, hf⟩, hb⟩
      exact ⟨a, node, steps, next, ha, hn, hs, ih.mpr ⟨q, hf, hb⟩⟩

theorem governs_append :
    schema.Governs p (front ++ back) r ↔ ∃ q, schema.Comes p front q ∧ schema.Governs q back r := by
  constructor
  case mp =>
    rintro ⟨m, hm, hr⟩
    obtain ⟨q, hf, hb⟩ := comes_append.mp hm
    exact ⟨q, hf, m, hb, hr⟩
  case mpr =>
    rintro ⟨q, hf, m, hb, hr⟩
    exact ⟨m, comes_append.mpr ⟨q, hf, hb⟩, hr⟩

theorem governs_of_targetAt? (ht : schema.targetAt? p = some q) :
    schema.Governs p tokens r ↔ schema.Governs q tokens r := by
  have hs (m : Pointer) : schema.Settles p m ↔ schema.Settles q m :=
    ⟨Settles.of_jump ht, .jump ht⟩
  cases tokens with
  | nil =>
    constructor
    case mp  => rintro ⟨_, rfl, h⟩; exact ⟨q, rfl, (hs r).mp h⟩
    case mpr => rintro ⟨_, rfl, h⟩; exact ⟨p, rfl, (hs r).mpr h⟩
  | cons key rest => simp only [Governs, Comes, hs]

theorem comes_child {d : Pointer} :
    schema.Comes .root (d.child key).tokens r ↔
      ∃ p q node steps next, schema.Comes .root d.tokens p ∧ schema.Settles p q ∧
        schema.get? q = some node ∧ schemaStep? node key = some (steps, next) ∧
          r = q.append steps := by
  rw [Pointer.child, comes_append]
  constructor
  case mp =>
    rintro ⟨p, hp, q, node, steps, next, hq, hn, hs, hr⟩
    exact ⟨p, q, node, steps, next, hp, hq, hn, hs, hr⟩
  case mpr =>
    rintro ⟨p, q, node, steps, next, hp, hq, hn, hs, hr⟩
    exact ⟨p, hp, q, node, steps, next, hq, hn, hs, hr⟩

-- Where the nodes on the way make no references, a walk is the translation into a schema pointer.
theorem comes_root_iff {d : Pointer}
    (hn : ∀ e x found, d.isInside e = true → schema.Comes .root e.tokens x →
      schema.get? x = some found → found.reference? = none) :
    schema.Comes .root d.tokens p ↔ schemaPointer? schema d = some p := by
  induction d using Pointer.induct_child generalizing p with
  | root => exact ⟨fun h => congrArg some (Eq.symm h), fun h => (Option.some.inj h).symm⟩
  | child d key ih =>
    have hd := Pointer.child_isInside d key
    have ih (p : Pointer) : schema.Comes .root d.tokens p ↔ schemaPointer? schema d = some p :=
      ih fun e x found he =>
        hn e x found (Pointer.isWithin_trans_isInside (Pointer.isInside_iff.mp hd).left he)
    rw [schemaPointer?_child, comes_child]
    simp only [Option.bind_eq_some_iff, Option.map_eq_some_iff]
    constructor
    case mp =>
      rintro ⟨x, q, node, steps, next, hx, hq, hg, hs, rfl⟩
      obtain ⟨found, hf⟩ := Option.isSome_iff_exists.mp hq.isSome_get?
      obtain rfl := hq.unique (.here hf (hn d x found hd hx hf))
      exact ⟨q, (ih q).mp hx, node, hg, (steps, next), hs, rfl⟩
    case mpr =>
      rintro ⟨x, hx, node, hg, ⟨steps, next⟩, hs, rfl⟩
      have hx := (ih x).mpr hx
      exact ⟨x, x, node, steps, next, hx, .here hg (hn d x node hd hx hg), hg, hs, rfl⟩

end Json

end JsonSchema
