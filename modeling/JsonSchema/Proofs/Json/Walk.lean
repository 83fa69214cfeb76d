import JsonSchema.Proofs.Json.Lookup
import JsonSchema.Reference.Graph

namespace JsonSchema.Json

-- The target of the reference that the node at a pointer makes.
def targetAt? (j : Json) (p : Pointer) : Option Pointer :=
  (j.get? p).bind fun found => found.reference?.bind Pointer.parse?

-- Following references from one node leads to another one, which makes no reference.
inductive Settles (j : Json) : Pointer → Pointer → Prop
  | here {p found} : j.get? p = some found → found.reference? = none → Settles j p p
  | jump {p q r}   : j.targetAt? p = some q → Settles j q r → Settles j p r

-- References are followed before every step and at the end.
def Walks (j : Json) : Pointer → List String → Pointer → Prop
  | p, [], q            => j.Settles p q
  | p, token :: rest, q => ∃ r, j.Settles p r ∧ j.Walks (r.child token) rest q

-- The number of references that are followed before a node that makes none is reached.
inductive Rank (j : Json) : Nat → Pointer → Prop
  | zero {p}     : j.targetAt? p = none → Rank j 0 p
  | succ {n p q} : j.targetAt? p = some q → Rank j n q → Rank j (n + 1) p

inductive Occurs (found : Json) : Json → Prop
  | self           : Occurs found found
  | item {items j} : j ∈ items → Occurs found j → Occurs found (.array items)
  | field {fields key j} : (key, j) ∈ fields → Occurs found j → Occurs found (.object fields)

-- A node with the key `$ref` consists of a reference to an object or a truth value, and following
-- references ends.
structure PureReferences (schema : Json) : Prop where
  reference : ∀ fields, Occurs (.object fields) schema → Fields.contains fields "$ref" →
    ∃ text target found, fields = [("$ref", .string text)] ∧ Pointer.parse? text = some target ∧
      schema.get? target = some found ∧ (found.isObject ∨ ∃ b, found = .bool b)
  settles   : ∀ p found, schema.get? p = some found → ∃ q, schema.Settles p q

variable {j found : Json} {p q r : Pointer}

theorem object_of_reference? {j : Json} {text : String} (h : j.reference? = some text) :
    ∃ fields, j = .object fields ∧ Fields.get? fields "$ref" = some (.string text) := by
  cases j <;> simp [Json.reference?, Json.field?, Json.asObject?] at h
  case object fields =>
    cases hf : Fields.get? fields "$ref" <;> simp [hf] at h
    case some value =>
      cases value <;> simp [Json.asString?] at h
      exact ⟨fields, rfl, h ▸ hf⟩

theorem reference?_eq (j : Json) : j.reference? = (j.step? "$ref").bind asString? := by
  cases j <;> simp [reference?, field?, asObject?, step?, show Pointer.index? "$ref" = none by decide]

theorem Occurs.trans {i j k : Json} (hij : i.Occurs j) (hjk : j.Occurs k) : i.Occurs k := by
  induction hjk with
  | self          => exact hij
  | item hm _ ih  => exact .item hm ih
  | field hm _ ih => exact .field hm ih

theorem Occurs.of_part {j part : Json} {token : String} (h : found.Occurs part) (hp : (token, part) ∈ j.parts) :
    found.Occurs j := by
  cases j
  case array items =>
    obtain ⟨i, _, hi⟩ := mem_parts_array.mp hp
    exact .item (List.mem_of_getElem? hi) h
  case object fields => exact .field hp h
  all_goals simp [parts] at hp

theorem occurs_of_follow? {j : Json} {tokens : List String} (h : j.follow? tokens = some found) :
    found.Occurs j := by
  induction tokens generalizing j with
  | nil =>
    cases h
    exact .self
  | cons token rest ih =>
    obtain ⟨part, hp, hr⟩ := Option.bind_eq_some_iff.mp h
    exact (ih hr).of_part (mem_parts_of_step? hp)

theorem targetAt?_of_reference?_eq_none (hg : j.get? p = some found) (hr : found.reference? = none) :
    j.targetAt? p = none := by
  simp [targetAt?, hg, hr]

theorem isSome_get?_of_targetAt? (h : j.targetAt? p = some q) : (j.get? p).isSome := by
  obtain ⟨found, hf, _⟩ := Option.bind_eq_some_iff.mp h
  simp [hf]

namespace Settles

theorem isSome_get? (h : j.Settles p q) : (j.get? p).isSome := by
  cases h
  case here _ hg => simp [hg]
  case jump ht _ => exact isSome_get?_of_targetAt? ht

theorem exists_get? (h : j.Settles p q) : ∃ found, j.get? q = some found ∧ found.reference? = none := by
  induction h with
  | here hg hr => exact ⟨_, hg, hr⟩
  | jump _ _ ih => exact ih

theorem targetAt?_eq_none (h : j.Settles p q) : j.targetAt? q = none := by
  obtain ⟨found, hg, hr⟩ := h.exists_get?
  exact targetAt?_of_reference?_eq_none hg hr

theorem self (h : j.Settles p q) : j.Settles q q := by
  obtain ⟨found, hg, hr⟩ := h.exists_get?
  exact .here hg hr

theorem unique (hq : j.Settles p q) (hr : j.Settles p r) : q = r := by
  induction hq with
  | here hg hn =>
    cases hr
    case here      => rfl
    case jump ht _ => simp [targetAt?_of_reference?_eq_none hg hn] at ht
  | jump ht _ ih =>
    cases hr
    case here hn hg => simp [targetAt?_of_reference?_eq_none hg hn] at ht
    case jump ht' h => exact ih (Option.some.inj (ht'.symm.trans ht) ▸ h)

theorem of_jump (ht : j.targetAt? p = some q) (h : j.Settles p r) : j.Settles q r := by
  cases h
  case here hn hg => simp [targetAt?_of_reference?_eq_none hg hn] at ht
  case jump ht' h => exact Option.some.inj (ht'.symm.trans ht) ▸ h

theorem eq_of_targetAt?_eq_none (h : j.Settles p q) (ht : j.targetAt? p = none) : p = q := by
  cases h
  case here       => rfl
  case jump hs _  => simp [hs] at ht

end Settles

theorem Walks.unique {tokens : List String} (hq : j.Walks p tokens q) (hr : j.Walks p tokens r) :
    q = r := by
  induction tokens generalizing p with
  | nil => exact Settles.unique hq hr
  | cons token rest ih =>
    obtain ⟨a, ha, hq⟩ := hq
    obtain ⟨b, hb, hr⟩ := hr
    exact ih hq (ha.unique hb ▸ hr)

theorem exists_settles_of_walks {tokens : List String} (h : j.Walks p tokens r) :
    ∃ q, j.Settles p q := by
  cases tokens with
  | nil  => exact ⟨r, h⟩
  | cons =>
    obtain ⟨q, hq, _⟩ := h
    exact ⟨q, hq⟩

theorem walks_of_settles {tokens : List String} (hs : j.Settles p q) :
    j.Walks q tokens r ↔ j.Walks p tokens r := by
  cases tokens with
  | nil =>
    constructor
    case mp  => exact fun h => hs.self.unique h ▸ hs
    case mpr => exact fun h => hs.unique h ▸ hs.self
  | cons token rest =>
    constructor
    case mp  => exact fun ⟨m, hm, h⟩ => ⟨m, hs.self.unique hm ▸ hs, h⟩
    case mpr => exact fun ⟨m, hm, h⟩ => ⟨m, hs.unique hm ▸ hs.self, h⟩

theorem walks_append {front back : List String} :
    j.Walks p (front ++ back) r ↔ ∃ q, j.Walks p front q ∧ j.Walks q back r := by
  induction front generalizing p with
  | nil =>
    constructor
    case mp =>
      intro h
      obtain ⟨q, hq⟩ := exists_settles_of_walks h
      exact ⟨q, hq, (walks_of_settles hq).mpr h⟩
    case mpr => exact fun ⟨q, hq, h⟩ => (walks_of_settles hq).mp h
  | cons token rest ih =>
    simp only [List.cons_append, Walks, ih]
    constructor
    case mp  => exact fun ⟨m, hm, q, hq, h⟩ => ⟨q, ⟨m, hm, hq⟩, h⟩
    case mpr => exact fun ⟨q, ⟨m, hm, hq⟩, h⟩ => ⟨m, hm, q, hq, h⟩

theorem Settles.exists_rank (h : j.Settles p q) : ∃ n, j.Rank n p := by
  induction h with
  | here hg hr   => exact ⟨0, .zero (targetAt?_of_reference?_eq_none hg hr)⟩
  | jump ht _ ih =>
    obtain ⟨n, hn⟩ := ih
    exact ⟨n + 1, .succ ht hn⟩

theorem Rank.unique {m n : Nat} (hm : j.Rank m p) (hn : j.Rank n p) : m = n := by
  induction hm generalizing n with
  | zero ht =>
    cases hn
    case zero        => rfl
    case succ _ hs   => simp [ht] at hs
  | succ ht _ ih =>
    cases hn
    case zero hs     => simp [ht] at hs
    case succ hn hs  => exact congrArg (· + 1) (ih (Option.some.inj (hs.symm.trans ht) ▸ hn))

theorem Rank.of_jump {n : Nat} (hn : j.Rank n p) (ht : j.targetAt? p = some q) :
    ∃ m, m + 1 = n ∧ j.Rank m q := by
  cases hn
  case zero hs    => simp [ht] at hs
  case succ hn hs => exact ⟨_, rfl, Option.some.inj (hs.symm.trans ht) ▸ hn⟩

namespace PureReferences

variable (h : j.PureReferences)

include h

theorem object_eq {fields : Fields} {text : String} (hg : j.get? p = some (.object fields))
    (hf : Fields.get? fields "$ref" = some (.string text)) :
    fields = [("$ref", .string text)] ∧ ∃ q found, Pointer.parse? text = some q ∧
      j.get? q = some found ∧ (found.isObject ∨ ∃ b, found = .bool b) := by
  obtain ⟨other, q, found, rfl, hp, hq, hk⟩ := h.reference fields (occurs_of_follow? hg) (by simp [Fields.contains, hf])
  obtain rfl : other = text := by simpa [Fields.get?] using hf
  exact ⟨rfl, q, found, hp, hq, hk⟩

theorem of_targetAt? (ht : j.targetAt? p = some q) :
    (∃ text, j.get? p = some (.object [("$ref", .string text)]) ∧ Pointer.parse? text = some q) ∧
      ∃ found, j.get? q = some found ∧ (found.isObject ∨ ∃ b, found = .bool b) := by
  obtain ⟨node, hg, ht⟩ := Option.bind_eq_some_iff.mp ht
  obtain ⟨text, hr, hp⟩ := Option.bind_eq_some_iff.mp ht
  obtain ⟨fields, rfl, hf⟩ := object_of_reference? hr
  obtain ⟨rfl, other, found, hp', hq, hk⟩ := h.object_eq hg hf
  cases hp.symm.trans hp'
  exact ⟨⟨text, hg, hp⟩, found, hq, hk⟩

theorem targetAt?_eq_none_of_inside {tokens : List String} (hg : j.get? (p.append tokens) = some found)
    (hf : found.isObject ∨ ∃ b, found = .bool b) (hn : tokens ≠ []) : j.targetAt? p = none := by
  cases ht : j.targetAt? p with
  | none   => rfl
  | some q =>
    obtain ⟨⟨text, hp, _⟩, _⟩ := h.of_targetAt? ht
    rw [get?_append, hp, Option.bind_some] at hg
    obtain ⟨token, rest, rfl⟩ := List.exists_cons_of_ne_nil hn
    obtain ⟨i, hi, hr⟩ := Option.bind_eq_some_iff.mp hg
    obtain rfl : .string text = i := by
      simp only [step?, Fields.get?_cons] at hi
      split at hi
      case isTrue  => exact Option.some.inj hi
      case isFalse => simp [Fields.get?] at hi
    cases rest with
    | nil =>
      cases hr
      simp [isObject] at hf
    | cons => simp [follow?, step?] at hr

theorem targetAt?_root : j.targetAt? Pointer.root = none := by
  cases ht : j.targetAt? Pointer.root with
  | none   => rfl
  | some q =>
    obtain ⟨_, found, hq, hf⟩ := h.of_targetAt? ht
    obtain ⟨r, hr⟩ := h.settles Pointer.root j rfl
    obtain ⟨n, hn⟩ := hr.exists_rank
    by_cases he : q.tokens = []
    case pos =>
      have he : q = Pointer.root := by
        cases q
        exact congrArg Pointer.mk he
      obtain ⟨m, hm, hn'⟩ := hn.of_jump ht
      have := (he ▸ hn').unique hn
      omega
    case neg =>
      have hq : j.get? (Pointer.root.append q.tokens) = some found := by
        simpa [Pointer.append, Pointer.root] using hq
      exact ht.symm.trans (h.targetAt?_eq_none_of_inside hq hf he)

end PureReferences

def settlesWithin (j : Json) : Nat → Pointer → Bool
  | 0, _     => false
  | n + 1, p =>
    match j.targetAt? p with
    | none   => (j.get? p).any (·.reference?.isNone)
    | some q => j.settlesWithin n q

def isSchema : Json → Bool
  | object _ | bool _ => true
  | _                 => false

def referenceExists (j : Json) : Json → Bool
  | object fields =>
    !Fields.contains fields "$ref" ||
      match fields with
      | [(_, string text)] => ((Pointer.parse? text).bind j.get?).any isSchema
      | _                  => false
  | _ => true

def hasPureReferences (j : Json) : Bool :=
  let nodes := j.nodes Pointer.root
  nodes.all fun (p, found) => j.referenceExists found && j.settlesWithin (nodes.length + 1) p

theorem exists_settles_of_settlesWithin {n : Nat} (h : j.settlesWithin n p = true) :
    ∃ q, j.Settles p q := by
  induction n generalizing p with
  | zero => simp [settlesWithin] at h
  | succ n ih =>
    rw [settlesWithin] at h
    split at h
    case h_1 =>
      obtain ⟨found, hg, hr⟩ := (Option.any_eq_true ..).mp h
      exact ⟨p, .here hg (Option.isNone_iff_eq_none.mp hr)⟩
    case h_2 q ht =>
      obtain ⟨r, hr⟩ := ih h
      exact ⟨r, .jump ht hr⟩

theorem Occurs.exists_mem_nodes (h : found.Occurs j) (place : Pointer) :
    ∃ p, (p, found) ∈ j.nodes place := by
  induction h generalizing place with
  | self => exact ⟨place, self_mem_nodes place found⟩
  | item hm _ ih =>
    obtain ⟨i, hi⟩ := List.mem_iff_getElem?.mp hm
    obtain ⟨p, hp⟩ := ih (place.child (Pointer.ofIndex i))
    exact ⟨p, mem_nodes_of_part (mem_parts_array.mpr ⟨i, rfl, hi⟩) hp⟩
  | field hm _ ih =>
    obtain ⟨p, hp⟩ := ih (place.child _)
    exact ⟨p, mem_nodes_of_part hm hp⟩

theorem occurs_of_mem_nodes {place : Pointer} (h : (p, found) ∈ j.nodes place) : found.Occurs j :=
  nodes_induct (motive := fun j _ => found.Occurs j) h .self fun hp ih => ih.of_part hp

theorem pureReferences_of_hasPureReferences (h : j.hasPureReferences = true) : j.PureReferences := by
  have hall : ∀ entry ∈ j.nodes Pointer.root, _ := List.all_eq_true.mp h
  constructor
  case settles =>
    intro p found hg
    have hc := hall _ (mem_nodes_of_get? hg)
    exact exists_settles_of_settlesWithin ((Bool.and_eq_true _ _).mp hc).right
  case reference =>
    intro fields ho hf
    obtain ⟨p, hp⟩ := ho.exists_mem_nodes Pointer.root
    have hc := ((Bool.and_eq_true _ _).mp (hall _ hp)).left
    simp only [referenceExists, hf, Bool.not_true, Bool.false_or] at hc
    split at hc
    case h_2 => simp at hc
    case h_1 key text =>
      obtain ⟨found, hg, hk⟩ := (Option.any_eq_true ..).mp hc
      obtain ⟨target, ht, hg⟩ := Option.bind_eq_some_iff.mp hg
      have hkey : key = "$ref" := by simpa [Fields.contains, Fields.get?] using hf
      refine ⟨text, target, found, by rw [hkey], ht, hg, ?_⟩
      cases found <;> simp [isSchema, isObject] at hk ⊢

end JsonSchema.Json
