import JsonSchema.Proofs.Expansion.Rebuilding
import JsonSchema.Proofs.Json.Walk
import JsonSchema.Proofs.Pointer.Table

namespace JsonSchema.Expansion

open Diagnosed (returns_pure returns_any)

-- What may become of a node if it becomes no object: itself, what its reference leads to, or a member
-- of its `allOf`.
inductive StandsFor (s : Source) (options : Options) : Json → Json → Prop
  | self (j : Json) : StandsFor s options j j
  | reference {fields value text target found j} :
    Fields.get? fields "$ref" = some value → StandsFor s options value (.string text) →
      Pointer.parse? text = some target → s.find? target = some found →
      StandsFor s options found j → StandsFor s options (.object fields) j
  | member {fields value members m j} :
    options.combineAllOf = true → Fields.get? fields "allOf" = some value →
      StandsFor s options value (.array members) → m ∈ members → StandsFor s options m j →
      StandsFor s options (.object fields) j

mutual
-- A text that a node is rebuilt to is one that the node stands for, and the items of an array come from
-- those of an array that it stands for.
inductive Shows (s : Source) (options : Options) : Json → Json → Prop
  | text {j t} : StandsFor s options j (.string t) → Shows s options j (.string t)
  | array {j members items} :
    StandsFor s options j (.array members) → (∀ e ∈ items, ShowsMember s options members e) →
      Shows s options j (.array items)
  | object {j} (fields : Fields) : Shows s options j (.object fields)
  | null {j}                     : Shows s options j .null
  | bool {j} (b : Bool)          : Shows s options j (.bool b)
  | number {j} (n : Number)      : Shows s options j (.number n)

inductive ShowsMember (s : Source) (options : Options) : List Json → Json → Prop
  | intro {members m e} : m ∈ members → Shows s options m e → ShowsMember s options members e
end

variable {s : Source} {options : Options} {used : List Pointer} {place p : Pointer} {i j e : Json}
  {fields mapped : Fields} {expand : Pointer → Diagnosed (Option Json)}

namespace Shows

theorem standsFor {t : String} (h : Shows s options j (.string t)) : StandsFor s options j (.string t) := by
  cases h
  case text h => exact h

theorem mono (h : Shows s options i e) (hj : ∀ v, StandsFor s options i v → StandsFor s options j v) :
    Shows s options j e := by
  cases h with
  | text h        => exact .text (hj _ h)
  | array h hi    => exact .array (hj _ h) hi
  | object fields => exact .object fields
  | null          => exact .null
  | bool b        => exact .bool b
  | number n      => exact .number n

end Shows

def ShowsTargets (s : Source) (options : Options) (expand : Pointer → Diagnosed (Option Json)) : Prop :=
  ∀ target, (expand target).Returns fun r =>
    ∀ e, r = some e → ∃ found, s.find? target = some found ∧ Shows s options found e

theorem referenceOf_eq_target_iff {target : Pointer} : referenceOf used place fields = .target target ↔
    ∃ text, Fields.get? fields "$ref" = some (.string text) ∧ Pointer.parse? text = some target ∧
      leadsBack used place target = false := by
  constructor
  case mp =>
    intro h
    unfold referenceOf at h
    split at h
    case h_2 => cases h
    case h_1 text ht =>
      split at h
      case h_2 => cases h
      case h_1 hp =>
        split at h
        case isTrue => cases h
        case isFalse hl =>
          cases h
          obtain ⟨value, hv, hs⟩ := Option.bind_eq_some_iff.mp ht
          cases value <;> simp [Json.asString?] at hs
          exact ⟨text, hs ▸ hv, hp, Bool.eq_false_iff.mpr hl⟩
  case mpr =>
    rintro ⟨text, hg, hp, hl⟩
    simp [referenceOf, hg, Json.asString?, hp, hl]

theorem rebuild_shows (hexp : ShowsTargets s options expand)
    (hm : Json.RebuiltFields (fun _ => Shows s options) place fields mapped) :
    (rebuild options used expand (.object mapped) place).Returns (Shows s options (.object fields)) := by
  have htidy : (tidy options place mapped).Returns (Shows s options (.object fields)) := by
    intro e he
    obtain ⟨_, rfl⟩ | ⟨hc, members, hg, hme⟩ := tidy_cases e he
    case inl => exact .object _
    case inr =>
      obtain ⟨value, hv, hs⟩ := hm.get? hg
      cases hs with
      | array hs hi =>
        obtain ⟨hmm, hme⟩ := hi e hme
        exact hme.mono fun _ h => .member hc hv hs hmm h
  simp only [rebuild]
  split
  case h_2 => exact returns_any.bind fun _ _ => htidy
  case h_3 => exact htidy
  case h_1 target ht =>
    obtain ⟨text, hg, hp, _⟩ := referenceOf_eq_target_iff.mp ht
    obtain ⟨value, hv, hs⟩ := hm.get? hg
    refine (hexp target).bind fun r hr => ?_
    cases r with
    | none => exact returns_any.bind fun _ _ => returns_pure (.object _)
    | some expanded =>
      obtain ⟨found, hf, he⟩ := hr expanded rfl
      intro e hw
      obtain rfl | ⟨_, rfl⟩ := withSiblings_cases _ _ e hw
      case inl => exact he.mono fun _ h => .reference hv hs.standsFor hp hf h
      case inr => exact .object _

-- The induction is on the node, whose parts are rebuilt before it.
theorem mapPost_shows (hexp : ShowsTargets s options expand) (j : Json) (place : Pointer) :
    (j.mapPost (rebuild options used expand) place).Returns (Shows s options j) := by
  induction j using Json.induct generalizing place
  case null     => exact returns_pure .null
  case bool b   => exact returns_pure (.bool b)
  case number n => exact returns_pure (.number n)
  case string t => exact returns_pure (.text (.self _))
  case array items ih =>
    have hr : (Json.mapPostItems (rebuild options used expand) place 0 items).Returns
        (Json.RebuiltItems (fun _ => Shows s options) place 0 items) :=
      Json.mapPostItems_returns 0 fun i j hj => ih j (List.mem_of_getElem? hj) _
    refine hr.bind fun mapped hm => returns_pure (.array (.self _) fun e he => ?_)
    obtain ⟨i, hi⟩ := List.mem_iff_getElem?.mp he
    obtain ⟨j, hj, hs⟩ := hm.item hi
    exact ⟨List.mem_of_getElem? hj, hs⟩
  case object fields ih =>
    have hr : (Json.mapPostFields (rebuild options used expand) place fields).Returns
        (Json.RebuiltFields (fun _ => Shows s options) place fields) :=
      Json.mapPostFields_returns fun k j hj => ih k j hj _
    exact hr.bind fun mapped hm => rebuild_shows hexp hm

theorem mapPostFields_shows (hexp : ShowsTargets s options expand) :
    (Json.mapPostFields (rebuild options used expand) place fields).Returns
      (Json.RebuiltFields (fun _ => Shows s options) place fields) :=
  Json.mapPostFields_returns fun k j _ => mapPost_shows hexp j (place.child k)

theorem expandAlong_shows (s : Source) (options : Options) (depth : Nat) (used : List Pointer) :
    ShowsTargets s options (expandAlong s options depth used) := by
  induction depth generalizing used with
  | zero => exact fun _ => returns_pure (by simp)
  | succ depth ih =>
    intro target
    simp only [expandAlong]
    split
    case h_1 => exact returns_pure (by simp)
    case h_2 node hn =>
      refine (mapPost_shows (ih _) node target).bind fun expanded he => returns_pure ?_
      simpa using ⟨node, hn, he⟩

def Source.Has (s : Source) (j : Json) : Prop :=
  j.Occurs s.schema ∨ ∃ p document, s.library.get? p = some document ∧ j.Occurs document

-- A pointer is the text of a reference, perhaps one that an object stands for.
def Source.Names (s : Source) (options : Options) (p : Pointer) : Prop :=
  ∃ fields value text, s.Has (.object fields) ∧ Fields.get? fields "$ref" = some value ∧
    StandsFor s options value (.string text) ∧ Pointer.parse? text = some p

theorem Source.Has.of_occurs (h : s.Has j) (hi : i.Occurs j) : s.Has i := by
  obtain h | ⟨p, document, hd, h⟩ := h
  case inl => exact .inl (hi.trans h)
  case inr => exact .inr ⟨p, document, hd, hi.trans h⟩

theorem Source.Has.get? (h : s.Has (.object fields)) {key : String}
    (hv : Fields.get? fields key = some j) : s.Has j :=
  h.of_occurs (.field (Fields.mem_of_get? hv) .self)

theorem Source.has_of_find? (h : s.find? p = some j) : s.Has j := by
  obtain ⟨_, h⟩ | ⟨q, h⟩ := Source.find?_cases h
  case inl => exact .inl (Json.occurs_of_follow? h)
  case inr => exact .inr ⟨q, j, h, .self⟩

theorem StandsFor.has (h : StandsFor s options i j) (hi : s.Has i) : s.Has j := by
  induction h with
  | self => exact hi
  | reference _ _ _ hf _ _ ih        => exact ih (Source.has_of_find? hf)
  | member _ hv _ hm _ ihv ihm => exact ihm ((ihv (hi.get? hv)).of_occurs (.item hm .self))

theorem mem_pointersIn_of_occurs {j : Json} {text : String} {p : Pointer}
    (h : (Json.string text).Occurs j) (hp : Pointer.parse? text = some p) : p ∈ pointersIn j := by
  have hitems {items : List Json} {j : Json} (hj : j ∈ items) (hp : p ∈ pointersIn j) :
      p ∈ pointersInItems items := by
    induction items with
    | nil => simp at hj
    | cons first rest ih =>
      rw [pointersInItems, List.mem_append]
      cases List.mem_cons.mp hj
      case inl he => exact .inl (he ▸ hp)
      case inr hm => exact .inr (ih hm)
  have hfields {fields : Fields} {key : String} {j : Json} (hj : (key, j) ∈ fields)
      (hp : p ∈ pointersIn j) : p ∈ pointersInFields fields := by
    induction fields with
    | nil => simp at hj
    | cons first rest ih =>
      obtain ⟨k, i⟩ := first
      rw [pointersInFields, List.mem_append]
      cases List.mem_cons.mp hj
      case inl he => cases he; exact .inl hp
      case inr hm => exact .inr (ih hm)
  induction h with
  | self          => simp [pointersIn, hp]
  | item hm _ ih  => exact hitems hm ih
  | field hm _ ih => exact hfields hm ih

def Source.pointers (s : Source) : List Pointer :=
  pointersIn s.schema ++ s.library.entries.flatMap fun (_, j) => pointersIn j

theorem Source.length_pointers (s : Source) : s.pointers.length + 2 = depthBound s := by
  simp [pointers, depthBound]

theorem Source.Names.mem_pointers (h : s.Names options p) : p ∈ s.pointers := by
  obtain ⟨fields, value, text, hf, hv, hs, hp⟩ := h
  refine List.mem_append.mpr ?_
  obtain ho | ⟨q, document, hd, ho⟩ := hs.has (hf.get? hv)
  case inl => exact .inl (mem_pointersIn_of_occurs ho hp)
  case inr =>
    exact .inr (List.mem_flatMap.mpr
      ⟨(q, document), PointerTable.mem_of_get? hd, mem_pointersIn_of_occurs ho hp⟩)

end JsonSchema.Expansion
