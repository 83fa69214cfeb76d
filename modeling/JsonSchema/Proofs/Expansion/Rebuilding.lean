import JsonSchema.Compiled
import JsonSchema.Proofs.Merge.Stable

namespace JsonSchema

namespace Diagnosed

variable {α β : Type} {P : α → Prop} {Q : β → Prop} {x : Diagnosed α} {f : α → Diagnosed β}

-- What a computation returns, if it does not fail, has a property.
def Returns (x : Diagnosed α) (P : α → Prop) : Prop := ∀ a, x.result = .ok a → P a

theorem returns_pure {a : α} (h : P a) : (Pure.pure a : Diagnosed α).Returns P := by
  intro b hb
  cases hb
  exact h

theorem returns_fail (e : SiblingError) : (Diagnosed.fail e : Diagnosed α).Returns P := by
  intro b hb
  cases hb

theorem result_bind (x : Diagnosed α) (f : α → Diagnosed β) :
    (x >>= f).result = x.result.bind fun a => (f a).result := by
  show (Diagnosed.bind x f).result = _
  unfold Diagnosed.bind
  cases x.result <;> rfl

theorem bind_congr {g : α → Diagnosed β} (h : ∀ a, x.result = .ok a → f a = g a) : x >>= f = x >>= g := by
  show Diagnosed.bind x f = Diagnosed.bind x g
  unfold Diagnosed.bind
  cases hx : x.result
  case error e => rfl
  case ok a    => simp only [h a hx]

theorem Returns.bind (hx : x.Returns P) (hf : ∀ a, P a → (f a).Returns Q) :
    (x >>= f).Returns Q := by
  intro b hb
  rw [result_bind] at hb
  cases ha : x.result
  case error e => simp [ha, Except.bind] at hb
  case ok a    => exact hf a (hx a ha) b (by simpa [ha, Except.bind] using hb)

theorem returns_any : x.Returns fun _ => True :=
  fun _ _ => trivial

theorem Returns.with_result (hx : x.Returns P) : x.Returns fun a => x.result = .ok a ∧ P a :=
  fun a ha => ⟨ha, hx a ha⟩

-- A computation does not fail, and what it returns has a property.
def Yields (x : Diagnosed α) (P : α → Prop) : Prop := ∃ a, x.result = .ok a ∧ P a

theorem yields_pure {a : α} (h : P a) : (Pure.pure a : Diagnosed α).Yields P := ⟨a, rfl, h⟩

theorem yields_report (d : Diagnostic) : (Diagnosed.report d).Yields fun _ => True :=
  ⟨(), rfl, trivial⟩

theorem Yields.bind (hx : x.Yields P) (hf : ∀ a, P a → (f a).Yields Q) : (x >>= f).Yields Q := by
  obtain ⟨a, ha, hp⟩ := hx
  obtain ⟨b, hb, hq⟩ := hf a hp
  exact ⟨b, by rw [result_bind, ha, Except.bind, hb], hq⟩

def Succeeds (x : Diagnosed α) : Prop := x.Yields fun _ => True

theorem Yields.succeeds (h : x.Yields P) : x.Succeeds := by
  obtain ⟨a, ha, _⟩ := h
  exact ⟨a, ha, trivial⟩

theorem Yields.returns (h : x.Yields P) : x.Returns P := by
  obtain ⟨a, ha, hp⟩ := h
  intro b hb
  cases ha.symm.trans hb
  exact hp

theorem Succeeds.yields (h : x.Succeeds) (hr : x.Returns P) : x.Yields P := by
  obtain ⟨a, ha, _⟩ := h
  exact ⟨a, ha, hr a ha⟩

theorem succeeds_pure (a : α) : (Pure.pure a : Diagnosed α).Succeeds := yields_pure trivial

theorem Succeeds.bind (hx : x.Succeeds) (hf : ∀ a, (f a).Succeeds) : (x >>= f).Succeeds :=
  Yields.bind hx fun a _ => hf a

end Diagnosed

open Diagnosed (returns_pure returns_any succeeds_pure)

namespace Json

variable {R : Pointer → Json → Json → Prop} {f : Json → Pointer → Diagnosed Json} {place : Pointer}

structure RebuiltItems (R : Pointer → Json → Json → Prop) (place : Pointer) (index : Nat)
    (items mapped : List Json) : Prop where
  length : mapped.length = items.length
  item {i : Nat} {e : Json} : mapped[i]? = some e →
    ∃ j, items[i]? = some j ∧ R (place.child (Pointer.ofIndex (index + i))) j e

structure RebuiltFields (R : Pointer → Json → Json → Prop) (place : Pointer) (fields mapped : Fields) :
    Prop where
  keys : Fields.keys mapped = Fields.keys fields
  field {k e} : (k, e) ∈ mapped → ∃ j, (k, j) ∈ fields ∧ R (place.child k) j e
  get? {k e} : Fields.get? mapped k = some e → ∃ j, Fields.get? fields k = some j ∧ R (place.child k) j e

theorem mapPostItems_returns {items : List Json} (index : Nat)
    (h : ∀ (i : Nat) j, items[i]? = some j → (j.mapPost f (place.child (Pointer.ofIndex (index + i)))).Returns
      (R (place.child (Pointer.ofIndex (index + i))) j)) :
    (mapPostItems f place index items).Returns (RebuiltItems R place index items) := by
  induction items generalizing index with
  | nil => exact returns_pure ⟨rfl, by simp⟩
  | cons j rest ih =>
    refine (h 0 j rfl).bind fun e he => ?_
    have hr := ih (index + 1) fun i k hk => by
      rw [Nat.add_assoc, Nat.add_comm 1]
      exact h (i + 1) k hk
    refine hr.bind fun mapped hm => returns_pure ⟨congrArg (· + 1) hm.length, fun {i} x hx => ?_⟩
    cases i with
    | zero =>
      cases hx
      exact ⟨j, rfl, he⟩
    | succ i =>
      obtain ⟨k, hk, hx⟩ := hm.item hx
      exact ⟨k, hk, by rwa [Nat.add_assoc, Nat.add_comm 1] at hx⟩

theorem mapPostFields_returns {fields : Fields}
    (h : ∀ k j, (k, j) ∈ fields → (j.mapPost f (place.child k)).Returns (R (place.child k) j)) :
    (mapPostFields f place fields).Returns (RebuiltFields R place fields) := by
  induction fields with
  | nil => exact returns_pure ⟨rfl, by simp, by simp [Fields.get?]⟩
  | cons field rest ih =>
    obtain ⟨key, j⟩ := field
    refine (h key j List.mem_cons_self).bind fun e he => ?_
    have hr := ih fun k i hi => h k i (List.mem_cons_of_mem _ hi)
    refine hr.bind fun mapped hm => returns_pure ⟨congrArg (key :: ·) hm.keys, ?_, ?_⟩
    case refine_1 =>
      intro k x hx
      cases List.mem_cons.mp hx
      case inl hx => cases hx; exact ⟨j, List.mem_cons_self, he⟩
      case inr hx =>
        obtain ⟨i, hi, hx⟩ := hm.field hx
        exact ⟨i, List.mem_cons_of_mem _ hi, hx⟩
    case refine_2 =>
      intro k x hx
      simp only [Fields.get?] at hx ⊢
      split at hx
      case isTrue hk =>
        cases hx
        exact ⟨j, if_pos hk, hk ▸ he⟩
      case isFalse hk =>
        obtain ⟨i, hi, hx⟩ := hm.get? hx
        exact ⟨i, (if_neg hk).trans hi, hx⟩

theorem mapPostItems_congr {g : Json → Pointer → Diagnosed Json} {items : List Json} (index : Nat)
    (h : ∀ (i : Nat) j, items[i]? = some j →
      j.mapPost f (place.child (Pointer.ofIndex (index + i))) =
        j.mapPost g (place.child (Pointer.ofIndex (index + i)))) :
    mapPostItems f place index items = mapPostItems g place index items := by
  induction items generalizing index with
  | nil => rfl
  | cons j rest ih =>
    have hr := ih (index + 1) fun i j hj => by
      rw [Nat.add_assoc, Nat.add_comm 1]
      exact h (i + 1) j hj
    have hj : j.mapPost f (place.child (Pointer.ofIndex index)) =
        j.mapPost g (place.child (Pointer.ofIndex index)) :=
      h 0 j rfl
    simp only [mapPostItems, hj, hr]

theorem mapPostFields_congr {g : Json → Pointer → Diagnosed Json} {fields : Fields}
    (h : ∀ k j, (k, j) ∈ fields → j.mapPost f (place.child k) = j.mapPost g (place.child k)) :
    mapPostFields f place fields = mapPostFields g place fields := by
  induction fields with
  | nil => rfl
  | cons field rest ih =>
    obtain ⟨k, j⟩ := field
    have hr := ih fun k i hi => h k i (List.mem_cons_of_mem _ hi)
    simp only [mapPostFields, h k j List.mem_cons_self, hr]

end Json

theorem Expansion.Source.find?_cases {source : Expansion.Source} {target : Pointer} {j : Json}
    (h : source.find? target = some j) :
    (∃ p, source.schema.get? p = some j) ∨ ∃ p, source.library.get? p = some j := by
  unfold find? at h
  split at h
  case isTrue => exact .inl ⟨.root, h⟩
  case isFalse =>
    split at h
    case h_1 hl => cases h; exact .inr ⟨_, hl⟩
    case h_2 =>
      obtain ⟨⟨_, p⟩, hf, rfl⟩ := Option.map_eq_some_iff.mp h
      simp only [Json.firstOf?] at hf
      split at hf
      case h_1 hg => cases hf; exact .inl ⟨_, hg⟩
      case h_2 =>
        split at hf
        case h_1 hg => cases hf; exact .inl ⟨_, hg⟩
        case h_2    => simp at hf

namespace Merge.Stable

open Expansion (foldAllOf? relocateRequired withSiblings tidy)

variable {A : String → Json → Prop} (ha : Stable A) {fields : Fields} {options : Options} {place : Pointer}

include ha

theorem modify {key k : String} {f : Json → Json} (h : A key (.object fields))
    (hf : ∀ j, A k j → A k (f j)) : A key (.object (Fields.modify k f fields)) := by
  rw [Fields.modify_eq_map]
  refine ha.map (f := fun l j => if l = k then f j else j) h fun l j hj => ?_
  have hj := ha.field h hj
  split
  case isTrue hl => exact hl ▸ hf j (hl ▸ hj)
  case isFalse   => exact hj

theorem foldAllOf? {members : List Json} {j : Json} (hf : A "" (.object fields))
    (hm : ∀ j ∈ members, A "" j) (h : foldAllOf? fields members = some j) : A "" j := by
  simp only [Expansion.foldAllOf?] at h
  refine ha.tryMerge? "" _ _ (fun i hi => ?_) h
  cases List.mem_append.mp hi
  case inl hi => exact hm i hi
  case inr hi =>
    split at hi
    case isTrue  => simp at hi
    case isFalse => exact List.mem_singleton.mp hi ▸ ha.erase "allOf" hf

theorem relocateRequired (h : A "" (.object fields)) : A "" (.object (relocateRequired fields)) := by
  unfold Expansion.relocateRequired
  split
  case h_2 => exact h
  case h_1 names hn =>
    split
    case isFalse => exact h
    case isTrue =>
      dsimp only
      split
      case h_2 => exact h
      case h_1 =>
        refine ha.modify (ha.erase "required" h) fun item hi => ?_
        split
        case h_1 => exact ha.insert hi (ha.get? h hn)
        case h_2 => exact hi

theorem withSiblings {policy : SiblingPolicy} {expanded : Json} (he : A "" expanded)
    (h : A "" (.object (Fields.erase "$ref" fields))) :
    (withSiblings policy place expanded fields).Returns (A "") := by
  have hm {others : Fields} (ho : A "" (.object others)) :
      A "" (Merge.mergeAll [expanded, .object others]) :=
    ha.mergeAll (by simp only [List.forall_mem_cons]; exact ⟨he, ho, by simp⟩)
  simp only [Expansion.withSiblings]
  split
  case isTrue => exact returns_pure he
  case isFalse =>
    split
    case isTrue => exact returns_pure (hm h)
    case isFalse =>
      split
      case h_1 => exact returns_pure (hm h)
      case h_2 => exact returns_any.bind fun _ _ => returns_pure (hm (ha.filter _ h))
      case h_3 => exact Diagnosed.returns_fail _

theorem tidy (h : A "" (.object fields)) : (tidy options place fields).Returns (A "") := by
  have hr {others : Fields} (ho : A "" (.object others)) :
      A "" (.object <| if options.relocateArrayRequired then Expansion.relocateRequired others else others) := by
    split
    case isTrue  => exact ha.relocateRequired ho
    case isFalse => exact ho
  simp only [Expansion.tidy]
  split
  case h_2 => exact returns_pure (hr h)
  case h_1 members _ hm =>
    have hm (j : Json) (hj : j ∈ members) : A "" j := ha.item (ha.get? h hm) hj
    split
    case h_1 folded hf => exact returns_pure (hr (ha.foldAllOf? h hm hf))
    case h_2 hf        => exact returns_pure (ha.foldAllOf? h hm hf)
    case h_3           => exact returns_any.bind fun _ _ => returns_pure (hr h)

end Merge.Stable

namespace Expansion

variable {fields : Fields} {options : Options} {place : Pointer}

-- What is beside a reference can only make an object of its target.
theorem withSiblings_cases (policy : SiblingPolicy) (expanded : Json) :
    (withSiblings policy place expanded fields).Returns fun e =>
      e = expanded ∨ ∃ fields, e = .object fields := by
  have hm (others : Fields) : Merge.mergeAll [expanded, .object others] = expanded ∨
      ∃ fields, Merge.mergeAll [expanded, .object others] = .object fields := by
    obtain h | h := Merge.mergeAll_cases [expanded, .object others]
    case inr => exact .inr h
    case inl => simpa [or_assoc] using (List.mem_cons.mp h).imp_right fun h => ⟨others, List.mem_singleton.mp h⟩
  simp only [withSiblings]
  split
  case isTrue => exact returns_pure (.inl rfl)
  case isFalse =>
    split
    case isTrue => exact returns_pure (hm _)
    case isFalse =>
      split
      case h_1 => exact returns_pure (hm _)
      case h_2 => exact returns_any.bind fun _ _ => returns_pure (hm _)
      case h_3 => exact Diagnosed.returns_fail _

theorem tidy_cases :
    (tidy options place fields).Returns fun e =>
      (∃ fields, e = .object fields) ∨ options.combineAllOf = true ∧
        ∃ members, Fields.get? fields "allOf" = some (.array members) ∧ e ∈ members := by
  simp only [tidy]
  split
  case h_2 => exact returns_pure (.inl ⟨_, rfl⟩)
  case h_1 members hc hm =>
    split
    case h_1 => exact returns_pure (.inl ⟨_, rfl⟩)
    case h_3 => exact returns_any.bind fun _ _ => returns_pure (.inl ⟨_, rfl⟩)
    case h_2 j hf =>
      refine returns_pure ?_
      simp only [foldAllOf?] at hf
      obtain h | h := Merge.tryMerge?_cases hf
      case inr => exact .inl h
      case inl =>
        cases List.mem_append.mp h
        case inl h => exact .inr ⟨hc, members, hm, h⟩
        case inr h =>
          split at h
          case isTrue  => simp at h
          case isFalse => exact .inl ⟨_, List.mem_singleton.mp h⟩

end Expansion

namespace Json

variable {R : Pointer → Json → Json → Prop} {f : Json → Pointer → Diagnosed Json} {place : Pointer}
  {items : List Json} {fields : Fields}

theorem mapPostItems_succeeds (index : Nat) (h : ∀ j ∈ items, ∀ place, (j.mapPost f place).Succeeds) :
    (mapPostItems f place index items).Succeeds := by
  induction items generalizing index with
  | nil => exact succeeds_pure []
  | cons j rest ih =>
    have ⟨hj, hr⟩ := List.forall_mem_cons.mp h
    exact (hj _).bind fun _ => (ih (index + 1) hr).bind fun _ => succeeds_pure _

theorem mapPostFields_succeeds (h : ∀ k j, (k, j) ∈ fields → ∀ place, (j.mapPost f place).Succeeds) :
    (mapPostFields f place fields).Succeeds := by
  induction fields with
  | nil => exact succeeds_pure []
  | cons field rest ih =>
    obtain ⟨key, j⟩ := field
    have hr := ih fun k j hj => h k j (List.mem_cons_of_mem _ hj)
    exact (h key j List.mem_cons_self _).bind fun _ => hr.bind fun _ => succeeds_pure _

theorem mapPost_succeeds (hf : ∀ j place, (f j place).Succeeds) (j : Json) (place : Pointer) :
    (j.mapPost f place).Succeeds := by
  induction j using Json.induct generalizing place
  case null | bool | number | string => exact hf _ place
  case array items ih  => exact (mapPostItems_succeeds 0 ih).bind fun _ => hf _ place
  case object fields ih => exact (mapPostFields_succeeds ih).bind fun _ => hf _ place

theorem mapPostItems_yields (h : ∀ j ∈ items, ∀ place, (j.mapPost f place).Yields (R place j)) :
    (mapPostItems f place 0 items).Yields (RebuiltItems R place 0 items) :=
  (mapPostItems_succeeds 0 fun j hj place => (h j hj place).succeeds).yields <|
    mapPostItems_returns 0 fun _ j hj => (h j (List.mem_of_getElem? hj) _).returns

theorem mapPostFields_yields (h : ∀ k j, (k, j) ∈ fields → ∀ place, (j.mapPost f place).Yields (R place j)) :
    (mapPostFields f place fields).Yields (RebuiltFields R place fields) :=
  (mapPostFields_succeeds fun k j hj place => (h k j hj place).succeeds).yields <|
    mapPostFields_returns fun k j hj => (h k j hj _).returns

end Json

namespace Expansion

variable {options : Options}

theorem withSiblings_succeeds {policy : SiblingPolicy} (h : policy ≠ .reject) (place : Pointer)
    (expanded : Json) (fields : Fields) : (withSiblings policy place expanded fields).Succeeds := by
  simp only [withSiblings]
  split
  case isTrue => exact succeeds_pure _
  case isFalse =>
    split
    case isTrue => exact succeeds_pure _
    case isFalse =>
      split
      case h_1 => exact succeeds_pure _
      case h_2 => exact (Diagnosed.yields_report _).bind fun _ _ => succeeds_pure _
      case h_3 => exact absurd rfl h

theorem tidy_succeeds (options : Options) (place : Pointer) (fields : Fields) :
    (tidy options place fields).Succeeds := by
  simp only [tidy]
  split
  case h_2 => exact succeeds_pure _
  case h_1 =>
    split
    case h_1 => exact succeeds_pure _
    case h_2 => exact succeeds_pure _
    case h_3 => exact (Diagnosed.yields_report _).bind fun _ _ => succeeds_pure _

theorem rebuild_succeeds (h : options.siblings ≠ .reject) {expand : Pointer → Diagnosed (Option Json)}
    (hexp : ∀ target, (expand target).Succeeds) (used : List Pointer) (j : Json) (place : Pointer) :
    (rebuild options used expand j place).Succeeds := by
  unfold rebuild
  split
  case h_2 => exact succeeds_pure _
  case h_1 fields =>
    split
    case h_2 => exact (Diagnosed.yields_report _).bind fun _ _ => tidy_succeeds ..
    case h_3 => exact tidy_succeeds ..
    case h_1 target _ =>
      refine (hexp target).bind fun found => ?_
      cases found with
      | none          => exact (Diagnosed.yields_report _).bind fun _ _ => succeeds_pure _
      | some expanded => exact withSiblings_succeeds h ..

theorem expandAlong_succeeds (h : options.siblings ≠ .reject) (s : Source) (depth : Nat)
    (used : List Pointer) (target : Pointer) : (expandAlong s options depth used target).Succeeds := by
  induction depth generalizing used target with
  | zero => exact succeeds_pure none
  | succ depth ih =>
    simp only [expandAlong]
    split
    case h_1 => exact succeeds_pure none
    case h_2 node _ =>
      exact (Json.mapPost_succeeds (rebuild_succeeds h (ih _) _) node target).bind fun _ => succeeds_pure _

end Expansion

end JsonSchema
