import JsonSchema.Proofs.Merge.Rules

namespace JsonSchema.Merge

open Validator

variable {merge : List Json → Option Json}

-- Two schemas, each of which may be missing, and what they are merged to: a relation that holds of the
-- schemas that merging makes, as far as the given ones are fit for it.
structure Combines (merge : List Json → Option Json) (Fit : Json → Prop)
    (J : (left right merged : Option Json) → Prop) : Prop where
  symm {left right merged} : J left right merged → J right left merged
  nothing : J none none none
  equal {a b} : Fit a → Fit b → a.canonical = b.canonical → J (some a) (some b) (some a)
  conjoin {a b} : Fit a → Fit b → J (some a) (some b) (some (Merge.conjoin merge [a, b]))
  schema {a b merged} :
    Fit a → Fit b → Merge.mergeSchema? merge a b = some merged → J (some a) (some b) (some merged)
  free {s additional} :
    Fit s → (∀ a ∈ additional, Fit a) → limitsOthers additional = false →
      J (some s) additional (some s)
  refused {s other others} :
    J other (some (.bool false)) others → J (some s) (some (.bool false)) others

-- The schema of a property that only one side lists, under the `additionalProperties` of the other.
def restricted? (join : Json → Json → Json) (additional : Option Json) (property : Json) : Option Json :=
  match additional with
  | some (.bool false)   => none
  | some (.object extra) => some (join property (.object extra))
  | _                    => some property

theorem get?_restrictListed (merge : List Json → Option Json) (additional : Option Json) (added existing : Fields)
    (name : String) :
    Fields.get? (restrictListed merge additional added existing) name =
      if Fields.contains added name then Fields.get? existing name
      else (Fields.get? existing name).bind
        (restricted? (fun property extra => conjoin merge [property, extra]) additional) := by
  unfold restrictListed
  split
  case h_1 =>
    split
    case isTrue hc  => exact Fields.get?_filter fun _ => hc
    case isFalse hc =>
      rw [Fields.get?_filter_of_false fun _ => by simpa using hc]
      cases Fields.get? existing name <;> rfl
  case h_2 extra =>
    have hg := Fields.get?_map
      (fun k j => if Fields.contains added k then j else conjoin merge [j, .object extra]) existing name
    rw [← restrictListed_object merge extra added existing] at hg
    refine hg.trans ?_
    split
    case isTrue  => simp
    case isFalse => cases Fields.get? existing name <;> simp [restricted?]
  case h_3 hf ho =>
    have hn property :
        restricted? (fun property extra => conjoin merge [property, extra]) additional property =
          some property := by
      unfold restricted?
      split
      case h_1 => exact absurd rfl hf
      case h_2 => exact absurd rfl (ho _)
      case h_3 => rfl
    split
    case isTrue  => rfl
    case isFalse => cases Fields.get? existing name <;> simp [hn]

def Added (merge : List Json → Option Json) (additional : Option Json) (name : String) :
    Option Json → Json → Option Json → Prop
  | some existing, property, merged =>
    United (Merge.mergeSchema? merge) name (some existing) property merged
  | none, property, merged =>
    merged = restricted? (fun property extra => conjoin merge [extra, property]) additional property

theorem Added.united {name : String} {left merged : Option Json} {property : Json}
    (h : Added merge none name left property merged) :
    United (Merge.mergeSchema? merge) name left property merged := by
  cases left <;> exact h

theorem updates_addProperties? {additional : Option Json} {listed added merged : Fields}
    (h : addProperties? merge additional listed added = some merged) :
    Fields.Updates (Added merge additional) listed added merged := by
  induction added generalizing listed with
  | nil =>
    cases h
    exact .nil
  | cons field rest ih =>
    obtain ⟨name, property⟩ := field
    simp only [addProperties?] at h
    split at h
    case h_1 existing he =>
      split at h
      case isTrue hs  => exact .keep (by simp [he, Added, United, hs]) (ih h)
      case isFalse hs =>
        split at h
        case h_2 => simp at h
        case h_1 combined hc => exact .insert (by simp [he, Added, United, hs, hc]) (ih h)
    case h_2 hn =>
      split at h
      case h_1 => exact .keep (by simp [hn, Added, restricted?]) (ih h)
      case h_2 => exact .insert (by simp [hn, Added, restricted?]) (ih h)
      case h_3 hf ho =>
        refine .insert ?_ (ih h)
        simp only [hn, Added, restricted?]

section Combines

variable {Fit : Json → Prop} {J : (left right merged : Option Json) → Prop}
variable (hc : Combines merge Fit J)

include hc

theorem Combines.united {key : String} {left merged : Option Json} {s : Json}
    (h : United (Merge.mergeSchema? merge) key left s merged) (hl : ∀ v ∈ left, Fit v) (hs : Fit s) :
    J left (some s) merged := by
  refine h.elim (P := (J · (some s) ·)) ?alone ?same ?combined
  case alone    => exact hc.symm (hc.free hs (by simp) rfl)
  case same     => exact fun v hv he => hc.equal (hl v hv) hs (Json.canonical_eq_of_same he)
  case combined => exact fun v hv _ he => hc.schema (hl v hv) hs he

theorem Combines.restricted {join : Json → Json → Json} {property : Json}
    {additional other others : Option Json} (hp : Fit property) (ha : ∀ s ∈ additional, Fit s)
    (hj : ∀ s ∈ additional, J (some property) additional (some (join property s)))
    (ho : J other additional others) :
    J (some property) additional ((restricted? join additional property).or others) := by
  unfold restricted?
  split
  case h_1       => exact hc.refused ho
  case h_2 extra => exact hj _ rfl
  case h_3 hf ho =>
    have hl : limitsOthers additional = false := by
      unfold limitsOthers
      split
      case h_1 => exact absurd rfl hf
      case h_2 => exact absurd rfl (ho _)
      case h_3 => rfl
    exact hc.free hp ha hl

theorem Combines.property {earlier later others : Option Json} {existing added merged : Fields}
    (he : ∀ s ∈ earlier, Fit s) (hl : ∀ s ∈ later, Fit s) (ho : J earlier later others)
    (hex : ∀ name, ∀ s ∈ Fields.get? existing name, Fit s)
    (had : ∀ name, ∀ s ∈ Fields.get? added name, Fit s) (hs : Fields.Sorted added)
    (h : Merge.addProperties? merge earlier (restrictListed merge later added existing) added =
      some merged) (name : String) :
    J ((Fields.get? existing name).or earlier) ((Fields.get? added name).or later)
      ((Fields.get? merged name).or others) := by
  have hu := updates_addProperties? h
  have hr := get?_restrictListed merge later added existing name
  cases ha : Fields.get? added name with
  | none =>
    have hn : Fields.contains added name = false := by simp [Fields.contains, ha]
    rw [hu.get?_of_none ha, hr]
    cases hb : Fields.get? existing name with
    | none          => simpa [hn] using ho
    | some property =>
      have hp := hex name property hb
      simp only [hn, Bool.false_eq_true, if_false, Option.bind_some, Option.some_or, Option.none_or]
      refine hc.restricted hp hl (fun s hs => ?_) ho
      rw [hs]
      exact hc.conjoin hp (hl s hs)
  | some property =>
    have hp := had name property ha
    have hm : Fields.contains added name = true := by simp [Fields.contains, ha]
    have hn := hu.get?_of_get? hs ha
    rw [hr] at hn
    simp only [hm, if_true] at hn
    cases hb : Fields.get? existing name with
    | none =>
      rw [hb] at hn
      simp only [Added] at hn
      rw [hn]
      refine hc.symm (hc.restricted hp he (fun s hs => ?_) (hc.symm ho))
      rw [hs]
      exact hc.symm (hc.conjoin (he s hs) hp)
    | some found =>
      rw [hb] at hn
      have hn : United (Merge.mergeSchema? merge) name (some found) property
          (Fields.get? merged name) := hn
      have hj := hc.united hn (by simpa using hex name found hb) hp
      obtain ⟨s, hs⟩ := hn.exists_eq_some
      rw [hs] at hj ⊢
      exact hj

end Combines

theorem Conjoins.joint_conjoin (hm : Conjoins merge) {a b : Json} (ha : Core a ∧ a.WellFormed)
    (hb : Core b ∧ b.WellFormed) :
    Joint Core Accepts (some a) (some b) (some (Merge.conjoin merge [a, b])) := by
  have h := hm.conjoin_pair ha hb
  refine .some_of h.core fun j hj => ?_
  simpa using h.accepts j hj

theorem joint_false_left {right : Option Json} :
    Joint Core Accepts (some (.bool false)) right (some (.bool false)) where
  fit  := by simp [Core.bool]
  means := fun j hj => by simp [accepts_bool hj]

theorem joint_false_right {left : Option Json} :
    Joint Core Accepts left (some (.bool false)) (some (.bool false)) where
  fit  := by simp [Core.bool]
  means := fun j hj => by simp [accepts_bool hj]

theorem Conjoins.mergeSchema? (hm : Conjoins merge) {a b merged : Json} (ha : Core a ∧ a.WellFormed)
    (hb : Core b ∧ b.WellFormed) (h : Merge.mergeSchema? merge a b = some merged) :
    Joint Core Accepts (some a) (some b) (some merged) := by
  have ht {s : Json} (hs : s ∈ some (.bool true)) (j : Json) (hj : j.Instance) : Accepts s j := by
    cases hs
    exact (accepts_bool hj true).mpr rfl
  unfold Merge.mergeSchema? at h
  split at h <;> cases h
  case h_1 => exact joint_false_left
  case h_2 => exact joint_false_right
  case h_3 => exact .right_of (by simpa using hb.left) fun _ => ht
  case h_4 => exact .left_of (by simpa using ha.left) fun _ => ht
  case h_5 => exact hm.joint_conjoin ha hb

theorem accepts_of_not_limitsOthers {additional : Option Json} (hc : ∀ s ∈ additional, Core s)
    (hl : limitsOthers additional = false) : ∀ s ∈ additional, ∀ j, j.Instance → Accepts s j := by
  rintro s rfl j hj
  cases hc s rfl
  case bool b =>
    cases b <;> simp [limitsOthers] at hl
    exact (accepts_bool hj true).mpr rfl
  case object => simp [limitsOthers] at hl

theorem Conjoins.combines (hm : Conjoins merge) :
    Combines merge (fun s => Core s ∧ s.WellFormed) (Joint Core Accepts) where
  symm h         := h.symm
  nothing        := ⟨by simp, by simp⟩
  conjoin ha hb  := hm.joint_conjoin ha hb
  schema ha hb h := hm.mergeSchema? ha hb h
  free hs ha hl  :=
    .left_of (by simpa using hs.left) (accepts_of_not_limitsOthers (fun s h => (ha s h).left) hl)
  equal {a b} ha hb h := by
    refine .some_of ha.left fun j hj => ?_
    rw [ha.left.canonical b j ha.right hb.left hb.right h hj, and_self]
  refused h := by
    refine ⟨h.fit, fun j hj => ?_⟩
    have h := h.means j hj
    simp only [Option.mem_def, Option.some.injEq, forall_eq', accepts_bool hj] at h ⊢
    simpa using h

end JsonSchema.Merge
