import JsonSchema.Proofs.Merge.Keys

namespace JsonSchema.Merge

variable {merge : List Json → Option Json}

mutual
-- The levels that a merge may go down into a schema, the schema itself included.
def reach : Json → Nat
  | .object fields => reachFields fields + 1
  | .array items   => reachItems items + 1
  | _              => 1

def reachFields : List (String × Json) → Nat
  | []                       => 0
  | (keyword, value) :: rest => max (reachBelow (Rule.ofKeyword keyword) value) (reachFields rest)

-- The levels below a keyword. The members of an `allOf` are merged with each other, so theirs add up.
def reachBelow : Rule → Json → Nat
  | .conjunction, .array members   => reachSum members
  | .items, .array slots           => reachItems slots
  | .items, .object fields         => reachFields fields + 1
  | .schema, .object fields        => reachFields fields + 1
  | .schema, .array items          => reachItems items + 1
  | .schema, _                     => 1
  | .patterns, .object schemas     => reachValues schemas
  | .dependencies, .object schemas => reachValues schemas
  | .properties, .object schemas   => reachValues schemas
  | _, _                           => 0

def reachSum : List Json → Nat
  | []        => 0
  | s :: rest => reach s + reachSum rest

def reachItems : List Json → Nat
  | []        => 0
  | s :: rest => max (reach s) (reachItems rest)

def reachValues : List (String × Json) → Nat
  | []             => 0
  | (_, s) :: rest => max (reach s) (reachValues rest)
end

theorem reach_pos (s : Json) : 0 < reach s := by
  cases s <;> simp [reach]

theorem reachBelow_schema (s : Json) : reachBelow .schema s = reach s := by
  cases s <;> simp [reachBelow, reach]

theorem reachBelow_items_le (s : Json) : reachBelow .items s ≤ reach s := by
  cases s <;> simp [reachBelow, reach]

theorem reachFields_le_iff {fields : Fields} {n : Nat} : reachFields fields ≤ n ↔
    ∀ keyword value, (keyword, value) ∈ fields → reachBelow (Rule.ofKeyword keyword) value ≤ n := by
  induction fields with
  | nil => simp [reachFields]
  | cons field rest ih =>
    obtain ⟨keyword, value⟩ := field
    rw [reachFields, Nat.max_le, ih]
    simp [or_imp, forall_and]

theorem reachValues_le_iff {schemas : Fields} {n : Nat} :
    reachValues schemas ≤ n ↔ ∀ name s, (name, s) ∈ schemas → reach s ≤ n := by
  induction schemas with
  | nil => simp [reachValues]
  | cons field rest ih =>
    obtain ⟨name, s⟩ := field
    rw [reachValues, Nat.max_le, ih]
    simp [or_imp, forall_and]

theorem reachItems_le_iff {slots : List Json} {n : Nat} :
    reachItems slots ≤ n ↔ ∀ s ∈ slots, reach s ≤ n := by
  induction slots with
  | nil             => simp [reachItems]
  | cons s rest ih => rw [reachItems, Nat.max_le, ih, List.forall_mem_cons]

theorem reachSum_append (left right : List Json) :
    reachSum (left ++ right) = reachSum left + reachSum right := by
  induction left with
  | nil            => simp [reachSum]
  | cons s rest ih => simp [reachSum, ih, Nat.add_assoc]

theorem reachSum_substantial (schemas : List Json) : reachSum (substantial schemas) ≤ reachSum schemas := by
  induction schemas with
  | nil => exact Nat.le_refl _
  | cons s rest ih =>
    unfold substantial at ih ⊢
    rw [List.filter_cons]
    split <;> simp only [reachSum] <;> omega

mutual
theorem reach_le_size : (s : Json) → reach s ≤ s.size
  | .object fields => by
    have h := reachFields_le_size fields
    simp only [reach, Json.size]
    omega
  | .array items => by
    have h := reachItems_le_size items
    simp only [reach, Json.size]
    omega
  | .null | .bool _ | .number _ | .string _ => Nat.le_refl _

theorem reachFields_le_size : (fields : List (String × Json)) → reachFields fields ≤ Json.sizeFields fields
  | [] => Nat.le_refl _
  | (keyword, value) :: rest => by
    have h := reachBelow_le_size (Rule.ofKeyword keyword) value
    have hr := reachFields_le_size rest
    simp only [reachFields, Json.sizeFields]
    omega

theorem reachBelow_le_size (rule : Rule) : (value : Json) → reachBelow rule value ≤ value.size
  | .array items => by
    have hs := reachSum_le_size items
    have hi := reachItems_le_size items
    cases rule <;> simp only [reachBelow, Json.size] <;> omega
  | .object fields => by
    have hf := reachFields_le_size fields
    have hv := reachValues_le_size fields
    cases rule <;> simp only [reachBelow, Json.size] <;> omega
  | .null | .bool _ | .number _ | .string _ => by cases rule <;> simp [reachBelow, Json.size]

theorem reachSum_le_size : (schemas : List Json) → reachSum schemas ≤ Json.sizeItems schemas
  | [] => Nat.le_refl _
  | s :: rest => by
    have h := reach_le_size s
    have hr := reachSum_le_size rest
    simp only [reachSum, Json.sizeItems]
    omega

theorem reachItems_le_size : (slots : List Json) → reachItems slots ≤ Json.sizeItems slots
  | [] => Nat.le_refl _
  | s :: rest => by
    have h := reach_le_size s
    have hr := reachItems_le_size rest
    simp only [reachItems, Json.sizeItems]
    omega

theorem reachValues_le_size : (schemas : List (String × Json)) → reachValues schemas ≤ Json.sizeFields schemas
  | [] => Nat.le_refl _
  | (_, s) :: rest => by
    have h := reach_le_size s
    have hr := reachValues_le_size rest
    simp only [reachValues, Json.sizeFields]
    omega
end

theorem reachSum_lt_levelBound (schemas : List Json) : reachSum schemas < levelBound schemas := by
  calc reachSum schemas
    _ ≤ Json.sizeItems schemas       := reachSum_le_size schemas
    _ < Json.sizeItems schemas + 2   := by omega
    _ ≤ levelBound schemas           := Nat.le_mul_of_pos_right _ (Nat.succ_pos _)

-- What is merged reaches at most one level further than all the schemas together.
def Modest (merge : List Json → Option Json) : Prop :=
  ∀ schemas merged, (∀ s ∈ schemas, s.WellFormed) → merge schemas = some merged →
    reach merged ≤ reachSum schemas + 1

theorem reachValues_le_of_get? {schemas : Fields} {n : Nat} (hs : Fields.Sorted schemas)
    (h : ∀ name, ∀ s ∈ Fields.get? schemas name, reach s ≤ n) : reachValues schemas ≤ n :=
  reachValues_le_iff.mpr fun name s hm => h name s (hs.get? hm)

theorem reach_le_of_get? {schemas : Fields} {name : String} {s : Json}
    (h : Fields.get? schemas name = some s) : reach s ≤ reachValues schemas :=
  reachValues_le_iff.mp (Nat.le_refl _) name s (Fields.mem_of_get? h)

theorem reachBelow_le_of_get? {fields : Fields} {keyword : String} {value : Json}
    (h : Fields.get? fields keyword = some value) :
    reachBelow (Rule.ofKeyword keyword) value ≤ reachFields fields :=
  reachFields_le_iff.mp (Nat.le_refl _) keyword value (Fields.mem_of_get? h)

theorem reach_dependencySchema? {d s : Json} (h : dependencySchema? d = some s) : reach s ≤ reach d := by
  unfold dependencySchema? at h
  split at h <;> cases h
  case h_1 => simp [reach, reachFields, reachBelow, show Rule.ofKeyword "required" = .names from rfl]
  case h_2 => exact Nat.le_refl _

theorem Outcome.ensures_of_forall {P : Json → Prop} {outcome : Outcome} (h : ∀ v, P v) :
    outcome.Ensures P := by
  cases outcome
  case keep v => exact h v
  all_goals trivial

theorem Outcome.Ensures.imp {P Q : Json → Prop} {outcome : Outcome} (h : outcome.Ensures P)
    (hi : ∀ v, P v → Q v) : outcome.Ensures Q := by
  cases outcome
  case keep v => exact hi v h
  all_goals trivial

theorem wellFormed_dependencySchema? {d s : Json} (hd : d.WellFormed) (h : dependencySchema? d = some s) :
    s.WellFormed := by
  unfold dependencySchema? at h
  split at h <;> cases h
  case h_1 => exact hd.singleton
  case h_2 => exact hd

theorem United.reach_le {combine : Json → Json → Option Json} {key : String} {left merged : Option Json}
    {value : Json} {a b : Nat} (h : United combine key left value merged)
    (hc : ∀ v ∈ left, ∀ j, combine v value = some j → reach j ≤ reach v + reach value + 1)
    (hl : ∀ v ∈ left, reach v ≤ a) (hv : reach value ≤ b) : ∀ j ∈ merged, reach j ≤ a + b + 1 := by
  refine h.elim (P := fun _ merged => ∀ j ∈ merged, reach j ≤ a + b + 1) ?alone ?same ?combined
  case alone =>
    rintro j ⟨⟩
    omega
  case same =>
    rintro v hv _ j ⟨⟩
    have := hl _ hv
    omega
  case combined =>
    rintro v hv' j hj i ⟨⟩
    have := hc v hv' _ hj
    have := hl v hv'
    omega

section Modest

variable {current incoming j : Json} {schemas : List Json} (hm : Modest merge)

include hm

theorem Modest.conjoin (hw : ∀ s ∈ schemas, s.WellFormed) :
    reach (conjoin merge schemas) ≤ reachSum schemas + 1 := by
  unfold Merge.conjoin
  cases h : merge schemas with
  | some merged => exact hm schemas merged hw h
  | none =>
    have hs := reachSum_substantial schemas
    have ha : reach (allOf (substantial schemas)) = reachSum (substantial schemas) + 1 := by
      simp [allOf, reach, reachFields, reachBelow, show Rule.ofKeyword "allOf" = .conjunction from rfl]
    rw [Option.getD_none, ha]
    omega

theorem Modest.conjoin_pair {a b : Json} (ha : a.WellFormed) (hb : b.WellFormed) :
    reach (Merge.conjoin merge [a, b]) ≤ reach a + reach b + 1 := by
  have h : reach (Merge.conjoin merge [a, b]) ≤ reachSum [a, b] + 1 := hm.conjoin (by simp [ha, hb])
  simpa [reachSum] using h

theorem Modest.mergeSchema? (hc : current.WellFormed) (hi : incoming.WellFormed)
    (h : mergeSchema? merge current incoming = some j) : reach j ≤ reach current + reach incoming + 1 := by
  unfold Merge.mergeSchema? at h
  split at h <;> cases h
  case h_1 | h_2 => simp [reach]
  case h_3 | h_4 => omega
  case h_5       => exact hm.conjoin_pair hc hi

theorem Modest.mergeDependency? (hc : current.WellFormed) (hi : incoming.WellFormed)
    (h : mergeDependency? merge current incoming = some j) :
    reach j ≤ reach current + reach incoming + 1 := by
  unfold Merge.mergeDependency? at h
  split at h
  case h_1 left right =>
    cases h
    have hl := reachItems_le_iff.mp (Nat.le_refl (reachItems left))
    have hr := reachItems_le_iff.mp (Nat.le_refl (reachItems right))
    have hu : reachItems (Json.union left right) ≤ reachItems left + reachItems right :=
      reachItems_le_iff.mpr fun s hs => (Json.mem_of_mem_union hs).elim
        (fun h => Nat.le_add_right_of_le (hl s h)) (fun h => Nat.le_add_left_of_le (hr s h))
    simp only [reach]
    omega
  case h_2 =>
    split at h <;> cases h
    case h_1 hl hr =>
      have := hm.conjoin_pair (wellFormed_dependencySchema? hc hl) (wellFormed_dependencySchema? hi hr)
      have := reach_dependencySchema? hl
      have := reach_dependencySchema? hr
      omega

theorem Modest.mergeConjunction (hc : current.WellFormed) (hi : incoming.WellFormed) :
    (mergeConjunction merge current incoming).Ensures fun v =>
      reachBelow .conjunction v ≤
        reachBelow .conjunction current + reachBelow .conjunction incoming + 1 := by
  unfold Merge.mergeConjunction
  split
  case h_2 => trivial
  case h_1 left right =>
    have hw : ∀ s ∈ left ++ right, s.WellFormed := by
      intro s hs
      cases List.mem_append.mp hs
      case inl hs => exact Json.wellFormed_array.mp hc s hs
      case inr hs => exact Json.wellFormed_array.mp hi s hs
    have ha := reachSum_append left right
    split
    case h_1 single hs =>
      have := hm _ _ hw hs
      simp only [Outcome.Ensures, reachBelow, reachSum]
      omega
    case h_2 =>
      have := reachSum_substantial (left ++ right)
      simp only [Outcome.Ensures, reachBelow]
      omega

theorem Modest.mergeItems (hc : current.WellFormed) (hi : incoming.WellFormed) :
    (mergeItems merge current incoming).Ensures fun v =>
      reachBelow .items v ≤ reachBelow .items current + reachBelow .items incoming + 1 := by
  have hslots {tuple : List Json} {list : Fields} (ht : (Json.array tuple).WellFormed)
      (hl : (Json.object list).WellFormed) : (mergeSlots merge tuple (.object list)).Ensures fun v =>
        reachBelow .items v ≤ reachItems tuple + reach (.object list) + 1 := by
    unfold mergeSlots
    split
    case isTrue => trivial
    case isFalse =>
      refine reachItems_le_iff.mpr fun s hs => ?_
      obtain ⟨slot, hm', rfl⟩ := List.mem_map.mp hs
      have := hm.conjoin_pair (Json.wellFormed_array.mp ht slot hm') hl
      have := reachItems_le_iff.mp (Nat.le_refl _) slot hm'
      omega
  unfold Merge.mergeItems
  split
  case h_1 left right =>
    dsimp only
    split
    case isTrue  => trivial
    case isFalse =>
      refine reachItems_le_iff.mpr fun s hs => ?_
      have := reachItems_le_iff.mp (Nat.le_refl _) s (Json.mem_of_mem_intersect hs)
      simp only [reachBelow]
      omega
  case h_2 left right =>
    have h := hm.conjoin_pair hc hi
    exact Nat.le_trans (reachBelow_items_le _) h
  case h_3 => exact hslots hc hi
  case h_4 list tuple =>
    have h := hslots hi hc
    simpa only [reachBelow, reach, Nat.add_comm (reachItems tuple)] using h
  case h_5 => trivial

end Modest

theorem reachValues_unionFields? {combine : Json → Json → Option Json} {current incoming merged : Fields}
    (hf : ∀ a b j, a.WellFormed → b.WellFormed → combine a b = some j →
      j.WellFormed ∧ reach j ≤ reach a + reach b + 1)
    (hc : (Json.object current).WellFormed) (hi : (Json.object incoming).WellFormed)
    (h : unionFields? combine current incoming = some merged) :
    reachValues merged ≤ reachValues current + reachValues incoming + 1 := by
  have ⟨hs, hwi⟩ := Json.wellFormed_object.mp hi
  have hw := wellFormed_unionFields? (fun a b j ha hb hj => (hf a b j ha hb hj).left) hc hwi h
  have hu := updates_unionFields? h
  refine reachValues_le_of_get? (Json.wellFormed_object.mp hw).left fun name s hv => ?_
  have hl : ∀ v ∈ Fields.get? current name, reach v ≤ reachValues current := fun v => reach_le_of_get?
  cases hr : Fields.get? incoming name with
  | none =>
    have := hl s (hu.get?_of_none hr ▸ hv)
    omega
  | some value =>
    refine (hu.get?_of_get? hs hr).reach_le (fun v hv j hj => ?_) hl (reach_le_of_get? hr) s hv
    exact (hf v value j (hc.get? hv) (hi.get? hr) hj).right

theorem reach_restricted? {join : Json → Json → Json} {additional : Option Json} {property s : Json} {n : Nat}
    (hj : ∀ extra, extra.WellFormed → reach (join property extra) ≤ reach property + reach extra + 1)
    (ha : ∀ extra ∈ additional, extra.WellFormed ∧ reach extra ≤ n)
    (h : restricted? join additional property = some s) : reach s ≤ reach property + n + 1 := by
  unfold restricted? at h
  split at h <;> cases h
  case h_2 extra =>
    have ⟨hw, hn⟩ := ha _ rfl
    have := hj _ hw
    omega
  case h_3 => omega

section Node

variable {earlier later : Option Json} {current incoming : Json} {a b : Nat}
variable (hm : Modest merge) (hp : Preserves merge)
variable (he : ∀ s ∈ earlier, s.WellFormed ∧ reach s ≤ a) (hl : ∀ s ∈ later, s.WellFormed ∧ reach s ≤ b)
variable (hc : current.WellFormed) (hi : incoming.WellFormed)

include hm hp he hl hc hi

theorem Modest.mergeProperties (hca : reachBelow .properties current ≤ a)
    (hib : reachBelow .properties incoming ≤ b) :
    (mergeProperties merge earlier later current incoming).Ensures fun v =>
      reachBelow .properties v ≤ a + b + 1 := by
  unfold Merge.mergeProperties
  split
  case h_2 => trivial
  case h_1 existing added =>
    refine Outcome.ensures_ofOption fun j hj => ?_
    obtain ⟨result, hr, rfl⟩ := Option.map_eq_some_iff.mp hj
    have hwl := hp.restrictListed (fun s hs => (hl s hs).left) hc added
    have hw := hp.addProperties? (fun s hs => (he s hs).left) hwl (Json.wellFormed_object.mp hi).right hr
    have hu := updates_addProperties? hr
    refine reachValues_le_of_get? (Json.wellFormed_object.mp hw).left fun name s hs => ?_
    have hg := get?_restrictListed merge later added existing name
    cases hv : Fields.get? added name with
    | none =>
      rw [hu.get?_of_none hv, hg, if_neg (by simp [Fields.contains, hv])] at hs
      obtain ⟨property, hpr, hs⟩ := Option.bind_eq_some_iff.mp hs
      have := reach_restricted? (fun extra => hm.conjoin_pair (hc.get? hpr)) hl hs
      have := Nat.le_trans (reach_le_of_get? hpr) hca
      omega
    | some property =>
      rw [if_pos (by simp [Fields.contains, hv])] at hg
      have ha := hu.get?_of_get? (Json.wellFormed_object.mp hi).left hv
      rw [hg] at ha
      have hpb := Nat.le_trans (reach_le_of_get? hv) hib
      cases hx : Fields.get? existing name with
      | none =>
        rw [hx] at ha
        have hs : restricted? _ earlier property = some s := ha.symm.trans hs
        have := reach_restricted? (fun extra hw => by
          rw [Nat.add_comm (reach property)]
          exact hm.conjoin_pair hw (hi.get? hv)) he hs
        omega
      | some v =>
        rw [hx] at ha
        have ha : United (Merge.mergeSchema? merge) name (some v) property _ := ha
        refine ha.reach_le ?_ ?_ hpb s hs
        · rintro v ⟨⟩ j hj
          exact hm.mergeSchema? (hc.get? hx) (hi.get? hv) hj
        · rintro v ⟨⟩
          exact Nat.le_trans (reach_le_of_get? hx) hca

-- One case for each rule. Below most keywords nothing is merged.
theorem Modest.mergeValues {keyword : String} (hca : reachBelow (Rule.ofKeyword keyword) current ≤ a)
    (hib : reachBelow (Rule.ofKeyword keyword) incoming ≤ b) :
    (mergeValues merge earlier later keyword current incoming).Ensures fun v =>
      reachBelow (Rule.ofKeyword keyword) v ≤ a + b + 1 := by
  have hfields {combine : Json → Json → Option Json} {rule : Rule}
      (hrule : ∀ schemas, reachBelow rule (.object schemas) = reachValues schemas)
      (hf : ∀ v w j, v.WellFormed → w.WellFormed → combine v w = some j →
        j.WellFormed ∧ reach j ≤ reach v + reach w + 1)
      (hca : reachBelow rule current ≤ a) (hib : reachBelow rule incoming ≤ b) :
      (mergeFields combine current incoming).Ensures fun v => reachBelow rule v ≤ a + b + 1 := by
    unfold mergeFields
    split
    case h_2 => trivial
    case h_1 left right =>
      refine Outcome.ensures_ofOption fun j hj => ?_
      obtain ⟨merged, hu, rfl⟩ := Option.map_eq_some_iff.mp hj
      have := reachValues_unionFields? hf hc hi hu
      rw [hrule] at hca hib ⊢
      omega
  unfold Merge.mergeValues
  generalize Rule.ofKeyword keyword = rule at hca hib
  cases rule <;> dsimp only
  case conjunction => exact (hm.mergeConjunction hc hi).imp fun v hv => by omega
  case items       => exact (hm.mergeItems hc hi).imp fun v hv => by omega
  case properties  => exact hm.mergeProperties hp he hl hc hi hca hib
  case schema =>
    rw [reachBelow_schema] at hca hib
    refine Outcome.ensures_ofOption fun j hj => ?_
    have := hm.mergeSchema? hc hi hj
    rw [reachBelow_schema]
    omega
  case patterns =>
    refine hfields (fun _ => rfl) (fun v w j hv hw hj => ⟨?_, hm.mergeSchema? hv hw hj⟩) hca hib
    exact hp.mergeSchema? hv hw hj
  case dependencies =>
    refine hfields (fun _ => rfl) (fun v w j hv hw hj => ⟨?_, hm.mergeDependency? hv hw hj⟩) hca hib
    exact hp.mergeDependency? hv hw hj
  all_goals exact Outcome.ensures_of_forall fun v => by simp [reachBelow]

end Node

theorem reachFields_primed (node other : Fields) : reachFields (primed node other) ≤ reachFields node := by
  refine reachFields_le_iff.mpr fun keyword value hm => ?_
  have hn (hm : (keyword, value) ∈ node) : reachBelow (Rule.ofKeyword keyword) value ≤ reachFields node :=
    reachFields_le_iff.mp (Nat.le_refl _) keyword value hm
  unfold primed listNothing at hm
  split at hm
  case isFalse => exact hn hm
  case isTrue =>
    split at hm
    case isTrue  => exact hn hm
    case isFalse =>
      cases Fields.mem_insert hm
      case inr hm => exact hn hm
      case inl he =>
        cases he
        exact Nat.zero_le _

theorem reachBelow_primed {node other : Fields} {keyword : String} {value : Json}
    (h : Fields.get? (primed node other) keyword = some value) :
    reachBelow (Rule.ofKeyword keyword) value ≤ reachFields node :=
  Nat.le_trans (reachBelow_le_of_get? h) (reachFields_primed node other)

theorem additional_reach {node : Fields} (hw : (Json.object node).WellFormed) (s : Json)
    (h : s ∈ Fields.get? node "additionalProperties") : s.WellFormed ∧ reach s ≤ reachFields node := by
  have hr := reachBelow_le_of_get? h
  rw [show Rule.ofKeyword "additionalProperties" = .schema from rfl, reachBelow_schema] at hr
  exact ⟨hw.get? h, hr⟩

section Fold

variable (hm : Modest merge) (hp : Preserves merge)

include hm hp

theorem Modest.takes {earlier later : Option Json} {keyword : String} {value : Option Json}
    {before after : Bool × Option Json} {a b : Nat}
    (he : ∀ s ∈ earlier, s.WellFormed ∧ reach s ≤ a) (hl : ∀ s ∈ later, s.WellFormed ∧ reach s ≤ b)
    (hb : ∀ v ∈ before.2, v.WellFormed ∧ reachBelow (Rule.ofKeyword keyword) v ≤ a)
    (hv : ∀ v ∈ value, v.WellFormed ∧ reachBelow (Rule.ofKeyword keyword) v ≤ b)
    (h : Takes merge earlier later keyword value before after) :
    ∀ v ∈ after.2, reachBelow (Rule.ofKeyword keyword) v ≤ a + b + 1 := by
  intro v hva
  have hle (hvb : v ∈ before.2) : reachBelow (Rule.ofKeyword keyword) v ≤ a + b + 1 := by
    have := (hb v hvb).right
    omega
  cases value with
  | none       => exact hle (h ▸ hva)
  | some value =>
    have ⟨hwv, hvb⟩ := hv value rfl
    cases h
    case leftOut | kept => exact hle hva
    case new            => cases hva; omega
    case dropped        => cases hva
    case combined current combined _ hk =>
      cases hva
      have ⟨hwc, hca⟩ := hb current rfl
      have h := hm.mergeValues hp he hl hwc hwv hca hvb
      rwa [hk] at h

theorem Modest.mergeObject? {merged result : Merged} {schema : Fields}
    (hw : (Json.object merged.fields).WellFormed) (hs : (Json.object schema).WellFormed)
    (h : mergeObject? merge merged schema = some result) :
    (Json.object result.fields).WellFormed ∧
      reachFields result.fields ≤ reachFields merged.fields + reachFields schema + 1 := by
  have hwr := hp.mergeObject? hw hs h
  refine ⟨hwr, reachFields_le_iff.mpr fun keyword value hv => ?_⟩
  rw [mergeObject?_eq] at h
  have hsorted := (Json.wellFormed_object.mp (wellFormed_primed merged.fields hs)).left
  exact hm.takes hp (additional_reach hw) (additional_reach hs)
    (fun _ hk => ⟨(wellFormed_primed schema hw).get? hk, reachBelow_primed hk⟩)
    (fun _ hk => ⟨(wellFormed_primed merged.fields hs).get? hk, reachBelow_primed hk⟩)
    (takes_mergeFieldList? hsorted h keyword) value ((Json.wellFormed_object.mp hwr).left.get? hv)

theorem Modest.mergeObjects? {merged result : Merged} {objects : List Fields}
    (hw : (Json.object merged.fields).WellFormed) (hs : ∀ schema ∈ objects, (Json.object schema).WellFormed)
    (h : mergeObjects? merge merged objects = some result) :
    reachFields result.fields ≤ reachFields merged.fields + reachSum (objects.map .object) := by
  induction objects generalizing merged with
  | nil => cases h; exact Nat.le_refl _
  | cons schema rest ih =>
    obtain ⟨next, hn, h⟩ := Option.bind_eq_some_iff.mp h
    have ⟨hs, hr⟩ := List.forall_mem_cons.mp hs
    have ⟨hwn, hle⟩ := hm.mergeObject? hp hw hs hn
    have := ih hwn hr h
    simp only [List.map_cons, reachSum, reach]
    omega

end Fold

-- By induction on the levels: a level merges its schemas as modestly as those below do theirs.
theorem modest_mergeLevels? (levels : Nat) : Modest (mergeLevels? levels) := by
  induction levels with
  | zero => simp [Modest, mergeLevels?]
  | succ levels ih =>
    intro schemas merged hw h
    have hle := reachSum_substantial schemas
    simp only [mergeLevels?] at h
    split at h
    case h_1 => cases h; simp [reach, reachFields]
    case h_2 single he =>
      cases h
      simp only [he, reachSum] at hle
      omega
    case h_3 =>
      simp only [Option.bind_eq_bind, Option.bind_eq_some_iff, Option.some.injEq] at h
      obtain ⟨objects, ho, result, hr, rfl⟩ := h
      have hobj := eq_map_of_mapM_asObject? ho
      have hws : ∀ schema ∈ objects, (Json.object schema).WellFormed := fun schema hs =>
        hw _ (mem_of_mem_substantial (mem_of_mem_mapM_asObject? ho hs))
      have := ih.mergeObjects? (preserves_mergeLevels? levels) Json.wellFormed_empty hws hr
      rw [hobj] at hle
      simp only [reach, reachFields] at this ⊢
      omega

end JsonSchema.Merge
