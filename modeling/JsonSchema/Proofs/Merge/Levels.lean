import JsonSchema.Proofs.Merge.Reach
import JsonSchema.Proofs.Merge.Steps

namespace JsonSchema.Merge

variable {merge merge' : List Json → Option Json} {n : Nat}

-- Two ways to merge agree on all schemas that reach, together, no further than `n`.
def Agree (n : Nat) (merge merge' : List Json → Option Json) : Prop :=
  ∀ schemas, (∀ s ∈ schemas, s.WellFormed) → reachSum schemas ≤ n → merge schemas = merge' schemas

section Values

variable {current incoming : Json} (ha : Agree n merge merge')
variable (hc : current.WellFormed) (hi : incoming.WellFormed)

include ha hc hi

theorem Agree.conjoin_pair (h : reach current + reach incoming ≤ n) :
    conjoin merge [current, incoming] = conjoin merge' [current, incoming] := by
  have hs : merge [current, incoming] = merge' [current, incoming] :=
    ha _ (by simp [hc, hi]) (by simpa [reachSum] using h)
  rw [conjoin, conjoin, hs]

theorem Agree.mergeSchema? (h : reach current + reach incoming ≤ n) :
    mergeSchema? merge current incoming = mergeSchema? merge' current incoming := by
  unfold Merge.mergeSchema?
  split
  case h_5 => rw [ha.conjoin_pair hc hi h]
  all_goals rfl

theorem Agree.mergeDependency? (h : reach current + reach incoming ≤ n) :
    mergeDependency? merge current incoming = mergeDependency? merge' current incoming := by
  unfold Merge.mergeDependency?
  split
  case h_1 => rfl
  case h_2 =>
    split
    case h_2 => rfl
    case h_1 left right hl hr =>
      have := reach_dependencySchema? hl
      have := reach_dependencySchema? hr
      rw [ha.conjoin_pair (wellFormed_dependencySchema? hc hl) (wellFormed_dependencySchema? hi hr) (by omega)]

theorem Agree.mergeConjunction (h : reachBelow .conjunction current + reachBelow .conjunction incoming ≤ n) :
    mergeConjunction merge current incoming = mergeConjunction merge' current incoming := by
  unfold Merge.mergeConjunction
  split
  case h_2 => rfl
  case h_1 left right =>
    have hw : ∀ s ∈ left ++ right, s.WellFormed := by
      intro s hs
      exact (List.mem_append.mp hs).elim (Json.wellFormed_array.mp hc s) (Json.wellFormed_array.mp hi s)
    rw [ha _ hw (by rw [reachSum_append]; exact h)]

theorem Agree.mergeItems (h : reachBelow .items current + reachBelow .items incoming ≤ n) :
    mergeItems merge current incoming = mergeItems merge' current incoming := by
  have hslots {tuple : List Json} {list : Fields} (ht : (Json.array tuple).WellFormed)
      (hl : (Json.object list).WellFormed) (h : reachItems tuple + reach (.object list) ≤ n) :
      mergeSlots merge tuple (.object list) = mergeSlots merge' tuple (.object list) := by
    have hs : ∀ slot ∈ tuple, conjoin merge [slot, .object list] = conjoin merge' [slot, .object list] := by
      intro slot hm
      have := reachItems_le_iff.mp (Nat.le_refl _) slot hm
      exact ha.conjoin_pair (Json.wellFormed_array.mp ht slot hm) hl (by omega)
    rw [mergeSlots, mergeSlots, List.map_congr_left hs]
  unfold Merge.mergeItems
  split
  case h_1 => rfl
  case h_2 => rw [ha.conjoin_pair hc hi h]
  case h_3 => exact hslots hc hi h
  case h_4 => exact hslots hi hc (by rw [Nat.add_comm]; exact h)
  case h_5 => rfl

end Values

theorem unionFields?_congr {combine combine' : Json → Json → Option Json} {left right : Fields}
    (hl : (Json.object left).WellFormed) (hr : (Json.object right).WellFormed)
    (h : ∀ v w, v.WellFormed → w.WellFormed → reach v + reach w ≤ reachValues left + reachValues right →
      combine v w = combine' v w) :
    unionFields? combine left right = unionFields? combine' left right := by
  have hs := (Json.wellFormed_object.mp hr).left
  refine stepwise_unionFields?.congr stepwise_unionFields? hs fun key w hm fields hv => ?_
  have hw := hs.get? hm
  unfold unionField?
  rw [hv]
  cases hk : Fields.get? left key with
  | none   => rfl
  | some v =>
    have := reach_le_of_get? hk
    have := reach_le_of_get? hw
    simp only [h v w (hl.get? hk) (hr.get? hw) (by omega)]

section Node

variable {earlier later : Option Json} {current incoming : Json} {a b : Nat}
variable (ha : Agree n merge merge') (hn : a + b ≤ n)
variable (he : ∀ s ∈ earlier, s.WellFormed ∧ reach s ≤ a) (hl : ∀ s ∈ later, s.WellFormed ∧ reach s ≤ b)
variable (hc : current.WellFormed) (hi : incoming.WellFormed)

include ha hn

theorem Agree.restrictListed {existing added : Fields} (hl : ∀ s ∈ later, s.WellFormed ∧ reach s ≤ b)
    (hc : (Json.object existing).WellFormed) (hca : reachValues existing ≤ a) :
    restrictListed merge later added existing = restrictListed merge' later added existing := by
  unfold Merge.restrictListed
  split
  case h_1 | h_3 => rfl
  case h_2 extra =>
    refine List.map_congr_left fun (key, property) hm => ?_
    have ⟨hw, hb⟩ := hl _ rfl
    have := reachValues_le_iff.mp hca key property hm
    dsimp only
    rw [ha.conjoin_pair ((Json.wellFormed_object.mp hc).right key property hm) hw (by omega)]

include he hl hc hi

theorem Agree.mergeProperties (hca : reachBelow .properties current ≤ a)
    (hib : reachBelow .properties incoming ≤ b) :
    mergeProperties merge earlier later current incoming =
      mergeProperties merge' earlier later current incoming := by
  unfold Merge.mergeProperties
  split
  case h_2 => rfl
  case h_1 existing added =>
    have hs := (Json.wellFormed_object.mp hi).left
    dsimp only
    rw [ha.restrictListed hn hl hc hca]
    congr 2
    refine stepwise_addProperties?.congr stepwise_addProperties? hs fun name property hm listed hv => ?_
    have hp := hs.get? hm
    have hpb := Nat.le_trans (reach_le_of_get? hp) hib
    rw [get?_restrictListed, if_pos (by simp [Fields.contains, hp])] at hv
    unfold addProperty?
    rw [hv]
    cases hx : Fields.get? existing name with
    | some v =>
      have := Nat.le_trans (reach_le_of_get? hx) hca
      simp only [ha.mergeSchema? (hc.get? hx) (hi.get? hp) (by omega)]
    | none =>
      have hr : restricted? (fun property extra => conjoin merge [extra, property]) earlier property =
          restricted? (fun property extra => conjoin merge' [extra, property]) earlier property := by
        unfold restricted?
        split
        case h_1 | h_3 => rfl
        case h_2 extra =>
          obtain ⟨hw, ha'⟩ := he _ rfl
          dsimp only
          rw [ha.conjoin_pair hw (hi.get? hp) (by omega)]
      rw [hr]

theorem Agree.mergeValues {keyword : String} (hca : reachBelow (Rule.ofKeyword keyword) current ≤ a)
    (hib : reachBelow (Rule.ofKeyword keyword) incoming ≤ b) :
    mergeValues merge earlier later keyword current incoming =
      mergeValues merge' earlier later keyword current incoming := by
  have hfields {combine combine' : Json → Json → Option Json} {rule : Rule}
      (hrule : ∀ schemas, reachBelow rule (.object schemas) = reachValues schemas)
      (hf : ∀ v w, v.WellFormed → w.WellFormed → reach v + reach w ≤ n → combine v w = combine' v w)
      (hca : reachBelow rule current ≤ a) (hib : reachBelow rule incoming ≤ b) :
      mergeFields combine current incoming = mergeFields combine' current incoming := by
    unfold mergeFields
    split
    case h_2 => rfl
    case h_1 left right =>
      rw [hrule] at hca hib
      rw [unionFields?_congr hc hi fun v w hv hw h => hf v w hv hw (by omega)]
  unfold Merge.mergeValues
  generalize Rule.ofKeyword keyword = rule at hca hib
  cases rule <;> dsimp only
  case conjunction => exact ha.mergeConjunction hc hi (by omega)
  case items       => exact ha.mergeItems hc hi (by omega)
  case properties  => exact ha.mergeProperties hn he hl hc hi hca hib
  case schema =>
    rw [reachBelow_schema] at hca hib
    rw [ha.mergeSchema? hc hi (by omega)]
  case patterns     => exact hfields (fun _ => rfl) (fun _ _ hv hw h => ha.mergeSchema? hv hw h) hca hib
  case dependencies => exact hfields (fun _ => rfl) (fun _ _ hv hw h => ha.mergeDependency? hv hw h) hca hib

end Node

theorem mergeField?_congr {earlier later : Option Json} {merged : Merged} {keyword : String} {value : Json}
    (h : ∀ v ∈ Fields.get? merged.fields keyword, mergeValues merge earlier later keyword v value =
      mergeValues merge' earlier later keyword v value) :
    mergeField? merge earlier later merged keyword value =
      mergeField? merge' earlier later merged keyword value := by
  unfold mergeField?
  cases hv : Fields.get? merged.fields keyword with
  | none   => rfl
  | some v => simp only [h v hv]

theorem Agree.mergeObject? {merged : Merged} {schema : Fields} (ha : Agree n merge merge')
    (hw : (Json.object merged.fields).WellFormed) (hs : (Json.object schema).WellFormed)
    (hn : reachFields merged.fields + reachFields schema ≤ n) :
    mergeObject? merge merged schema = mergeObject? merge' merged schema := by
  have hwp := wellFormed_primed schema hw
  have hsp := wellFormed_primed merged.fields hs
  have hsorted := (Json.wellFormed_object.mp hsp).left
  rw [mergeObject?_eq, mergeObject?_eq]
  refine stepwise_mergeFieldList?.congr stepwise_mergeFieldList? hsorted fun keyword w hm next hv => ?_
  refine mergeField?_congr fun v hk => ?_
  have hk : Fields.get? (primed merged.fields schema) keyword = some v := (congrArg Prod.snd hv).symm.trans hk
  have hw' := hsorted.get? hm
  exact ha.mergeValues hn (additional_reach hw) (additional_reach hs) (hwp.get? hk) (hsp.get? hw')
    (reachBelow_primed hk) (reachBelow_primed hw')

theorem Agree.mergeObjects? {merged : Merged} {objects : List Fields} (ha : Agree n merge merge')
    (hm : Modest merge) (hp : Preserves merge) (hw : (Json.object merged.fields).WellFormed)
    (hs : ∀ schema ∈ objects, (Json.object schema).WellFormed)
    (hn : reachFields merged.fields + reachSum (objects.map .object) ≤ n + 1) :
    mergeObjects? merge merged objects = mergeObjects? merge' merged objects := by
  induction objects generalizing merged with
  | nil => rfl
  | cons schema rest ih =>
    have ⟨hs, hr⟩ := List.forall_mem_cons.mp hs
    simp only [List.map_cons, reachSum, reach] at hn
    rw [Merge.mergeObjects?, Merge.mergeObjects?, ← ha.mergeObject? hw hs (by omega)]
    cases hnext : Merge.mergeObject? merge merged schema with
    | none      => rfl
    | some next =>
      obtain ⟨hwn, hle⟩ := hm.mergeObject? hp hw hs hnext
      exact ih hwn hr (by omega)

section Levels

variable {schemas : List Json} {levels levels' : Nat}

theorem Agree.mergeLevel? (ha : Agree n merge merge') (hm : Modest merge) (hp : Preserves merge) :
    Agree (n + 1) (mergeLevel? merge) (mergeLevel? merge') := by
  intro schemas hw hn
  unfold Merge.mergeLevel?
  split
  case h_1 | h_2 => rfl
  case h_3 =>
    refine Option.bind_congr fun objects ho => ?_
    have hs : ∀ schema ∈ objects, (Json.object schema).WellFormed := fun schema hs =>
      hw _ (mem_of_mem_substantial (mem_of_mem_mapM_asObject? ho hs))
    have hle := reachSum_substantial schemas
    rw [eq_map_of_mapM_asObject? ho] at hle
    rw [ha.mergeObjects? hm hp Json.wellFormed_empty hs (by simp only [reachFields]; omega)]

theorem agree_mergeLevels? (h : n < levels) (h' : n < levels') :
    Agree n (mergeLevels? levels) (mergeLevels? levels') := by
  obtain ⟨below, rfl⟩ := Nat.exists_eq_add_one.mpr (Nat.zero_lt_of_lt h)
  obtain ⟨below', rfl⟩ := Nat.exists_eq_add_one.mpr (Nat.zero_lt_of_lt h')
  induction n generalizing below below' with
  | zero =>
    intro schemas _ hn
    cases schemas with
    | nil         => rfl
    | cons s rest =>
      have := reach_pos s
      simp only [reachSum] at hn
      omega
  | succ n ih =>
    intro schemas hw hn
    obtain ⟨l, rfl⟩ := Nat.exists_eq_add_one.mpr (Nat.zero_lt_of_lt (Nat.lt_of_succ_lt_succ h))
    obtain ⟨l', rfl⟩ := Nat.exists_eq_add_one.mpr (Nat.zero_lt_of_lt (Nat.lt_of_succ_lt_succ h'))
    have ha := ih l (by omega) l' (by omega)
    rw [mergeLevels?_succ, mergeLevels?_succ (l' + 1)]
    exact ha.mergeLevel? (modest_mergeLevels? _) (preserves_mergeLevels? _) schemas hw hn

theorem tryMerge?_eq_mergeLevels? (hw : ∀ s ∈ schemas, s.WellFormed) (h : reachSum schemas < levels) :
    tryMerge? schemas = mergeLevels? levels schemas :=
  agree_mergeLevels? (reachSum_lt_levelBound schemas) h schemas hw (Nat.le_refl _)

-- The schemas that are merged below a keyword reach less far than those that have the keyword. So there are
-- always levels left, and they need not be counted.
theorem tryMerge?_eq (hw : ∀ s ∈ schemas, s.WellFormed) :
    tryMerge? schemas = mergeLevel? tryMerge? schemas := by
  have ha : Agree (reachSum schemas) (mergeLevels? (reachSum schemas + 1)) tryMerge? :=
    fun _ hw hn => (tryMerge?_eq_mergeLevels? hw (by omega)).symm
  have hl := ha.mergeLevel? (modest_mergeLevels? _) (preserves_mergeLevels? _) schemas hw (by omega)
  rw [tryMerge?_eq_mergeLevels? hw (show _ < reachSum schemas + 1 + 1 by omega), mergeLevels?_succ, hl]

end Levels

end JsonSchema.Merge
