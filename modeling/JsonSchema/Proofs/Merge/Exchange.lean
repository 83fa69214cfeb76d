import JsonSchema.Proofs.Merge.Multiples

namespace JsonSchema

namespace Json

variable {left right : List Json}

theorem asObject?_eq_some_iff {j : Json} {fields : Fields} :
    j.asObject? = some fields ↔ j = .object fields := by
  cases j <;> simp [asObject?]

theorem distinct_eq_nil_iff {items : List Json} : distinct items = [] ↔ items = [] := by
  constructor
  case mpr => rintro rfl; rfl
  case mp =>
    intro h
    refine List.eq_nil_iff_forall_not_mem.mpr fun j hj => ?_
    obtain ⟨i, hi, _⟩ := exists_mem_distinct hj
    simp [h] at hi

theorem intersect_eq_nil_iff :
    intersect left right = [] ↔ ∀ i ∈ left, ∀ j ∈ right, (j == i) = false := by
  simp [intersect, distinct_eq_nil_iff, isMember]

theorem intersect_comm_nil (hl : (array left).WellFormed) (hr : (array right).WellFormed)
    (h : intersect left right = []) : intersect right left = [] := by
  rw [intersect_eq_nil_iff] at h ⊢
  intro j hj i hi
  rw [beq_comm (wellFormed_array.mp hl i hi) (wellFormed_array.mp hr j hj)]
  exact h i hi j hj

end Json

namespace Number

theorem lcmWord?_comm (a b : Nat) : lcmWord? a b = lcmWord? b a := by
  by_cases h : a = 0 ∨ b = 0
  case pos => rw [lcmWord?, lcmWord?, if_pos h, if_pos h.symm]
  case neg =>
    have ha : 0 < a := Nat.pos_of_ne_zero fun ha => h (.inl ha)
    have hb : 0 < b := Nat.pos_of_ne_zero fun hb => h (.inr hb)
    rw [lcmWord?_eq ha hb, lcmWord?_eq hb ha, Nat.lcm_comm]

theorem lcm?_comm (m n : Number) : m.lcm? n = n.lcm? m := by
  have hs (scale : Nat) (x y : Binary64) : lcmScaled? scale x y = lcmScaled? scale y x := by
    rw [lcmScaled?, lcmScaled?, lcmWord?_comm]
  unfold lcm?
  cases m.toNat? <;> cases n.toNat?
  case some.some a b => simp only [lcmWord?_comm a b]
  all_goals simp only [Bool.and_comm, max_comm, hs]

end Number

namespace Merge

variable {merge merge' : List Json → Option Json} {earlier later earlier' later' : Option Json}
variable {current incoming : Json}

theorem ofOption_eq_conflict {value : Option Json} : Outcome.ofOption value = .conflict ↔ value = none := by
  cases value <;> simp [Outcome.ofOption]

theorem mergeConjunction_swap (h : mergeConjunction merge current incoming = .conflict) :
    mergeConjunction merge' incoming current = .conflict := by
  cases current <;> cases incoming <;> try rfl
  simp only [mergeConjunction] at h
  split at h <;> cases h

theorem mergeSchema?_swap (h : mergeSchema? merge current incoming = none) :
    mergeSchema? merge' incoming current = none := by
  unfold mergeSchema? at h
  split at h <;> cases h
  unfold mergeSchema?
  split <;> simp_all

theorem mergeAlternatives_swap (hc : current.WellFormed) (hi : incoming.WellFormed)
    (h : mergeAlternatives current incoming = .conflict) : mergeAlternatives incoming current = .conflict := by
  cases current <;> cases incoming <;> try rfl
  simp only [mergeAlternatives] at h ⊢
  split at h
  case isFalse => cases h
  case isTrue he =>
    rw [if_pos]
    simpa using Json.intersect_comm_nil hc hi (by simpa using he)

theorem mergeDependency?_swap (h : mergeDependency? merge current incoming = none) :
    mergeDependency? merge' incoming current = none := by
  cases current <;> cases incoming <;> simp_all [mergeDependency?, dependencySchema?]

theorem mergeNegation_swap (h : mergeNegation current incoming = .conflict) :
    mergeNegation incoming current = .conflict := by
  cases current <;> cases incoming <;> first | rfl | cases h

theorem mergeFlags_swap (h : mergeFlags current incoming = .conflict) :
    mergeFlags incoming current = .conflict := by
  cases current <;> cases incoming <;> first | rfl | cases h

theorem mergeNames_swap (h : mergeNames current incoming = .conflict) :
    mergeNames incoming current = .conflict := by
  cases current <;> cases incoming <;> first | rfl | cases h

theorem mergeMultiple_swap (h : mergeMultiple current incoming = .conflict) :
    mergeMultiple incoming current = .conflict := by
  cases current <;> cases incoming <;> try rfl
  rw [mergeMultiple, Number.lcm?_comm]
  exact h

theorem mergeBound_swap {tighter : Binary64 → Binary64 → Bool}
    (h : mergeBound tighter current incoming = .conflict) : mergeBound tighter incoming current = .conflict := by
  cases current <;> cases incoming <;> try rfl
  simp only [mergeBound] at h
  split at h <;> cases h

theorem commonType?_isSome_iff {names : List String} {name : String} :
    (commonType? names name).isSome = true ↔
      name ∈ names ∨ name = "integer" ∧ "number" ∈ names ∨ name = "number" ∧ "integer" ∈ names := by
  unfold commonType?
  split
  case isTrue h  => simpa using .inl (List.contains_iff_mem.mp h)
  case isFalse h =>
    have hn : name ∉ names := fun hm => h (List.contains_iff_mem.mpr hm)
    split <;> simp_all

theorem foldl_unseen_eq_nil_iff (names : List String) :
    names.foldl (fun found name => if found.contains name then found else found ++ [name]) [] = [] ↔
      names = [] := by
  have hm := mem_foldl_unseen names []
  simp only [List.eq_nil_iff_forall_not_mem, hm, List.not_mem_nil, false_or]

theorem mergeTypes_eq_conflict_iff : mergeTypes current incoming = .conflict ↔
    ∀ left ∈ typeNames? current, ∀ right ∈ typeNames? incoming, ∀ name ∈ left,
      (commonType? right name).isSome = false := by
  unfold mergeTypes
  split
  case h_2 hn =>
    exact iff_of_true rfl fun left hl right hr => absurd hr (hn left right hl)
  case h_1 names others hl hr =>
    simp only [hl, hr, Option.mem_def, Option.some.injEq, forall_eq', Option.isSome_eq_false_iff,
      Option.isNone_iff_eq_none]
    have hn := foldl_unseen_eq_nil_iff (names.filterMap (commonType? others))
    rw [List.filterMap_eq_nil_iff] at hn
    split
    case h_1 he    => exact iff_of_true rfl (hn.mp he)
    case h_2 he    => exact iff_of_false nofun fun h => absurd ((hn.mpr h).symm.trans he) (by simp)
    case h_3 hne _ => exact iff_of_false nofun fun h => hne (hn.mpr h)

theorem mergeTypes_swap (h : mergeTypes current incoming = .conflict) :
    mergeTypes incoming current = .conflict := by
  rw [mergeTypes_eq_conflict_iff] at h ⊢
  intro right hr left hl name hn
  have h := h left hl right hr
  simp only [Bool.eq_false_iff, ne_eq, commonType?_isSome_iff, not_or, not_and] at h ⊢
  refine ⟨fun hm => (h name hm).left hn, ?_, ?_⟩
  · rintro rfl hm
    exact (h _ hm).right.right rfl hn
  · rintro rfl hm
    exact (h _ hm).right.left rfl hn

theorem mergeItems_swap (hc : current.WellFormed) (hi : incoming.WellFormed)
    (h : mergeItems merge current incoming = .conflict) : mergeItems merge' incoming current = .conflict := by
  have hslots {tuple : List Json} {list : Json} (h : mergeSlots merge tuple list = .conflict) :
      mergeSlots merge' tuple list = .conflict := by
    unfold mergeSlots at h ⊢
    split at h
    case isTrue he => rw [if_pos he]
    case isFalse   => cases h
  cases current <;> cases incoming <;> try rfl
  case array.array  => exact mergeAlternatives_swap hc hi h
  case array.object => exact hslots h
  case object.array => exact hslots h
  case object.object => cases h

def Collide (refuses : String → Json → Json → Prop) (seen : String → Option Json) (added : Fields) : Prop :=
  ∃ key, ∃ v ∈ seen key, ∃ w ∈ Fields.get? added key, (v == w) = false ∧ refuses key v w

theorem Collide.swap {refuses refuses' : String → Json → Json → Prop} {left right : Fields}
    (hl : (Json.object left).WellFormed) (hr : (Json.object right).WellFormed)
    (hs : ∀ key v w, v.WellFormed → w.WellFormed → refuses key v w → refuses' key w v)
    (h : Collide refuses (Fields.get? left) right) : Collide refuses' (Fields.get? right) left := by
  obtain ⟨key, v, hv, w, hw, hn, h⟩ := h
  refine ⟨key, w, hw, v, hv, ?_, hs key v w (hl.get? hv) (hr.get? hw) h⟩
  rw [Json.beq_comm (hr.get? hw) (hl.get? hv), hn]

-- A run that refuses a field only for what is seen at its key fails if and only if the objects collide.
theorem collide_iff {σ τ : Type} {view : σ → String → τ} {step : σ → String → Json → Option σ}
    {run : σ → Fields → Option σ} {refuses : String → Json → Json → Prop}
    {s : σ} {added : Fields} (seen : τ → Option Json) (hr : Fields.Stepwise view step run)
    (h : ∀ s key w, step s key w = none ↔ ∃ v ∈ seen (view s key), (v == w) = false ∧ refuses key v w)
    (hs : Fields.Sorted added) :
    run s added = none ↔ Collide refuses (fun key => seen (view s key)) added := by
  rw [hr.eq_none_iff hs fun {s t key v} hv hn => (h t key v).mpr (hv ▸ (h s key v).mp hn)]
  constructor
  case mp =>
    rintro ⟨key, w, hm, hn⟩
    obtain ⟨v, hv, hn⟩ := (h s key w).mp hn
    exact ⟨key, v, hv, w, hs.get? hm, hn⟩
  case mpr =>
    rintro ⟨key, v, hv, w, hw, hn⟩
    exact ⟨key, w, Fields.mem_of_get? hw, (h s key w).mpr ⟨v, hv, hn⟩⟩

theorem unionFields?_eq_none_iff {combine : Json → Json → Option Json} {fields added : Fields}
    (hs : Fields.Sorted added) : unionFields? combine fields added = none ↔
      Collide (fun _ v w => combine v w = none) (Fields.get? fields) added := by
  refine collide_iff id stepwise_unionFields? (fun fields key w => ?_) hs
  unfold unionField?
  cases Fields.get? fields key with
  | none   => simp
  | some v => cases hv : v == w <;> simp [hv]

theorem addProperties?_eq_none_iff {additional : Option Json} {listed added : Fields}
    (hs : Fields.Sorted added) : addProperties? merge additional listed added = none ↔
      Collide (fun _ v w => mergeSchema? merge v w = none) (Fields.get? listed) added := by
  refine collide_iff id stepwise_addProperties? (fun listed name w => ?_) hs
  unfold addProperty?
  cases Fields.get? listed name with
  | none =>
    dsimp only
    split <;> simp
  | some v => cases hv : v == w <;> simp [hv]

theorem mergeFields_swap {combine combine' : Json → Json → Option Json} (hc : current.WellFormed)
    (hi : incoming.WellFormed) (hs : ∀ v w, combine v w = none → combine' w v = none)
    (h : mergeFields combine current incoming = .conflict) :
    mergeFields combine' incoming current = .conflict := by
  cases current <;> cases incoming <;> try rfl
  case object.object left right =>
    simp only [mergeFields, ofOption_eq_conflict, Option.map_eq_none_iff] at h ⊢
    rw [unionFields?_eq_none_iff (Json.wellFormed_object.mp hi).left] at h
    rw [unionFields?_eq_none_iff (Json.wellFormed_object.mp hc).left]
    exact h.swap hc hi fun _ v w _ _ => hs v w

-- What one side does not list is restricted without conflict, so only properties that both list collide.
theorem mergeProperties_eq_conflict_iff {existing added : Fields} (hs : Fields.Sorted added) :
    mergeProperties merge earlier later (.object existing) (.object added) = .conflict ↔
      Collide (fun _ v w => mergeSchema? merge v w = none) (Fields.get? existing) added := by
  simp only [mergeProperties, ofOption_eq_conflict, Option.map_eq_none_iff, addProperties?_eq_none_iff hs]
  have hg {name : String} {w : Json} (hw : w ∈ Fields.get? added name) :
      Fields.get? (restrictListed merge later added existing) name = Fields.get? existing name := by
    have hc : Fields.contains added name = true := by
      rw [Fields.contains, Option.mem_def.mp hw, Option.isSome_some]
    rw [get?_restrictListed, if_pos hc]
  constructor
  case mp =>
    rintro ⟨name, v, hv, w, hw, h⟩
    exact ⟨name, v, hg hw ▸ hv, w, hw, h⟩
  case mpr =>
    rintro ⟨name, v, hv, w, hw, h⟩
    exact ⟨name, v, (hg hw).symm ▸ hv, w, hw, h⟩

theorem mergeProperties_swap (hc : current.WellFormed) (hi : incoming.WellFormed)
    (h : mergeProperties merge earlier later current incoming = .conflict) :
    mergeProperties merge' earlier' later' incoming current = .conflict := by
  cases current <;> cases incoming <;> try rfl
  case object.object left right =>
    rw [mergeProperties_eq_conflict_iff (Json.wellFormed_object.mp hi).left] at h
    rw [mergeProperties_eq_conflict_iff (Json.wellFormed_object.mp hc).left]
    exact h.swap hc hi fun _ _ _ _ _ => mergeSchema?_swap

-- Each rule refuses two values if it refuses them the other way round, also those that no schema should have.
-- Conflicts below the keywords do not matter, since they are kept there.
theorem mergeValues_swap {keyword : String} (hc : current.WellFormed) (hi : incoming.WellFormed)
    (h : mergeValues merge earlier later keyword current incoming = .conflict) :
    mergeValues merge' earlier' later' keyword incoming current = .conflict := by
  unfold mergeValues at h ⊢
  cases hr : Rule.ofKeyword keyword <;> rw [hr] at h <;> dsimp only at h ⊢
  case conjunction  => exact mergeConjunction_swap h
  case schema       => exact ofOption_eq_conflict.mpr (mergeSchema?_swap (ofOption_eq_conflict.mp h))
  case alternatives => exact mergeAlternatives_swap hc hi h
  case identifier   => exact h
  case remark       => cases h
  case definitions  => exact mergeFields_swap hc hi (fun _ _ _ => rfl) h
  case patterns     => exact mergeFields_swap hc hi (fun _ _ => mergeSchema?_swap) h
  case dependencies => exact mergeFields_swap hc hi (fun _ _ => mergeDependency?_swap) h
  case properties   => exact mergeProperties_swap hc hi h
  case items        => exact mergeItems_swap hc hi h
  case negation     => exact mergeNegation_swap h
  case types        => exact mergeTypes_swap h
  case names        => exact mergeNames_swap h
  case flag         => exact mergeFlags_swap h
  case multiple     => exact mergeMultiple_swap h
  case upperBound   => exact mergeBound_swap h
  case lowerBound   => exact mergeBound_swap h

theorem mergeField?_eq_none_iff {merged : Merged} {keyword : String} {value : Json} :
    mergeField? merge earlier later merged keyword value = none ↔
      ∃ v ∈ (if (merged.at keyword).1 then none else (merged.at keyword).2), (v == value) = false ∧
        mergeValues merge earlier later keyword v value = .conflict := by
  unfold mergeField?
  by_cases hd : keyword ∈ merged.dropped
  case pos => simp [hd, Merged.at]
  case neg =>
    simp only [hd, Merged.at, if_false, decide_false, Bool.false_eq_true]
    cases Fields.get? merged.fields keyword with
    | none   => simp
    | some v =>
      simp only [Option.mem_def, Option.some.injEq, exists_eq_left']
      cases hv : v == value
      case true  => simp
      case false => cases mergeValues merge earlier later keyword v value <;> simp

theorem mergeObject?_eq_none_iff {left right : Fields} (hr : (Json.object right).WellFormed) :
    mergeObject? merge ⟨left, []⟩ right = none ↔
      Collide (fun keyword v w => mergeValues merge (Fields.get? left "additionalProperties")
        (Fields.get? right "additionalProperties") keyword v w = .conflict)
        (Fields.get? (primed left right)) (primed right left) := by
  have hs := (Json.wellFormed_object.mp (wellFormed_primed left hr)).left
  rw [mergeObject?_eq, collide_iff (fun state => if state.1 then none else state.2)
    stepwise_mergeFieldList? (fun _ _ _ => mergeField?_eq_none_iff) hs]
  simp [Merged.at]

theorem mergeObject?_swap {left right : Fields} (hl : (Json.object left).WellFormed)
    (hr : (Json.object right).WellFormed) (h : mergeObject? merge ⟨left, []⟩ right = none) :
    mergeObject? merge' ⟨right, []⟩ left = none := by
  rw [mergeObject?_eq_none_iff hr] at h
  rw [mergeObject?_eq_none_iff hl]
  exact h.swap (wellFormed_primed right hl) (wellFormed_primed left hr) fun _ _ _ => mergeValues_swap

theorem mergeLevel?_pair_objects {left right : Fields} (hl : left ≠ []) (hr : right ≠ [])
    (hs : Fields.Sorted left) :
    mergeLevel? merge [.object left, .object right] =
      (mergeObject? merge ⟨left, []⟩ right).map fun merged => .object merged.fields := by
  have h : substantial [.object left, .object right] = [left, right].map .object := by
    simp [substantial, isIdentity, hl, hr]
  rw [mergeLevel?_objects h hs]
  simp [mergeObjects?]

theorem mergeLevel?_swap {a b : Json} (ha : a.WellFormed) (hb : b.WellFormed)
    (h : mergeLevel? merge [a, b] = none) : mergeLevel? merge' [b, a] = none := by
  cases hia : isIdentity a <;> cases hib : isIdentity b
  case false.false =>
    have hs : substantial [b, a] = [b, a] := by simp [substantial, hia, hib]
    cases ho : b.asObject? with
    | none       => exact mergeLevel?_eq_none (by simp [hs]) (by simp [hs, List.mapM_cons, ho])
    | some right =>
      cases hl : a.asObject? with
      | none      => exact mergeLevel?_eq_none (by simp [hs]) (by simp [hs, List.mapM_cons, ho, hl])
      | some left =>
        obtain rfl := Json.asObject?_eq_some_iff.mp ho
        obtain rfl := Json.asObject?_eq_some_iff.mp hl
        have hnl : left ≠ [] := by simpa [isIdentity] using hia
        have hnr : right ≠ [] := by simpa [isIdentity] using hib
        rw [mergeLevel?_pair_objects hnl hnr (Json.wellFormed_object.mp ha).left,
          Option.map_eq_none_iff] at h
        rw [mergeLevel?_pair_objects hnr hnl (Json.wellFormed_object.mp hb).left,
          Option.map_eq_none_iff]
        exact mergeObject?_swap ha hb h
  all_goals simp [mergeLevel?, substantial, hia, hib] at h

theorem tryMerge?_eq_none_swap {a b : Json} (ha : a.WellFormed) (hb : b.WellFormed)
    (h : tryMerge? [a, b] = none) : tryMerge? [b, a] = none := by
  obtain ⟨levels, hl⟩ := exists_levels [a, b]
  obtain ⟨levels', hl'⟩ := exists_levels [b, a]
  rw [tryMerge?, hl, mergeLevels?_succ] at h
  rw [tryMerge?, hl', mergeLevels?_succ]
  exact mergeLevel?_swap ha hb h

theorem keys_tryMerge?_swap {left right : Fields} {m n : Json} (hl : (Json.object left).WellFormed)
    (hr : (Json.object right).WellFormed) (hm : tryMerge? [.object left, .object right] = some m)
    (hn : tryMerge? [.object right, .object left] = some n) :
    ∃ fields others, m = .object fields ∧ n = .object others ∧
      ∀ keyword, keyword ∈ Fields.keys fields ↔ keyword ∈ Fields.keys others := by
  have hs (schema : Fields) : schema ∈ [left, right] ↔ schema ∈ [right, left] := by simp [or_comm]
  have hw : ∀ schema ∈ [left, right], (Json.object schema).WellFormed :=
    List.forall_mem_cons.mpr ⟨hl, List.forall_mem_singleton.mpr hr⟩
  obtain ⟨result, rfl, hg⟩ := gathers_mergeLevels? hw hm
  obtain ⟨other, rfl, ho⟩ := gathers_mergeLevels? (fun schema h => hw schema ((hs schema).mpr h)) hn
  refine ⟨_, _, rfl, rfl, fun keyword => ?_⟩
  have hc : Carried [left, right] keyword ↔ Carried [right, left] keyword := by simp only [Carried, hs]
  have hd : Contested [left, right] keyword ↔ Contested [right, left] keyword := by
    simp only [Contested, hs]
  rw [← Fields.get?_isSome_iff, ← Fields.get?_isSome_iff, hg.isSome_iff, ho.isSome_iff]
  simp only [carried_filter, contested_filter, hc, hd]

-- Whether two schemas can be merged does not depend on their order, nor do the keywords of what objects are
-- merged to.
theorem tryMerge?_swap {a b : Json} (ha : a.WellFormed) (hb : b.WellFormed) :
    ((tryMerge? [a, b]).isSome = true ↔ (tryMerge? [b, a]).isSome = true) ∧
      ∀ left right, a = .object left → b = .object right →
        ∀ m ∈ tryMerge? [a, b], ∀ n ∈ tryMerge? [b, a],
          ∃ fields others, m = .object fields ∧ n = .object others ∧
            ∀ keyword, keyword ∈ Fields.keys fields ↔ keyword ∈ Fields.keys others := by
  constructor
  case left =>
    rw [Option.isSome_iff_ne_none, Option.isSome_iff_ne_none]
    exact not_congr ⟨tryMerge?_eq_none_swap ha hb, tryMerge?_eq_none_swap hb ha⟩
  case right =>
    rintro left right rfl rfl m hm n hn
    exact keys_tryMerge?_swap ha hb hm hn

-- A list of properties and a schema without one that refuses unlisted properties. Their identifiers differ, and
-- the title of the merged schema depends on their order.
theorem tryMerge?_swap_closed :
    let closed : Fields := [("$id", .string "closed"), ("additionalProperties", .bool false),
      ("title", .string "Nothing")]
    let listed : Fields := [("$id", .string "listed"), ("properties", .object [("name", .object [])]),
      ("title", .string "Name")]
    let merged (title : String) : Fields := [("additionalProperties", .bool false),
      ("properties", .object []), ("title", .string title)]
    (Json.object closed).WellFormed ∧ (Json.object listed).WellFormed ∧
      tryMerge? [.object closed, .object listed] = some (.object (merged "Name")) ∧
      tryMerge? [.object listed, .object closed] = some (.object (merged "Nothing")) ∧
      ((tryMerge? [.object closed, .object listed]).isSome = true ↔
        (tryMerge? [.object listed, .object closed]).isSome = true) ∧
      ∀ m ∈ tryMerge? [.object closed, .object listed], ∀ n ∈ tryMerge? [.object listed, .object closed],
        ∃ fields others, m = .object fields ∧ n = .object others ∧
          ∀ keyword, keyword ∈ Fields.keys fields ↔ keyword ∈ Fields.keys others := by
  intro closed listed merged
  have hc : (Json.object closed).WellFormed := by decide
  have hl : (Json.object listed).WellFormed := by decide
  have ⟨hs, hk⟩ := tryMerge?_swap hc hl
  exact ⟨hc, hl, by rfl, by rfl, hs, hk closed listed rfl rfl⟩

end Merge

end JsonSchema
