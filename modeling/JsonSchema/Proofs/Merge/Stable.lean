import JsonSchema.Merge.Basic
import JsonSchema.Proofs.Json.Fields
import JsonSchema.Proofs.Json.Members

namespace JsonSchema.Merge

-- A property of values at keys that merging keeps. An item of an array is at no key, for which the empty
-- one stands; only at the key `$ref` it matters which text is there.
structure Stable (A : String → Json → Prop) : Prop where
  item {key items j} : A key (.array items) → j ∈ items → A "" j
  array {key items} : (∀ j ∈ items, A "" j) → A key (.array items)
  field {key fields k j} : A key (.object fields) → (k, j) ∈ fields → A k j
  object {key fields} (k : String) : A key (.object fields) → A k (.object fields)
  loose {key j} : A key j → A "" j
  empty (key : String) : A key (.object [])
  insert {key fields k j} :
    A key (.object fields) → A k j → A key (.object (Fields.insert k j fields))
  filter {key fields} (p : String × Json → Bool) :
    A key (.object fields) → A key (.object (fields.filter p))
  map {key fields} {f : String → Json → Json} :
    A key (.object fields) → (∀ k j, (k, j) ∈ fields → A k (f k j)) →
      A key (.object (fields.map fun (k, j) => (k, f k j)))
  bool (key : String) (b : Bool) : A key (.bool b)
  text {key : String} (name : String) : key ≠ "$ref" → A key (.string name)
  multiple {m n k : Number} (key : String) : m.lcm? n = some k → A key (.number k)

-- A merge of schemas at a key gives such a schema.
def Keeps (A : String → Json → Prop) (merge : List Json → Option Json) : Prop :=
  ∀ key schemas merged, (∀ j ∈ schemas, A key j) → merge schemas = some merged → A key merged

variable {A : String → Json → Prop} {merge : List Json → Option Json} {key : String}
  {current incoming j : Json} {members schemas : List Json}

theorem mem_of_mem_substantial (h : j ∈ substantial schemas) : j ∈ schemas :=
  (List.mem_filter.mp h).left

def Outcome.Ensures (P : Json → Prop) : Outcome → Prop
  | keep value => P value
  | _ => True

theorem Outcome.ensures_ofOption {P : Json → Prop} {value : Option Json}
    (h : ∀ j, value = some j → P j) : (ofOption value).Ensures P := by
  cases value
  case none   => trivial
  case some j => exact h j rfl

namespace Stable

variable (ha : Stable A)

include ha

theorem get? {fields : Fields} {k : String} (h : A key (.object fields))
    (hj : Fields.get? fields k = some j) : A k j :=
  ha.field h (Fields.mem_of_get? hj)

theorem erase {fields : Fields} (k : String) (h : A key (.object fields)) :
    A key (.object (Fields.erase k fields)) :=
  ha.filter _ h

theorem singleton {k : String} (h : A k j) : A key (.object [(k, j)]) :=
  ha.insert (ha.empty key) h

theorem allOf (h : ∀ j ∈ members, A "" j) : A key (Merge.allOf members) :=
  ha.singleton (ha.array h)

theorem anyOf (h : ∀ j ∈ members, A "" j) : A key (Merge.anyOf members) :=
  ha.singleton (ha.array h)

theorem union {left right : List Json} (hl : A key (.array left)) (hr : A key (.array right)) (k : String) :
    A k (.array (Json.union left right)) := by
  refine ha.array fun j hj => ?_
  cases Json.mem_of_mem_union hj
  case inl hj => exact ha.item hl hj
  case inr hj => exact ha.item hr hj

theorem mergeAlternatives (hc : A key current) :
    (mergeAlternatives current incoming).Ensures (A key) := by
  unfold Merge.mergeAlternatives
  split
  case h_2 => trivial
  case h_1 =>
    dsimp only
    split
    case isTrue  => trivial
    case isFalse => exact ha.array fun j hj => ha.item hc (Json.mem_of_mem_intersect hj)

theorem of_mem_refused {fields : Fields} (h : A key (.object fields))
    (hj : j ∈ refused (.object fields)) : A "" j := by
  unfold refused at hj
  split at hj
  case h_1 he =>
    cases he
    exact ha.item (ha.field h List.mem_cons_self) hj
  case h_2 => exact List.mem_singleton.mp hj ▸ ha.object "" h

theorem mergeNegation (hc : A key current) (hi : A key incoming) :
    (mergeNegation current incoming).Ensures (A key) := by
  unfold Merge.mergeNegation
  split
  case h_2 => trivial
  case h_1 =>
    refine ha.anyOf fun j hj => ?_
    cases Json.mem_of_mem_union hj
    case inl hj => exact ha.of_mem_refused hc hj
    case inr hj => exact ha.of_mem_refused hi hj

theorem mergeTypes (hk : key ≠ "$ref") : (mergeTypes current incoming).Ensures (A key) := by
  unfold Merge.mergeTypes
  split
  case h_2 => trivial
  case h_1 =>
    dsimp only
    split
    case h_1 => trivial
    case h_2 => exact ha.text _ hk
    case h_3 =>
      refine ha.array fun j hj => ?_
      obtain ⟨name, _, rfl⟩ := List.mem_map.mp hj
      exact ha.text name (by decide)

theorem mergeFlags : (mergeFlags current incoming).Ensures (A key) := by
  unfold Merge.mergeFlags
  split
  case h_1 => exact ha.bool key _
  case h_2 => trivial

theorem mergeNames (hc : A key current) (hi : A key incoming) :
    (mergeNames current incoming).Ensures (A key) := by
  unfold Merge.mergeNames
  split
  case h_1 => exact ha.union hc hi key
  case h_2 => exact ha.mergeFlags

theorem mergeMultiple : (mergeMultiple current incoming).Ensures (A key) := by
  unfold Merge.mergeMultiple
  split
  case h_2 => trivial
  case h_1 =>
    apply Outcome.ensures_ofOption
    intro j hj
    obtain ⟨_, hl, rfl⟩ := Option.map_eq_some_iff.mp hj
    exact ha.multiple key hl

omit ha in
theorem mergeBound {tighter : Binary64 → Binary64 → Bool} (hc : A key current) (hi : A key incoming) :
    (mergeBound tighter current incoming).Ensures (A key) := by
  unfold Merge.mergeBound
  split
  case h_2 => trivial
  case h_1 =>
    split
    case isTrue  => exact hi
    case isFalse => exact hc

theorem unionFields? {combine : Json → Json → Option Json} {current incoming merged : Fields}
    (hf : ∀ k a b j, A k a → A k b → combine a b = some j → A k j)
    (hc : A key (.object current)) (hi : ∀ k j, (k, j) ∈ incoming → A k j)
    (h : unionFields? combine current incoming = some merged) : A key (.object merged) := by
  induction incoming generalizing current with
  | nil => cases h; exact hc
  | cons field rest ih =>
    obtain ⟨k, value⟩ := field
    have hv := hi k value List.mem_cons_self
    have hr : ∀ k j, (k, j) ∈ rest → A k j := fun k j hj => hi k j (List.mem_cons_of_mem _ hj)
    simp only [Merge.unionFields?] at h
    split at h
    case h_1 => exact ih (ha.insert hc hv) hr h
    case h_2 existing he =>
      split at h
      case isTrue => exact ih hc hr h
      case isFalse =>
        split at h
        case h_1 combined hb => exact ih (ha.insert hc (hf k _ _ _ (ha.get? hc he) hv hb)) hr h
        case h_2 => simp at h

theorem mergeFields {combine : Json → Json → Option Json}
    (hf : ∀ k a b j, A k a → A k b → combine a b = some j → A k j)
    (hc : A key current) (hi : A key incoming) :
    (mergeFields combine current incoming).Ensures (A key) := by
  unfold Merge.mergeFields
  split
  case h_2 => trivial
  case h_1 =>
    apply Outcome.ensures_ofOption
    intro j hj
    obtain ⟨_, hu, rfl⟩ := Option.map_eq_some_iff.mp hj
    exact ha.unionFields? hf hc (fun _ _ => ha.field hi) hu

theorem listNothing {fields : Fields} (h : A key (.object fields)) :
    A key (.object (listNothing fields)) := by
  unfold Merge.listNothing
  split
  case isTrue  => exact h
  case isFalse => exact ha.insert h (ha.empty "properties")

end Stable

theorem restrictListed_object (merge : List Json → Option Json) (extra added existing : Fields) :
    restrictListed merge (some (.object extra)) added existing =
      existing.map fun (k, j) =>
        (k, if Fields.contains added k then j else conjoin merge [j, .object extra]) := by
  apply List.map_congr_left
  intro (k, j) _
  by_cases h : Fields.contains added k <;> simp [h]

section Keeps

variable (ha : Stable A) (hm : Keeps A merge)

include ha hm

theorem Keeps.conjoin (h : ∀ j ∈ schemas, A key j) : A key (conjoin merge schemas) := by
  unfold Merge.conjoin
  cases hs : merge schemas
  case some merged => exact hm key _ _ h hs
  case none        => exact ha.allOf fun j hj => ha.loose (h j (mem_of_mem_substantial hj))

theorem Keeps.conjoin_pair {a b : Json} (hl : A key a) (hr : A key b) :
    A key (Merge.conjoin merge [a, b]) :=
  hm.conjoin ha <| by simp [hl, hr]

theorem Keeps.mergeSchema? (hc : A key current) (hi : A key incoming)
    (h : mergeSchema? merge current incoming = some j) : A key j := by
  unfold Merge.mergeSchema? at h
  split at h <;> cases h
  case h_1 | h_2 => exact ha.bool key false
  case h_3       => exact hi
  case h_4       => exact hc
  case h_5       => exact hm.conjoin_pair ha hc hi

theorem Keeps.mergeDependency? (hc : A key current) (hi : A key incoming)
    (h : mergeDependency? merge current incoming = some j) : A key j := by
  have hd {a b : Json} (h : A key a) (hs : dependencySchema? a = some b) : A key b := by
    unfold dependencySchema? at hs
    split at hs <;> cases hs
    case h_1 => exact ha.singleton (ha.array fun _ => ha.item h)
    case h_2 => exact h
  unfold Merge.mergeDependency? at h
  split at h
  case h_1 =>
    cases h
    exact ha.union hc hi key
  case h_2 =>
    split at h <;> cases h
    case h_1 hl hr => exact hm.conjoin_pair ha (hd hc hl) (hd hi hr)

theorem Keeps.mergeConjunction (hc : A key current) (hi : A key incoming) :
    (mergeConjunction merge current incoming).Ensures (A key) := by
  unfold Merge.mergeConjunction
  split
  case h_2 => trivial
  case h_1 left right =>
    have h : ∀ j ∈ left ++ right, A "" j := by
      intro j hj
      cases List.mem_append.mp hj
      case inl hj => exact ha.item hc hj
      case inr hj => exact ha.item hi hj
    split
    case h_1 single hs => exact ha.array (by simpa using hm "" _ _ h hs)
    case h_2           => exact ha.array fun j hj => h j (mem_of_mem_substantial hj)

theorem Keeps.restrictListed {additional : Option Json} {added existing : Fields}
    (hl : ∀ j, additional = some j → A "" j) (he : A key (.object existing)) :
    A key (.object (restrictListed merge additional added existing)) := by
  unfold Merge.restrictListed
  split
  case h_1 => exact ha.filter _ he
  case h_3 => exact he
  case h_2 extra =>
    have h := ha.map (f := fun k j =>
      if Fields.contains added k then j else Merge.conjoin merge [j, .object extra]) he fun k j hj => by
        have hj := ha.field he hj
        split
        case isTrue  => exact hj
        case isFalse => exact hm.conjoin_pair ha hj (ha.object k (hl _ rfl))
    rw [← restrictListed_object] at h
    exact h

theorem Keeps.addProperties? {additional : Option Json} {merged added result : Fields}
    (hl : ∀ j, additional = some j → A "" j) (hc : A key (.object merged))
    (hi : ∀ k j, (k, j) ∈ added → A k j)
    (h : addProperties? merge additional merged added = some result) : A key (.object result) := by
  induction added generalizing merged with
  | nil => cases h; exact hc
  | cons field rest ih =>
    obtain ⟨k, property⟩ := field
    have hp := hi k property List.mem_cons_self
    have hr : ∀ k j, (k, j) ∈ rest → A k j := fun k j hj => hi k j (List.mem_cons_of_mem _ hj)
    simp only [Merge.addProperties?] at h
    split at h
    case h_1 existing he =>
      split at h
      case isTrue => exact ih hc hr h
      case isFalse =>
        split at h
        case h_1 combined hb =>
          exact ih (ha.insert hc (hm.mergeSchema? ha (ha.get? hc he) hp hb)) hr h
        case h_2 => simp at h
    case h_2 =>
      split at h
      case h_1 => exact ih hc hr h
      case h_2 => exact ih (ha.insert hc (hm.conjoin_pair ha (ha.object k (hl _ rfl)) hp)) hr h
      case h_3 => exact ih (ha.insert hc hp) hr h

theorem Keeps.mergeProperties {earlier later : Option Json}
    (he : ∀ j, earlier = some j → A "" j) (hl : ∀ j, later = some j → A "" j)
    (hc : A key current) (hi : A key incoming) :
    (mergeProperties merge earlier later current incoming).Ensures (A key) := by
  unfold Merge.mergeProperties
  split
  case h_2 => trivial
  case h_1 =>
    apply Outcome.ensures_ofOption
    intro j hj
    obtain ⟨_, hp, rfl⟩ := Option.map_eq_some_iff.mp hj
    exact hm.addProperties? ha he (hm.restrictListed ha hl hc) (fun _ _ => ha.field hi) hp

theorem Keeps.mergeItems (hc : A key current) (hi : A key incoming) :
    (mergeItems merge current incoming).Ensures (A key) := by
  have hslots {tuple : List Json} {list : Fields} (ht : A key (.array tuple))
      (hl : A key (.object list)) : (mergeSlots merge tuple (.object list)).Ensures (A key) := by
    unfold mergeSlots
    split
    case isTrue => trivial
    case isFalse =>
      refine ha.array fun j hj => ?_
      obtain ⟨slot, hs, rfl⟩ := List.mem_map.mp hj
      exact hm.conjoin_pair ha (ha.item ht hs) (ha.object "" hl)
  unfold Merge.mergeItems
  split
  case h_1 left right =>
    dsimp only
    split
    case isTrue  => trivial
    case isFalse => exact ha.array fun j hj => ha.item hc (Json.mem_of_mem_intersect hj)
  case h_2 => exact hm.conjoin_pair ha hc hi
  case h_3 => exact hslots hc hi
  case h_4 => exact hslots hi hc
  case h_5 => trivial

theorem Keeps.mergeValues {earlier later : Option Json}
    (he : ∀ j, earlier = some j → A "" j) (hl : ∀ j, later = some j → A "" j)
    (hc : A key current) (hi : A key incoming) :
    (mergeValues merge earlier later key current incoming).Ensures (A key) := by
  unfold Merge.mergeValues
  split
  case h_1  => exact hm.mergeConjunction ha hc hi
  case h_2  => exact Outcome.ensures_ofOption fun _ => hm.mergeSchema? ha hc hi
  case h_3  => exact ha.mergeAlternatives hc
  case h_4  => trivial
  case h_5  => exact hi
  case h_6  => exact ha.mergeFields (by simp) hc hi
  case h_7  => exact ha.mergeFields (fun _ _ _ _ hl hr => hm.mergeSchema? ha hl hr) hc hi
  case h_8  => exact ha.mergeFields (fun _ _ _ _ hl hr => hm.mergeDependency? ha hl hr) hc hi
  case h_9  => exact hm.mergeProperties ha he hl hc hi
  case h_10 => exact hm.mergeItems ha hc hi
  case h_11 => exact ha.mergeNegation hc hi
  case h_12 hk =>
    refine ha.mergeTypes ?_
    rintro rfl
    exact absurd hk (by decide)
  case h_13 => exact ha.mergeNames hc hi
  case h_14 => exact ha.mergeFlags
  case h_15 => exact ha.mergeMultiple
  case h_16 => exact Stable.mergeBound hc hi
  case h_17 => exact Stable.mergeBound hc hi
  case h_18 => trivial

theorem Keeps.mergeField? {earlier later : Option Json} {merged result : Merged} {k : String}
    {value : Json} (he : ∀ j, earlier = some j → A "" j) (hl : ∀ j, later = some j → A "" j)
    (hf : A key (.object merged.fields)) (hv : A k value)
    (h : mergeField? merge earlier later merged k value = some result) :
    A key (.object result.fields) := by
  unfold Merge.mergeField? at h
  split at h
  case isTrue => cases h; exact hf
  case isFalse =>
    split at h
    case h_1 => cases h; exact ha.insert hf hv
    case h_2 current hc =>
      split at h
      case isTrue => cases h; exact hf
      case isFalse =>
        have hk : (Merge.mergeValues merge earlier later k current value).Ensures (A k) :=
          hm.mergeValues ha he hl (ha.get? hf hc) hv
        split at h <;> cases h
        case h_1 combined ho => rw [ho] at hk; exact ha.insert hf hk
        case h_2             => exact ha.erase k hf

theorem Keeps.mergeFieldList? {earlier later : Option Json} {merged result : Merged} {schema : Fields}
    (he : ∀ j, earlier = some j → A "" j) (hl : ∀ j, later = some j → A "" j)
    (hf : A key (.object merged.fields)) (hs : ∀ k j, (k, j) ∈ schema → A k j)
    (h : mergeFieldList? merge earlier later merged schema = some result) :
    A key (.object result.fields) := by
  induction schema generalizing merged with
  | nil => cases h; exact hf
  | cons field rest ih =>
    obtain ⟨k, value⟩ := field
    obtain ⟨next, hn, h⟩ := Option.bind_eq_some_iff.mp h
    have hv := hs k value List.mem_cons_self
    exact ih (hm.mergeField? ha he hl hf hv hn) (fun k j hj => hs k j (List.mem_cons_of_mem _ hj)) h

theorem Keeps.mergeObject? {merged result : Merged} {schema : Fields}
    (hf : A key (.object merged.fields)) (hs : A key (.object schema))
    (h : mergeObject? merge merged schema = some result) : A key (.object result.fields) := by
  have hl (lists : Bool) : A key (.object (if lists then listNothing schema else schema)) := by
    cases lists
    case true  => exact ha.listNothing hs
    case false => exact hs
  simp only [Merge.mergeObject?] at h
  refine hm.mergeFieldList? ha (fun j hj => ha.loose (ha.get? hf hj))
    (fun j hj => ha.loose (ha.get? hs hj)) ?_ (fun _ _ => ha.field (hl _)) h
  split
  case isTrue  => exact ha.listNothing hf
  case isFalse => exact hf

theorem Keeps.mergeObjects? {merged result : Merged} {objects : List Fields}
    (hf : A key (.object merged.fields)) (hs : ∀ schema ∈ objects, A key (.object schema))
    (h : mergeObjects? merge merged objects = some result) : A key (.object result.fields) := by
  induction objects generalizing merged with
  | nil => cases h; exact hf
  | cons schema rest ih =>
    obtain ⟨next, hn, h⟩ := Option.bind_eq_some_iff.mp h
    have ⟨hs, hr⟩ := List.forall_mem_cons.mp hs
    exact ih (hm.mergeObject? ha hf hs hn) hr h

end Keeps

theorem eq_map_of_mapM_asObject? {objects : List Fields}
    (h : schemas.mapM Json.asObject? = some objects) : schemas = objects.map .object := by
  induction schemas generalizing objects with
  | nil => cases h; rfl
  | cons j rest ih =>
    simp only [List.mapM_cons, Option.bind_eq_bind, Option.bind_eq_some_iff] at h
    obtain ⟨first, hj, others, hr, h⟩ := h
    cases h
    cases j <;> simp only [Json.asObject?, reduceCtorEq, Option.some.injEq] at hj
    simp [hj, ← ih hr]

theorem mem_of_mem_mapM_asObject? {objects : List Fields} {fields : Fields}
    (h : schemas.mapM Json.asObject? = some objects) (hf : fields ∈ objects) :
    .object fields ∈ schemas :=
  eq_map_of_mapM_asObject? h ▸ List.mem_map_of_mem hf

theorem mergeLevels?_cases {levels : Nat} (h : mergeLevels? levels schemas = some j) :
    j ∈ schemas ∨ ∃ fields, j = .object fields := by
  cases levels with
  | zero => simp [mergeLevels?] at h
  | succ levels =>
    simp only [mergeLevels?] at h
    split at h
    case h_1 => cases h; exact .inr ⟨_, rfl⟩
    case h_2 hl => cases h; exact .inl (mem_of_mem_substantial (by simp [hl]))
    case h_3 =>
      simp only [Option.bind_eq_bind, Option.bind_eq_some_iff, Option.some.injEq] at h
      obtain ⟨_, _, _, _, rfl⟩ := h
      exact .inr ⟨_, rfl⟩

theorem exists_levels (schemas : List Json) : ∃ levels, levelBound schemas = levels + 1 :=
  ⟨_, (Nat.succ_pred_eq_of_pos (Nat.mul_pos (Nat.succ_pos _) (Nat.succ_pos _))).symm⟩

theorem tryMerge?_cases (h : tryMerge? schemas = some j) :
    j ∈ schemas ∨ ∃ fields, j = .object fields :=
  mergeLevels?_cases h

theorem mergeAll_cases (schemas : List Json) :
    mergeAll schemas ∈ schemas ∨ ∃ fields, mergeAll schemas = .object fields := by
  unfold mergeAll conjoin
  cases h : tryMerge? schemas with
  | none   => exact .inr ⟨_, rfl⟩
  | some j => exact tryMerge?_cases h

-- By induction on the levels: each merges its schemas as the levels below do theirs.
theorem Stable.mergeLevels? (ha : Stable A) (levels : Nat) : Keeps A (mergeLevels? levels) := by
  induction levels with
  | zero => simp [Keeps, Merge.mergeLevels?]
  | succ levels ih =>
    intro key schemas merged hs h
    have hs : ∀ j ∈ substantial schemas, A key j := fun j hj => hs j (mem_of_mem_substantial hj)
    simp only [Merge.mergeLevels?] at h
    split at h
    case h_1    => cases h; exact ha.empty key
    case h_2 hl => cases h; exact hs _ (by simp [hl])
    case h_3 =>
      simp only [Option.bind_eq_bind, Option.bind_eq_some_iff, Option.some.injEq] at h
      obtain ⟨objects, ho, result, hr, rfl⟩ := h
      refine ih.mergeObjects? ha (ha.empty key) (fun fields hf => ?_) hr
      exact hs _ (mem_of_mem_mapM_asObject? ho hf)

theorem Stable.tryMerge? (ha : Stable A) : Keeps A tryMerge? :=
  fun key schemas => ha.mergeLevels? (levelBound schemas) key schemas

theorem Stable.mergeAll (ha : Stable A) (h : ∀ j ∈ schemas, A key j) : A key (mergeAll schemas) :=
  ha.tryMerge?.conjoin ha h

end JsonSchema.Merge
