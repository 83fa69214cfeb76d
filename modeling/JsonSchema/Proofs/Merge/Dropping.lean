import JsonSchema.Proofs.Merge.Conjunction
import JsonSchema.Proofs.Merge.Parts

namespace JsonSchema.Merge

open Validator

structure Differ (keyword : String) (left right : Fields) (current incoming : Json) : Prop where
  left   : Fields.get? left keyword = some current
  right  : Fields.get? right keyword = some incoming
  differ : (current == incoming) = false

-- Numbers that are not merged exactly: those with common multiples, and limits that are no counts or that
-- are too great.
def Inexact (keyword : String) (current incoming : Json) : Prop :=
  keyword = "multipleOf" ∨
    keyword ∈ upperLimits ++ lowerLimits ∧
      ∀ m n, current = .ofNat m → incoming = .ofNat n →
        ¬(m ≤ Binary64.exactLimit ∧ n ≤ Binary64.exactLimit)

-- A tuple on one side, and a schema for all items on the other one.
def Mixed (current incoming : Json) (slots : List Json) (list : Fields) : Prop :=
  current = .array slots ∧ incoming = .object list ∨ current = .object list ∧ incoming = .array slots

mutual
-- What `s` says of a part of `j` is dropped where two schemas for `j` are merged.
inductive Dropped : (s part left right j : Json) → Prop
  | node {left right keyword current incoming s part j} :
    Differ keyword left right current incoming → DroppedBy s part keyword current incoming j →
      Dropped s part (.object left) (.object right) j

inductive DroppedBy : (s part : Json) → (keyword : String) → (current incoming j : Json) → Prop
  | inexact {keyword current incoming value j} :
    Inexact keyword current incoming → value ∈ [current, incoming] →
      DroppedBy (only keyword value) j keyword current incoming j
  | moved {ls rs s part items} (i : Nat) :
    Json.intersect ls rs ≠ [] → ls[i]? = some s ∨ rs[i]? = some s →
      (∀ t, (Json.intersect ls rs)[i]? = some t → (t == s) = false) → items[i]? = some part →
        DroppedBy s part "items" (.array ls) (.array rs) (.array items)
  | behind {current incoming slots list part items} :
    Mixed current incoming slots list → slots ≠ [] → part ∈ items.drop slots.length →
      DroppedBy (.object list) part "items" current incoming (.array items)
  | slot {current incoming slots list slot item s part items} (i : Nat) :
    Mixed current incoming slots list → slots[i]? = some slot → items[i]? = some item →
      Dropped s part slot (.object list) item → DroppedBy s part "items" current incoming (.array items)
  | item {ls rs item s part items} :
    item ∈ items → Dropped s part (.object ls) (.object rs) item →
      DroppedBy s part "items" (.object ls) (.object rs) (.array items)
  | property {ls rs name a b value s part fields} :
    Fields.get? ls name = some a → Fields.get? rs name = some b → Fields.get? fields name = some value →
      Dropped s part a b value → DroppedBy s part "properties" (.object ls) (.object rs) (.object fields)
end

-- A value is as the dropped constraints ask for.
def MeetsDropped (left right j : Json) : Prop := ∀ s part, Dropped s part left right j → Accepts s part

def MeetsDroppedBy (keyword : String) (current incoming j : Json) : Prop :=
  ∀ s part, DroppedBy s part keyword current incoming j → Accepts s part

variable {merge : List Json → Option Json} {keyword : String} {current incoming value j : Json}
variable {left right node : Fields}

theorem leafKeywords_cases (h : keyword ∈ leafKeywords) :
    keyword ∈ ["const", "pattern", "format"] ∨ keyword = "type" ∨ keyword = "enum" ∨
      keyword = "uniqueItems" ∨ keyword = "multipleOf" ∨ keyword ∈ upperLimits ++ lowerLimits ∨
        keyword ∈ lowerBounds ∨ keyword ∈ upperBounds := by
  revert keyword
  decide

theorem ruleKeyword_mem_lowerBounds (h : keyword ∈ lowerBounds) :
    ruleKeyword node keyword ∈ lowerBounds := by
  simp only [lowerBounds, List.mem_cons, List.not_mem_nil, or_false] at h ⊢
  rcases h with rfl | rfl <;> simp only [ruleKeyword, strictKeyword?, Option.filter_some]
  case inl => split <;> simp
  case inr => simp

theorem ruleKeyword_mem_upperBounds (h : keyword ∈ upperBounds) :
    ruleKeyword node keyword ∈ upperBounds := by
  simp only [upperBounds, List.mem_cons, List.not_mem_nil, or_false] at h ⊢
  rcases h with rfl | rfl <;> simp only [ruleKeyword, strictKeyword?, Option.filter_some]
  case inl => split <;> simp
  case inr => simp

theorem partKeywords_of_mem_limits (h : keyword ∈ upperLimits ++ lowerLimits) :
    keyword ∈ partKeywords := by
  revert keyword
  decide

theorem strictKeyword?_of_mem_limits (h : keyword ∈ upperLimits ++ lowerLimits) :
    strictKeyword? keyword = none := by
  revert keyword
  decide

theorem demands_of_mergeAlternatives (hj : j.Instance)
    (hv : (mergeAlternatives current incoming).kept? = some value) (h : Demands "enum" value j) :
    Demands "enum" current j ∧ Demands "enum" incoming j := by
  unfold mergeAlternatives at hv
  split at hv
  case h_2 => simp [Outcome.kept?] at hv
  case h_1 ls rs =>
    dsimp only at hv
    split at hv <;> cases hv
    rw [demands_enum hj] at h ⊢
    rw [demands_enum hj]
    exact ⟨holds_enum_of_canonical (fun c hc => ⟨c, Json.mem_of_mem_intersect hc, rfl⟩) h,
      holds_enum_of_canonical (fun c hc => Json.exists_right_of_mem_intersect hc) h⟩

theorem demands_of_mergeFlags (hj : j.Instance) (hv : (mergeFlags current incoming).kept? = some value)
    (h : Demands "uniqueItems" value j) :
    Demands "uniqueItems" current j ∧ Demands "uniqueItems" incoming j := by
  cases current <;> cases incoming <;> try cases hv
  case bool.bool b c => exact (((joins_mergeFlags b c).of_kept? rfl).demands j hj).mp h

section Bounds

variable (hc : current.WellFormed) (hi : incoming.WellFormed) (hj : j.Instance)

include hc hi hj

theorem demands_of_mergeBound_lower (hk : keyword ∈ lowerBounds)
    (hv : (mergeBound (fun x y => y.numLt x) current incoming).kept? = some value)
    (h : Demands keyword value j) : Demands keyword current j ∧ Demands keyword incoming j := by
  cases current <;> cases incoming <;> try cases hv
  case number.number m n =>
    obtain ⟨k, rfl, hm, hn⟩ := le_of_mergeBound_lower hc hi hv
    exact ⟨demands_of_lowerBound hj hk hm h, demands_of_lowerBound hj hk hn h⟩

theorem demands_of_mergeBound_upper (hk : keyword ∈ upperBounds)
    (hv : (mergeBound Binary64.numLt current incoming).kept? = some value) (h : Demands keyword value j) :
    Demands keyword current j ∧ Demands keyword incoming j := by
  cases current <;> cases incoming <;> try cases hv
  case number.number m n =>
    obtain ⟨k, rfl, hm, hn⟩ := le_of_mergeBound_upper hc hi hv
    exact ⟨demands_of_upperBound hj hk hm h, demands_of_upperBound hj hk hn h⟩

end Bounds

section Leaf

variable (hd : MeetsDroppedBy keyword current incoming j)

include hd

theorem MeetsDroppedBy.inexact (hk : keyword ∈ partKeywords) (hi : Inexact keyword current incoming) :
    Demands keyword current j ∧ Demands keyword incoming j := by
  have h {value} (hv : value ∈ [current, incoming]) : Demands keyword value j :=
    (accepts_only hk).mp (hd _ _ (.inexact hi hv))
  exact ⟨h (by simp), h (by simp)⟩

theorem MeetsDroppedBy.limit (hj : j.Instance) (hk : keyword ∈ upperLimits ++ lowerLimits)
    (hv : (mergeValues merge none none keyword current incoming).kept? = some value)
    (h : Demands keyword value j) : Demands keyword current j ∧ Demands keyword incoming j := by
  by_cases hi : Inexact keyword current incoming
  case pos => exact hd.inexact (partKeywords_of_mem_limits hk) hi
  case neg =>
    simp only [Inexact, hk, true_and, not_or, not_forall, not_not] at hi
    obtain ⟨_, m, n, rfl, rfl, hm, hn⟩ := hi
    simp only [mergeValues] at hv
    cases List.mem_append.mp hk
    case inl hu =>
      rw [ofKeyword_of_mem_upperLimits hu] at hv
      exact (((joins_upperBound hu hm hn).of_kept? hv).demands j hj).mp h
    case inr hl =>
      rw [ofKeyword_of_mem_lowerLimits hl] at hv
      exact (((joins_lowerBound hl hm hn).of_kept? hv).demands j hj).mp h

theorem MeetsDroppedBy.leaf (hk : keyword ∈ leafKeywords) (hc : current.WellFormed)
    (hi : incoming.WellFormed) (hj : j.Instance)
    (hv : (mergeValues merge none none keyword current incoming).kept? = some value)
    (h : Demands (ruleKeyword node keyword) value j) :
    Demands (ruleKeyword node keyword) current j ∧ Demands (ruleKeyword node keyword) incoming j := by
  have hr (hs : strictKeyword? keyword = none) : ruleKeyword node keyword = keyword := by
    simp [ruleKeyword, hs]
  obtain hk | rfl | rfl | rfl | rfl | hk | hk | hk := leafKeywords_cases hk
  case inl =>
    simp only [List.mem_cons, List.not_mem_nil, or_false] at hk
    rcases hk with rfl | rfl | rfl <;> cases hv
  case inr.inl =>
    exact (((joins_mergeTypes current incoming).of_kept? hv).demands j hj).mp h
  case inr.inr.inl           => exact demands_of_mergeAlternatives hj hv h
  case inr.inr.inr.inl       => exact demands_of_mergeFlags hj hv h
  case inr.inr.inr.inr.inl   => exact hd.inexact (by decide) (.inl rfl)
  case inr.inr.inr.inr.inr.inl =>
    rw [hr (strictKeyword?_of_mem_limits hk)] at h ⊢
    exact hd.limit hj hk hv h
  case inr.inr.inr.inr.inr.inr.inl =>
    simp only [mergeValues, ofKeyword_of_mem_lowerBounds hk] at hv
    exact demands_of_mergeBound_lower hc hi hj (ruleKeyword_mem_lowerBounds hk) hv h
  case inr.inr.inr.inr.inr.inr.inr =>
    simp only [mergeValues, ofKeyword_of_mem_upperBounds hk] at hv
    exact demands_of_mergeBound_upper hc hi hj (ruleKeyword_mem_upperBounds hk) hv h

end Leaf

theorem MeetsDroppedBy.tuples {ls rs : List Json} (hd : MeetsDroppedBy "items" (.array ls) (.array rs) j)
    (hl : ∀ s ∈ ls, Simple s) (hr : ∀ s ∈ rs, Simple s) (hn : Json.intersect ls rs ≠ [])
    (h : Demands "items" (.array (Json.intersect ls rs)) j) :
    Demands "items" (.array ls) j ∧ Demands "items" (.array rs) j := by
  have key items (hi : j = .array items) (i : Nat) s part (hs : ls[i]? = some s ∨ rs[i]? = some s)
      (hp : items[i]? = some part) : Accepts s part := by
    subst hi
    by_cases hc : ∃ t, (Json.intersect ls rs)[i]? = some t ∧ (t == s) = true
    case pos =>
      obtain ⟨t, ht, he⟩ := hc
      have hpart := demands_tuple.mp h items rfl i t ht
      rw [hp] at hpart
      have hts : Simple t := hl t (Json.mem_of_mem_intersect (List.mem_of_getElem? ht))
      have hss : Simple s := by
        cases hs
        case inl hs => exact hl s (List.mem_of_getElem? hs)
        case inr hs => exact hr s (List.mem_of_getElem? hs)
      exact (hts.accepts_of_canonical hss (Json.canonical_eq_of_same he)).mp hpart
    case neg =>
      simp only [not_exists, not_and, Bool.not_eq_true] at hc
      exact hd _ _ (.moved i hn hs hc hp)
  constructor <;> refine demands_tuple.mpr fun items hi i s hs => ?_
  case left =>
    have hs' := hl s (List.mem_of_getElem? hs)
    exact hs'.passes_iff.mpr fun part hp => key items hi i s part (.inl hs) hp
  case right =>
    have hs' := hr s (List.mem_of_getElem? hs)
    exact hs'.passes_iff.mpr fun part hp => key items hi i s part (.inr hs) hp

-- What two schemas are merged to says all that they say, apart from the dropped constraints.
structure Restores (merge : List Json → Option Json) : Prop where
  object {left right : Fields} {merged : Json} :
    merge [.object left, .object right] = some merged → ∃ fields, merged = .object fields
  accepts {left right merged j : Json} :
    merge [left, right] = some merged → Simple left → Simple right → j.Instance → MeetsDropped left right j →
      Accepts merged j → Accepts left j ∧ Accepts right j

section Restores

variable (hm : Restores merge)

include hm

theorem Restores.exists_conjoin (left right : Fields) :
    ∃ fields, conjoin merge [.object left, .object right] = .object fields := by
  unfold Merge.conjoin
  cases hs : merge [.object left, .object right] with
  | none        => exact ⟨_, rfl⟩
  | some merged => exact hm.object hs

theorem Restores.conjoin {s t : Json} (hs : Simple s) (ht : Simple t) (hj : j.Instance)
    (hd : MeetsDropped s t j) (h : Accepts (conjoin merge [s, t]) j) : Accepts s j ∧ Accepts t j := by
  unfold Merge.conjoin at h
  cases hv : merge [s, t] with
  | some merged =>
    rw [hv] at h
    exact hm.accepts hv hs ht hj hd h
  | none =>
    rw [hv] at h
    simpa using (forall_substantial hj).mp (accepts_allOf.mp h)

theorem Restores.mergeSchema? {s t : Json} (hs : Simple s) (ht : Simple t) (hj : j.Instance)
    (hd : MeetsDropped s t j) (hv : mergeSchema? merge s t = some value) (h : Accepts value j) :
    Accepts s j ∧ Accepts t j := by
  have hf : ¬ Accepts (.bool false) j := by simp [accepts_bool hj]
  have hb : Accepts (.bool true) j := by simp [accepts_bool hj]
  unfold Merge.mergeSchema? at hv
  split at hv <;> cases hv
  case h_1 | h_2 => exact absurd h hf
  case h_3       => exact ⟨hb, h⟩
  case h_4       => exact ⟨h, hb⟩
  case h_5       => exact hm.conjoin hs ht hj hd h

omit hm in
theorem Simple.sorted {fields : Fields} (h : Simple (Merge.only "properties" (.object fields))) :
    Fields.Sorted fields :=
  (Json.wellFormed_object.mp ((Json.wellFormed_object.mp h.wellFormed).right _ _ List.mem_cons_self)).left

section Properties

variable {ls rs result : Fields} (hl : Simple (only "properties" (.object ls)))
variable (hr : Simple (only "properties" (.object rs)))
variable (ha : addProperties? merge none ls rs = some result)

include hl hr ha

theorem Restores.property {fields : Fields} {name : String} {part : Json} (hj : (Json.object fields).Instance)
    (hd : MeetsDroppedBy "properties" (.object ls) (.object rs) (.object fields))
    (h : Demands "properties" (.object result) (.object fields)) (hp : Fields.get? fields name = some part) :
    (∀ s ∈ Fields.get? ls name, Accepts s part) ∧ ∀ s ∈ Fields.get? rs name, Accepts s part := by
  have hu := updates_addProperties? ha
  have hres {s} (hs : Fields.get? result name = some s) : Accepts s part := by
    have h := demands_properties.mp h fields rfl name s (Fields.mem_of_get? hs)
    rwa [hp] at h
  cases hb : Fields.get? rs name with
  | none   => exact ⟨fun s hs => hres ((hu.get?_of_none hb).trans hs), by simp⟩
  | some t =>
    have ht : Simple t := hr.property rfl hb
    have hboth := (hu.get?_of_get? hr.sorted hb).united.both (fun _ => hres) ?same ?combined
    case same =>
      intro s hc he
      exact ((hl.property rfl hc).accepts_of_canonical ht (Json.canonical_eq_of_same he)).mp
    case combined =>
      intro s hc _ combined hv
      have hpi : part.Instance := hj.field (Fields.mem_of_get? hp)
      exact hm.mergeSchema? (hl.property rfl hc) ht hpi
        (fun c p hd' => hd c p (.property hc hb hp hd')) hv
    exact ⟨hboth.left, by simpa using hboth.right⟩

theorem Restores.properties (hj : j.Instance) (hd : MeetsDroppedBy "properties" (.object ls) (.object rs) j)
    (h : Demands "properties" (.object result) j) :
    Demands "properties" (.object ls) j ∧ Demands "properties" (.object rs) j := by
  constructor <;>
    refine demands_properties.mpr ?_ <;>
    rintro fields rfl name s hs
  case left =>
    have hs := hl.sorted.get? hs
    exact (hl.property rfl hs).passes_iff.mpr fun part hp => (hm.property hl hr ha hj hd h hp).left s hs
  case right =>
    have hs := hr.sorted.get? hs
    exact (hr.property rfl hs).passes_iff.mpr fun part hp => (hm.property hl hr ha hj hd h hp).right s hs

end Properties

theorem Restores.lists {ls rs : Fields} (hl : Simple (.object ls)) (hr : Simple (.object rs))
    (hj : j.Instance) (hd : MeetsDroppedBy "items" (.object ls) (.object rs) j)
    (h : Demands "items" (Merge.conjoin merge [.object ls, .object rs]) j) :
    Demands "items" (.object ls) j ∧ Demands "items" (.object rs) j := by
  obtain ⟨fields, he⟩ := hm.exists_conjoin ls rs
  have key items (hi : j = .array items) part (hp : part ∈ items) :
      Accepts (.object ls) part ∧ Accepts (.object rs) part := by
    subst hi
    rw [he] at h
    have hpart := demands_items.mp h items rfl part hp
    rw [← he] at hpart
    exact hm.conjoin hl hr (hj.item hp) (fun c p hc => hd c p (.item hp hc)) hpart
  exact ⟨demands_items.mpr fun items hi part hp => (key items hi part hp).left,
    demands_items.mpr fun items hi part hp => (key items hi part hp).right⟩

omit hm in
theorem of_kept?_mergeSlots {slots : List Json} {list : Json}
    (hv : (mergeSlots merge slots list).kept? = some value) :
    slots ≠ [] ∧ value = .array (slots.map fun slot => Merge.conjoin merge [slot, list]) := by
  unfold mergeSlots at hv
  split at hv <;> cases hv
  case isFalse hn => exact ⟨fun he => hn (he ▸ rfl), rfl⟩

theorem Restores.mixed {slots : List Json} {list : Fields} (hx : Mixed current incoming slots list)
    (hs : ∀ s ∈ slots, Simple s) (hl : Simple (.object list)) (hj : j.Instance)
    (hd : MeetsDroppedBy "items" current incoming j)
    (hv : (mergeSlots merge slots (.object list)).kept? = some value) (h : Demands "items" value j) :
    Demands "items" (.array slots) j ∧ Demands "items" (.object list) j := by
  obtain ⟨hn, rfl⟩ := of_kept?_mergeSlots hv
  have key items (hi : j = .array items) (i : Nat) slot part (hslot : slots[i]? = some slot)
      (hp : items[i]? = some part) : Accepts slot part ∧ Accepts (.object list) part := by
    subst hi
    have hpart := demands_tuple.mp h items rfl i (Merge.conjoin merge [slot, .object list]) (by simp [hslot])
    rw [hp] at hpart
    exact hm.conjoin (hs slot (List.mem_of_getElem? hslot)) hl (hj.item (List.mem_of_getElem? hp))
      (fun c p hc => hd c p (.slot i hx hslot hp hc)) hpart
  constructor
  case left =>
    refine demands_tuple.mpr fun items hi i slot hslot => ?_
    exact (hs slot (List.mem_of_getElem? hslot)).passes_iff.mpr fun part hp =>
      (key items hi i slot part hslot hp).left
  case right =>
    refine demands_items.mpr fun items hi part hp => ?_
    obtain ⟨i, hp⟩ := List.mem_iff_getElem?.mp hp
    cases hslot : slots[i]? with
    | some slot => exact (key items hi i slot part hslot hp).right
    | none =>
      have hle := List.getElem?_eq_none_iff.mp hslot
      have hdrop : (items.drop slots.length)[i - slots.length]? = some part := by
        rw [List.getElem?_drop, Nat.add_sub_cancel' hle, hp]
      rw [hi] at hd
      exact hd _ _ (.behind hx hn (List.mem_of_getElem? hdrop))

theorem Restores.items (hl : Simple (only "items" current)) (hr : Simple (only "items" incoming))
    (hj : j.Instance) (hd : MeetsDroppedBy "items" current incoming j)
    (hv : (mergeItems merge current incoming).kept? = some value) (h : Demands "items" value j) :
    Demands "items" current j ∧ Demands "items" incoming j := by
  have hkl := hl.of_mem List.mem_cons_self
  have hkr := hr.of_mem List.mem_cons_self
  obtain ⟨ls, rfl, hsl⟩ | ⟨ls, rfl, hsl⟩ := hkl.exists_items <;>
    obtain ⟨rs, rfl, hsr⟩ | ⟨rs, rfl, hsr⟩ := hkr.exists_items
  case inl.inl =>
    cases hv
    exact hm.lists hsl hsr hj hd h
  case inl.inr =>
    exact (hm.mixed (.inr ⟨rfl, rfl⟩) hsr hsl hj hd hv h).symm
  case inr.inl =>
    exact hm.mixed (.inl ⟨rfl, rfl⟩) hsl hsr hj hd hv h
  case inr.inr =>
    simp only [mergeItems] at hv
    split at hv <;> cases hv
    case isFalse hn => exact hd.tuples hsl hsr (fun he => hn (he ▸ rfl)) h

theorem Restores.mergeValues (hl : Simple (only keyword current)) (hr : Simple (only keyword incoming))
    (hj : j.Instance) (hd : MeetsDroppedBy keyword current incoming j)
    (hv : (mergeValues merge none none keyword current incoming).kept? = some value)
    (h : Demands (ruleKeyword node keyword) value j) :
    Demands (ruleKeyword node keyword) current j ∧ Demands (ruleKeyword node keyword) incoming j := by
  have hw {value} (h : Simple (only keyword value)) : value.WellFormed :=
    (Json.wellFormed_object.mp h.wellFormed).right _ _ List.mem_cons_self
  cases hl.of_mem List.mem_cons_self
  case leaf hk => exact hd.leaf hk (hw hl) (hw hr) hj hv h
  case properties ls _ =>
    obtain ⟨rs, rfl, _⟩ := (hr.of_mem List.mem_cons_self).exists_properties
    obtain ⟨_, _, result, hel, her, rfl, ha⟩ := exists_addProperties? hv
    cases hel
    cases her
    exact hm.properties hl hr ha hj hd h
  case list  => exact hm.items hl hr hj hd hv h
  case tuple => exact hm.items hl hr hj hd hv h

end Restores

end JsonSchema.Merge
