import JsonSchema.Proofs.Merge.Dropping

namespace JsonSchema.Merge

open Validator

variable {merge : List Json → Option Json} {keyword : String} {current incoming value j : Json}
variable {left right node : Fields}

theorem mergeObject?_of_none {merged : Merged} {schema : Fields}
    (hm : Fields.get? merged.fields "additionalProperties" = none)
    (hs : Fields.get? schema "additionalProperties" = none) :
    mergeObject? merge merged schema = mergeFieldList? merge none none merged schema := by
  simp [mergeObject?, hm, hs, limitsOthers]

theorem partKeywords_subset : partKeywords ⊆ readKeywords := by decide

theorem bounds_subset : lowerBounds ++ upperBounds ⊆ readKeywords := by decide

theorem strict_mem {strict : String} (h : strict ∈ strictKeyword? keyword) :
    strict ∈ lowerBounds ++ upperBounds := by
  obtain rfl | rfl | hn := strictKeyword?_cases keyword
  case inr.inr => simp [hn] at h
  all_goals
    cases h
    decide

def Merges (merge : List Json → Option Json) (keyword : String) (left right merged : Option Json) : Prop :=
  match right with
  | none       => merged = left
  | some value =>
    United (fun current value => (mergeValues merge none none keyword current value).kept?) keyword left value
      merged

theorem Merges.united {left merged : Option Json}
    (h : Merges merge keyword left (some incoming) merged) :
    United (fun current value => (mergeValues merge none none keyword current value).kept?) keyword left
      incoming merged :=
  h

theorem merges_mergeFieldList? {merged result : Merged} {schema : Fields}
    (hd : ∀ keyword ∈ merged.dropped, keyword ∉ readKeywords) (hs : Fields.Sorted schema)
    (h : mergeFieldList? merge none none merged schema = some result) (hk : keyword ∈ readKeywords) :
    Merges merge keyword (Fields.get? merged.fields keyword) (Fields.get? schema keyword)
      (Fields.get? result.fields keyword) := by
  have ⟨hu, _⟩ := updates_mergeFieldList? hd h
  cases hv : Fields.get? schema keyword with
  | none       => exact hu.get?_of_none hv
  | some value => exact hu.get?_of_get? hs hv hk

theorem kept?_mergeBound_of_flag {tighter : Binary64 → Binary64 → Bool}
    (hf : current = .bool true ∨ incoming = .bool true) :
    (mergeBound tighter current incoming).kept? = none := by
  rcases hf with rfl | rfl
  case inl => rfl
  case inr => cases current <;> rfl

theorem Merges.flag {a b merged : Option Json} (hk : keyword ∈ lowerBounds ++ upperBounds)
    (h : Merges merge keyword a b merged) (hf : a = some (.bool true) ∨ b = some (.bool true)) :
    merged = some (.bool true) := by
  cases b with
  | none =>
    have h : merged = a := h
    simpa [h] using hf
  | some incoming =>
    cases a with
    | none =>
      have h : merged = some incoming := h
      simpa [h] using hf
    | some current =>
      simp only [Option.some.injEq] at hf
      rcases h with ⟨he, h⟩ | ⟨_, combined, hv, h⟩
      case inl =>
        have hc : current.canonical = incoming.canonical := Json.canonical_eq_of_same he
        rcases hf with rfl | rfl
        case inl => exact h
        case inr =>
          cases current <;> simp [Json.canonical] at hc
          rw [h, hc]
      case inr =>
        simp only [mergeValues] at hv
        cases List.mem_append.mp hk
        case inl hk => simp [ofKeyword_of_mem_lowerBounds hk, kept?_mergeBound_of_flag hf] at hv
        case inr hk => simp [ofKeyword_of_mem_upperBounds hk, kept?_mergeBound_of_flag hf] at hv

theorem hasFlag_iff : hasFlag node keyword = true ↔ Fields.get? node keyword = some (.bool true) := by
  unfold hasFlag
  cases Fields.get? node keyword with
  | none       => simp
  | some value => cases value <;> simp [Json.asBool?]

theorem demands_of_ruleKeyword {merged : Fields} (hj : j.Instance)
    (hf : ∀ strict ∈ strictKeyword? keyword, hasFlag node strict = true → hasFlag merged strict = true)
    (h : Demands (ruleKeyword merged keyword) value j) : Demands (ruleKeyword node keyword) value j := by
  unfold ruleKeyword at h ⊢
  cases hs : strictKeyword? keyword with
  | none        => simpa [hs] using h
  | some strict =>
    simp only [hs, Option.filter_some] at h ⊢
    cases hn : hasFlag node strict with
    | true  => simpa [hn, hf strict hs hn] using h
    | false =>
      simp only [Bool.false_eq_true, if_false, Option.getD_none]
      split at h
      case isTrue  => exact demands_of_strict hj hs h
      case isFalse => exact h

section Nodes

variable (hl : Simple (.object left)) (hr : Simple (.object right))

include hl hr

theorem merges_mergeObjects? {result : Merged}
    (h : mergeObjects? merge ⟨[], []⟩ [left, right] = some result) (hk : keyword ∈ readKeywords) :
    Merges merge keyword (Fields.get? left keyword) (Fields.get? right keyword)
      (Fields.get? result.fields keyword) := by
  have hnone {node} (h : Simple (.object node)) : Fields.get? node "additionalProperties" = none :=
    h.get?_eq_none (by decide)
  have hsorted {node} (h : Simple (.object node)) : Fields.Sorted node :=
    (Json.wellFormed_object.mp h.wellFormed).left
  obtain ⟨first, hf, h⟩ := Option.bind_eq_some_iff.mp h
  obtain ⟨second, h, hres⟩ := Option.bind_eq_some_iff.mp h
  cases hres
  rw [mergeObject?_of_none rfl (hnone hl)] at hf
  have hfirst {keyword} (hk : keyword ∈ readKeywords) :
      Fields.get? first.fields keyword = Fields.get? left keyword := by
    have hm := merges_mergeFieldList? (by simp) (hsorted hl) hf hk
    cases hv : Fields.get? left keyword with
    | none       => rwa [hv] at hm
    | some value => rwa [hv] at hm
  rw [mergeObject?_of_none ((hfirst (by decide)).trans (hnone hl)) (hnone hr)] at h
  have hd := (updates_mergeFieldList? (by simp) hf).right
  have hm := merges_mergeFieldList? hd (hsorted hr) h hk
  rwa [hfirst hk] at hm

variable {result : Fields} (hm : Restores merge)
variable (hmerge : ∀ keyword ∈ readKeywords, Merges merge keyword (Fields.get? left keyword)
  (Fields.get? right keyword) (Fields.get? result keyword))

include hm hmerge

theorem Restores.nodes (hj : j.Instance) (hd : MeetsDropped (.object left) (.object right) j)
    (h : Accepts (.object result) j) : Accepts (.object left) j ∧ Accepts (.object right) j := by
  have hn : Fields.get? result "additionalItems" = none := by
    have hmerge := hmerge "additionalItems" (by decide)
    rwa [hl.get?_eq_none (by decide), hr.get?_eq_none (by decide)] at hmerge
  have hkey keyword (hk : keyword ∈ partKeywords) :
      (∀ v ∈ Fields.get? left keyword, Demands (ruleKeyword result keyword) v j) ∧
        ∀ v ∈ Fields.get? right keyword, Demands (ruleKeyword result keyword) v j := by
    have hmerge := hmerge keyword (partKeywords_subset hk)
    have hdem {v} (hv : Fields.get? result keyword = some v) : Demands (ruleKeyword result keyword) v j :=
      demands_of_accepts hn h hk hv
    cases hv : Fields.get? right keyword with
    | none =>
      rw [hv] at hmerge
      exact ⟨fun v hc => hdem (hmerge.trans hc), by simp⟩
    | some incoming =>
      rw [hv] at hmerge
      have hvs := hr.only hv
      have hboth := hmerge.united.both (fun _ => hdem) ?same ?combined
      case same =>
        intro current hc he
        have hsc : current.Signed := (hl.only hc).signed.field List.mem_cons_self
        have hsv : incoming.Signed := hvs.signed.field List.mem_cons_self
        exact (demands_iff_of_canonical hsc hsv (Json.canonical_eq_of_same he)).mp
      case combined =>
        intro current hc hne combined hb
        exact hm.mergeValues (hl.only hc) hvs hj (fun c p hd' => hd c p (.node ⟨hc, hv, hne⟩ hd')) hb
      exact ⟨hboth.left, by simpa using hboth.right⟩
  have hflag {keyword strict} (hs : strict ∈ strictKeyword? keyword)
      (hf : hasFlag left strict = true ∨ hasFlag right strict = true) : hasFlag result strict = true := by
    have hk : strict ∈ lowerBounds ++ upperBounds := strict_mem hs
    simp only [hasFlag_iff] at hf ⊢
    exact (hmerge strict (bounds_subset hk)).flag hk hf
  constructor
  case left =>
    refine hl.accepts_iff.mpr fun keyword value hv => ?_
    exact demands_of_ruleKeyword hj (fun strict hs hf => hflag hs (.inl hf))
      ((hkey keyword (hl.get? hv).mem).left value hv)
  case right =>
    refine hr.accepts_iff.mpr fun keyword value hv => ?_
    exact demands_of_ruleKeyword hj (fun strict hs hf => hflag hs (.inr hf))
      ((hkey keyword (hr.get? hv).mem).right value hv)

end Nodes

theorem mergeLevels?_pair {s t merged : Json} {levels : Nat}
    (h : mergeLevels? (levels + 1) [s, t] = some merged) :
    merged = .object [] ∧ substantial [s, t] = [] ∨ merged ∈ [s, t] ∧ substantial [s, t] = [merged] ∨
      ∃ left right result, s = .object left ∧ t = .object right ∧ merged = .object result.fields ∧
        mergeObjects? (mergeLevels? levels) ⟨[], []⟩ [left, right] = some result := by
  simp only [mergeLevels?] at h
  split at h
  case h_1 he =>
    cases h
    exact .inl ⟨rfl, he⟩
  case h_2 single he =>
    cases h
    exact .inr (.inl ⟨mem_of_mem_substantial (by simp [he]), he⟩)
  case h_3 hne hns =>
    have he : substantial [s, t] = [s, t] := by
      unfold substantial at hne hns ⊢
      cases hs : isIdentity s <;> cases ht : isIdentity t <;> simp_all
    simp only [Option.bind_eq_bind, Option.bind_eq_some_iff, Option.some.injEq] at h
    obtain ⟨objects, ho, result, hr, rfl⟩ := h
    have hobj := eq_map_of_mapM_asObject? ho
    rw [he] at hobj
    obtain ⟨left, rest, rfl, rfl, hrest⟩ := List.map_eq_cons_iff.mp hobj.symm
    obtain ⟨right, others, rfl, rfl, hothers⟩ := List.map_eq_cons_iff.mp hrest
    obtain rfl := List.map_eq_nil_iff.mp hothers
    exact .inr (.inr ⟨left, right, result, rfl, rfl, rfl, hr⟩)

theorem restores_mergeLevels? (levels : Nat) : Restores (mergeLevels? levels) := by
  induction levels with
  | zero => exact ⟨by simp [mergeLevels?], by simp [mergeLevels?]⟩
  | succ levels ih =>
    constructor
    case object =>
      intro left right merged hv
      obtain ⟨rfl, _⟩ | ⟨hm, _⟩ | ⟨_, _, result, _, _, rfl, _⟩ := mergeLevels?_pair hv
      case inl     => exact ⟨_, rfl⟩
      case inr.inr => exact ⟨_, rfl⟩
      case inr.inl =>
        simp only [List.mem_cons, List.not_mem_nil, or_false] at hm
        rcases hm with rfl | rfl <;> exact ⟨_, rfl⟩
    case accepts =>
      intro left right merged j hv hl hr hj hd h
      have hpair (h : ∀ s ∈ substantial [left, right], Accepts s j) : Accepts left j ∧ Accepts right j := by
        simpa using (forall_substantial hj).mp h
      obtain ⟨_, he⟩ | ⟨_, he⟩ | ⟨ls, rs, result, rfl, rfl, rfl, hres⟩ := mergeLevels?_pair hv
      case inl     => exact hpair (by simp [he])
      case inr.inl => exact hpair (by simpa [he] using h)
      case inr.inr => exact ih.nodes hl hr (fun _ hk => merges_mergeObjects? hl hr hres hk) hj hd h

theorem restores_tryMerge? : Restores tryMerge? where
  object hv  := (restores_mergeLevels? (levelBound _)).object hv
  accepts hv := (restores_mergeLevels? (levelBound _)).accepts hv

theorem DroppedBy.strictKeyword?_eq_none {s part : Json} (h : DroppedBy s part keyword current incoming j) :
    strictKeyword? keyword = none := by
  cases h with
  | inexact hi _ =>
    rcases hi with rfl | ⟨hk, _⟩
    case inl => rfl
    case inr => exact strictKeyword?_of_mem_limits hk
  | _ => rfl

theorem Simple.demands (hl : Simple (.object left)) (ha : Accepts (.object left) j)
    (hs : strictKeyword? keyword = none) (hv : Fields.get? left keyword = some value) :
    Demands keyword value j := by
  have h := hl.accepts_iff.mp ha keyword value hv
  simpa [ruleKeyword, hs] using h

theorem sizeOf_lt_of_item {item : Json} {items : List Json} (h : item ∈ items) :
    sizeOf item < sizeOf (Json.array items) := by
  have := List.sizeOf_lt_of_mem h
  simp
  omega

theorem sizeOf_lt_of_field {name : String} {part : Json} {fields : Fields} (h : (name, part) ∈ fields) :
    sizeOf part < sizeOf (Json.object fields) := by
  have := List.sizeOf_lt_of_mem h
  simp at this ⊢
  omega

mutual
theorem Dropped.accepts {s part a b j : Json} (h : Dropped s part a b j) (hl : Simple a) (hr : Simple b)
    (ha : Accepts a j) (hb : Accepts b j) : Accepts s part := by
  cases h with
  | node hd hby =>
    have hs := hby.strictKeyword?_eq_none
    exact hby.accepts (hl.only hd.left) (hr.only hd.right) (hl.demands ha hs hd.left)
      (hr.demands hb hs hd.right)
termination_by (sizeOf j, 1)

theorem DroppedBy.accepts {s part a b j : Json} {keyword : String} (h : DroppedBy s part keyword a b j)
    (hl : Simple (only keyword a)) (hr : Simple (only keyword b)) (ha : Demands keyword a j)
    (hb : Demands keyword b j) : Accepts s part := by
  have hk := (hl.of_mem List.mem_cons_self).mem
  cases h with
  | inexact hi hv =>
    simp only [List.mem_cons, List.not_mem_nil, or_false] at hv
    rcases hv with rfl | rfl
    case inl => exact (accepts_only hk).mpr ha
    case inr => exact (accepts_only hk).mpr hb
  | moved i hn hs hc hp =>
    cases hs with
    | inl hs =>
      have h := demands_tuple.mp ha _ rfl i _ hs
      rwa [hp] at h
    | inr hs =>
      have h := demands_tuple.mp hb _ rfl i _ hs
      rwa [hp] at h
  | behind hx hn hp =>
    have hp := List.mem_of_mem_drop hp
    rcases hx with ⟨rfl, rfl⟩ | ⟨rfl, rfl⟩
    case inl => exact demands_items.mp hb _ rfl _ hp
    case inr => exact demands_items.mp ha _ rfl _ hp
  | slot i hx hslot hp hd =>
    have hm := List.mem_of_getElem? hp
    have hlt := sizeOf_lt_of_item hm
    rcases hx with ⟨rfl, rfl⟩ | ⟨rfl, rfl⟩
    case inl =>
      have h := demands_tuple.mp ha _ rfl i _ hslot
      rw [hp] at h
      exact hd.accepts (hl.slot rfl (List.mem_of_getElem? hslot)) (hr.list rfl) h
        (demands_items.mp hb _ rfl _ hm)
    case inr =>
      have h := demands_tuple.mp hb _ rfl i _ hslot
      rw [hp] at h
      exact hd.accepts (hr.slot rfl (List.mem_of_getElem? hslot)) (hl.list rfl) h
        (demands_items.mp ha _ rfl _ hm)
  | item hm hd =>
    have hlt := sizeOf_lt_of_item hm
    exact hd.accepts (hl.list rfl) (hr.list rfl) (demands_items.mp ha _ rfl _ hm)
      (demands_items.mp hb _ rfl _ hm)
  | property hn hn' hp hd =>
    have hlt := sizeOf_lt_of_field (Fields.mem_of_get? hp)
    have h := demands_properties.mp ha _ rfl _ _ (Fields.mem_of_get? hn)
    have h' := demands_properties.mp hb _ rfl _ _ (Fields.mem_of_get? hn')
    rw [hp] at h h'
    exact hd.accepts (hl.property rfl hn) (hr.property rfl hn') h h'
termination_by (sizeOf j, 0)
end

-- A value that is accepted for two merged schemas for parts is accepted for both of them exactly if it is as
-- the dropped constraints ask for.
theorem isValid_mergeAll_pair_iff {left right j : Json} (hl : Simple left) (hr : Simple right)
    (hj : j.Instance) (h : (ofSchema (mergeAll [left, right])).isValid j = true) :
    ((ofSchema left).isValid j = true ∧ (ofSchema right).isValid j = true) ↔
      ∀ s part : Json, Dropped s part left right j → (ofSchema s).isValid part = true := by
  simp only [isValid_iff] at h ⊢
  constructor
  case mp  => exact fun ⟨ha, hb⟩ s part hd => hd.accepts hl hr ha hb
  case mpr => exact fun hd => restores_tryMerge?.conjoin hl hr hj hd h

def text : Json := only "type" (.string "string")

def number : Json := only "type" (.string "number")

theorem simple_type (name : String) : Simple (only "type" (.string name)) :=
  simple_only (.leaf _ (by decide)) trivial fun _ _ ho => by cases ho

theorem simple_tuple {slots : List Json} (h : ∀ s ∈ slots, Simple s) :
    Simple (only "items" (.array slots)) := by
  refine simple_only (.tuple h) (Json.wellFormed_array.mpr fun s hs => (h s hs).wellFormed) ?_
  intro negative magnitude ho
  cases ho with
  | item hm ho => exact (h _ hm).signed negative magnitude ho

theorem simple_list {list : Fields} (h : Simple (.object list)) : Simple (only "items" (.object list)) :=
  simple_only (.list h) h.wellFormed h.signed

-- The tuple is merged with the schema for all items slot by slot, and there is no item behind it.
theorem isValid_mergeAll_pair_row :
    let left := only "items" (.array [text, number])
    let right := only "items" (only "minimum" (.ofNat 0))
    let row := Json.array [.string "a", .ofNat 1]
    Simple left ∧ Simple right ∧ row.Instance ∧ (ofSchema (mergeAll [left, right])).isValid row = true ∧
      (((ofSchema left).isValid row = true ∧ (ofSchema right).isValid row = true) ↔
        ∀ s part : Json, Dropped s part left right row → (ofSchema s).isValid part = true) := by
  intro left right row
  have hl : Simple left := simple_tuple (by simp [text, number, simple_type])
  have hr : Simple right :=
    simple_list (simple_only (.leaf _ (by decide)) (by decide) fun _ _ ho => by cases ho)
  have hj : row.Instance := by
    refine ⟨.array (by simp) fun j hm => ?_, by decide⟩
    simp only [List.mem_cons, List.not_mem_nil, or_false] at hm
    rcases hm with rfl | rfl
    case inl => exact .string (by decide)
    case inr => exact .number _
  have h : (ofSchema (mergeAll [left, right])).isValid row = true := by decide +kernel
  exact ⟨hl, hr, hj, h, isValid_mergeAll_pair_iff hl hr hj h⟩

-- Both slots are common to the tuples, but only in one of these at these places. Nothing is left of what is
-- asked of the items behind a tuple.
theorem not_isValid_mergeAll_pair_swapped :
    let left := only "items" (.array [text, number])
    let right := only "items" (.array [number, text])
    let first := only "items" (.array [text])
    let each := only "items" text
    let row := Json.array [.string "a", .ofNat 1]
    (ofSchema (mergeAll [left, right])).isValid row = true ∧ (ofSchema right).isValid row = false ∧
      (ofSchema (mergeAll [first, each])).isValid row = true ∧ (ofSchema each).isValid row = false := by
  decide +kernel

end JsonSchema.Merge
