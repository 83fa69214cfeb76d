import JsonSchema.Proofs.Merge.Conjunction

namespace JsonSchema.Merge

variable {merge : List Json → Option Json} {earlier later : Option Json}

-- The value of a keyword in the first schema that has it.
def first? (objects : List Fields) (keyword : String) : Option Json :=
  objects.findSome? (Fields.get? · keyword)

-- Some of the schemas have the keyword.
def Carried (objects : List Fields) (keyword : String) : Prop :=
  ∃ schema ∈ objects, keyword ∈ Fields.keys schema

-- Two of the schemas give the keyword different values.
def Contested (objects : List Fields) (keyword : String) : Prop :=
  ∃ left ∈ objects, ∃ right ∈ objects, ∃ v ∈ Fields.get? left keyword,
    ∃ w ∈ Fields.get? right keyword, (v == w) = false

-- Some of the schemas list no properties and refuse or constrain those that are not listed.
def Restricted (objects : List Fields) : Prop :=
  ∃ schema ∈ objects, Fields.contains schema "properties" = false ∧
    limitsOthers (Fields.get? schema "additionalProperties") = true

-- Whether a keyword is left out for good, and its value so far.
def Merged.at (merged : Merged) (keyword : String) : Bool × Option Json :=
  (keyword ∈ merged.dropped, Fields.get? merged.fields keyword)

inductive Meets (merge : List Json → Option Json) (earlier later : Option Json) (keyword : String)
    (value : Json) : Bool × Option Json → Bool × Option Json → Prop
  | leftOut (v) : Meets merge earlier later keyword value (true, v) (true, v)
  | new         : Meets merge earlier later keyword value (false, none) (false, some value)
  | kept {current} :
    (current == value) = true →
      Meets merge earlier later keyword value (false, some current) (false, some current)
  | combined {current v} :
    (current == value) = false → mergeValues merge earlier later keyword current value = .keep v →
      Meets merge earlier later keyword value (false, some current) (false, some v)
  | dropped {current} :
    (current == value) = false → keyword ∈ identifiers →
      Meets merge earlier later keyword value (false, some current) (true, none)

theorem at_mergeField? {merged result : Merged} {keyword : String} {value : Json}
    (h : mergeField? merge earlier later merged keyword value = some result) :
    Meets merge earlier later keyword value (merged.at keyword) (result.at keyword) ∧
      ∀ other, other ≠ keyword → result.at other = merged.at other := by
  unfold mergeField? at h
  split at h
  case isTrue hd =>
    cases h
    exact ⟨by simpa [Merged.at, hd] using .leftOut _, fun _ _ => rfl⟩
  case isFalse hd =>
    split at h
    case h_1 hn =>
      cases h
      refine ⟨?_, fun other ho => ?_⟩
      case refine_1 => simpa [Merged.at, hd, hn, Fields.get?_insert] using .new
      case refine_2 => simp [Merged.at, Fields.get?_insert, ho.symm]
    case h_2 current hc =>
      split at h
      case isTrue hs =>
        cases h
        exact ⟨by simpa [Merged.at, hd, hc] using .kept hs, fun _ _ => rfl⟩
      case isFalse hs =>
        have hs : (current == value) = false := by simpa using hs
        split at h <;> cases h
        case h_1 combined hv =>
          refine ⟨?_, fun other ho => ?_⟩
          case refine_1 => simpa [Merged.at, hd, hc, Fields.get?_insert] using .combined hs hv
          case refine_2 => simp [Merged.at, Fields.get?_insert, ho.symm]
        case h_2 hv =>
          refine ⟨?_, fun other ho => ?_⟩
          case refine_1 =>
            simpa [Merged.at, hd, hc, Fields.get?_erase] using
              .dropped hs (mergeValues_eq_drop_iff.mp hv)
          case refine_2 => simp [Merged.at, Fields.get?_erase, ho, ho.symm]

def Takes (merge : List Json → Option Json) (earlier later : Option Json) (keyword : String) :
    Option Json → Bool × Option Json → Bool × Option Json → Prop
  | none, before, after       => after = before
  | some value, before, after => Meets merge earlier later keyword value before after

theorem takes_mergeFieldList? {merged result : Merged} {schema : Fields} (hs : Fields.Sorted schema)
    (h : mergeFieldList? merge earlier later merged schema = some result) (keyword : String) :
    Takes merge earlier later keyword (Fields.get? schema keyword) (merged.at keyword)
      (result.at keyword) := by
  induction schema generalizing merged with
  | nil => cases h; rfl
  | cons field rest ih =>
    obtain ⟨k, value⟩ := field
    obtain ⟨next, hn, h⟩ := Option.bind_eq_some_iff.mp h
    have ⟨hm, ho⟩ := at_mergeField? hn
    have hr := ih hs.cons h
    rw [Fields.get?_cons]
    split
    case isTrue hk =>
      subst hk
      rw [Fields.get?_eq_none_iff.mpr hs.not_mem_keys] at hr
      exact hr ▸ hm
    case isFalse hk => exact ho keyword (Ne.symm hk) ▸ hr

section Values

variable {objects : List Fields} {schema : Fields} {keyword : String}

theorem first?_append : first? (objects ++ [schema]) keyword =
    (first? objects keyword).or (Fields.get? schema keyword) := by
  simp [first?, List.findSome?_append]

theorem carried_append : Carried (objects ++ [schema]) keyword ↔
    Carried objects keyword ∨ Fields.contains schema keyword = true := by
  simp [Carried, or_and_right, exists_or, Fields.contains, Fields.get?_isSome_iff]

theorem carried_iff : Carried objects keyword ↔ (first? objects keyword).isSome = true := by
  simp [first?, Carried, List.findSome?_isSome_iff, Fields.get?_isSome_iff]

theorem mem_of_first? {v : Json} (h : first? objects keyword = some v) :
    ∃ schema ∈ objects, Fields.get? schema keyword = some v :=
  List.exists_of_findSome?_eq_some h

theorem Contested.append (h : Contested objects keyword) :
    Contested (objects ++ [schema]) keyword := by
  obtain ⟨left, hl, right, hr, h⟩ := h
  exact ⟨left, List.mem_append_left _ hl, right, List.mem_append_left _ hr, h⟩

theorem Restricted.append (h : Restricted objects) : Restricted (objects ++ [schema]) := by
  obtain ⟨other, ho, h⟩ := h
  exact ⟨other, List.mem_append_left _ ho, h⟩

theorem contested_of_first? {v w : Json} (hv : first? objects keyword = some v)
    (hw : Fields.get? schema keyword = some w) (h : (v == w) = false) :
    Contested (objects ++ [schema]) keyword := by
  obtain ⟨other, ho, hv⟩ := mem_of_first? hv
  exact ⟨other, List.mem_append_left _ ho, schema, by simp, v, hv, w, hw, h⟩

-- Schemas agree on a keyword if their values are one and the same, up to the signs of zeros.
theorem not_contested_iff (hw : ∀ schema ∈ objects, (Json.object schema).WellFormed) :
    ¬ Contested objects keyword ↔
      ∀ left ∈ objects, ∀ right ∈ objects, ∀ v ∈ Fields.get? left keyword,
        ∀ w ∈ Fields.get? right keyword, v.canonical = w.canonical := by
  simp only [Contested, not_exists, not_and, Bool.not_eq_false]
  refine forall_congr' fun left => forall_congr' fun hl => forall_congr' fun right =>
    forall_congr' fun hr => forall_congr' fun v => forall_congr' fun hv => forall_congr' fun w =>
    forall_congr' fun hv' => ?_
  exact Json.beq_iff_canonical_eq ((hw left hl).get? hv) ((hw right hr).get? hv')

theorem not_contested_append
    (hw : ∀ other ∈ objects ++ [schema], (Json.object other).WellFormed)
    (hn : ¬ Contested objects keyword)
    (h : ∀ v ∈ first? objects keyword, ∀ w ∈ Fields.get? schema keyword, (v == w) = true) :
    ¬ Contested (objects ++ [schema]) keyword := by
  have hn := (not_contested_iff fun other ho => hw other (List.mem_append_left _ ho)).mp hn
  have hs {other v w} (ho : other ∈ objects) (hv : Fields.get? other keyword = some v)
      (hsw : Fields.get? schema keyword = some w) : v.canonical = w.canonical := by
    have hc : Carried objects keyword := ⟨other, ho, Fields.get?_isSome_iff.mp (by simp [hv])⟩
    obtain ⟨u, hf⟩ := Option.isSome_iff_exists.mp (carried_iff.mp hc)
    obtain ⟨leader, hl, hu⟩ := mem_of_first? hf
    exact (hn other ho leader hl v hv u hu).trans (Json.canonical_eq_of_same (h u hf w hsw))
  rw [not_contested_iff hw]
  intro left hl right hr v hv w hw'
  simp only [List.mem_append, List.mem_singleton] at hl hr
  rcases hl with hl | rfl <;> rcases hr with hr | rfl
  case inl.inl => exact hn left hl right hr v hv w hw'
  case inl.inr => exact hs hl hv hw'
  case inr.inl => exact (hs hr hw' hv).symm
  case inr.inr => cases hv.symm.trans hw'; rfl

end Values

structure Gathered (objects : List Fields) (keyword : String) (state : Bool × Option Json) : Prop where
  leftOut : state.1 = true → keyword ∈ identifiers ∧ Contested objects keyword ∧ state.2 = none
  agreed  : state.1 = false → keyword ∈ identifiers → ¬ Contested objects keyword
  carried : state.1 = false → (state.2.isSome = true ↔ Carried objects keyword)
  first   : ¬ Contested objects keyword → state.2 = first? objects keyword

theorem Takes.isSome_iff {keyword : String} {value : Option Json} {before after : Bool × Option Json}
    (h : Takes merge earlier later keyword value before after) (ha : after.1 = false) :
    before.1 = false ∧ (after.2.isSome = true ↔ before.2.isSome = true ∨ value.isSome = true) := by
  cases value with
  | none => cases h; simp [ha]
  | some value => cases h <;> simp_all

theorem Takes.not_leftOut {keyword : String} {value : Option Json} {before after : Bool × Option Json}
    (h : Takes merge earlier later keyword value before after) (hk : keyword ∉ identifiers)
    (hb : before.1 = false) : after.1 = false := by
  cases value with
  | none       => exact h ▸ hb
  | some value => cases h <;> simp_all

theorem Gathered.append {objects : List Fields} {schema : Fields} {keyword : String}
    {before after : Bool × Option Json} (hg : Gathered objects keyword before)
    (hw : ∀ other ∈ objects ++ [schema], (Json.object other).WellFormed)
    (h : Takes merge earlier later keyword (Fields.get? schema keyword) before after) :
    Gathered (objects ++ [schema]) keyword after where
  leftOut := by
    intro ha
    cases hv : Fields.get? schema keyword with
    | none =>
      rw [hv] at h
      obtain rfl := h
      have ⟨hi, hc, hn⟩ := hg.leftOut ha
      exact ⟨hi, hc.append, hn⟩
    | some value =>
      rw [hv] at h
      cases h <;> simp only [Bool.false_eq_true] at ha
      case leftOut =>
        have ⟨hi, hc, hn⟩ := hg.leftOut rfl
        exact ⟨hi, hc.append, hn⟩
      case dropped current hs hi =>
        have hf := hg.first (hg.agreed rfl hi)
        exact ⟨hi, contested_of_first? hf.symm hv hs, rfl⟩
  agreed := by
    intro ha hi
    have hn := hg.agreed (h.isSome_iff ha).left hi
    refine not_contested_append hw hn fun v hf w hv => ?_
    rw [hv] at h
    have hf : before.2 = some v := (hg.first hn).trans hf
    cases h <;> simp only [Option.some.injEq, reduceCtorEq, Bool.true_eq_false] at hf ha
    case kept hs       => exact hf ▸ hs
    case combined _ hk => simp [mergeValues_eq_drop_iff.mpr hi] at hk
  carried := by
    intro ha
    have ⟨hb, hs⟩ := h.isSome_iff ha
    rw [hs, carried_append, hg.carried hb, Fields.contains]
  first := by
    intro hn
    have hf := hg.first fun hc => hn hc.append
    rw [first?_append]
    cases hv : Fields.get? schema keyword with
    | none =>
      rw [hv] at h
      obtain rfl := h
      simpa using hf
    | some value =>
      rw [hv] at h
      cases h
      case leftOut          => exact absurd (hg.leftOut rfl).right.left.append hn
      case new              => simp [← hf]
      case kept             => simp [← hf]
      case combined hs _    => exact absurd (contested_of_first? hf.symm hv hs) hn
      case dropped hs _     => exact absurd (contested_of_first? hf.symm hv hs) hn

structure Gathers (objects : List Fields) (merged : Merged) : Prop where
  keyword keyword : (keyword = "properties" → ¬ Restricted objects) →
    Gathered objects keyword (merged.at keyword)
  listed  : "properties" ∉ merged.dropped ∧
    (Fields.contains merged.fields "properties" = true ↔ Carried objects "properties")
  limits  : limitsOthers (Fields.get? merged.fields "additionalProperties") = true →
    ∃ schema ∈ objects, limitsOthers (Fields.get? schema "additionalProperties") = true

theorem limitsOthers_of_mergeSchema? {current incoming merged : Json}
    (h : mergeSchema? merge current incoming = some merged) (hl : limitsOthers (some merged) = true) :
    limitsOthers (some current) = true ∨ limitsOthers (some incoming) = true := by
  unfold mergeSchema? at h
  split at h <;> cases h
  case h_1 => exact .inl rfl
  case h_2 => exact .inr rfl
  case h_3 => exact .inr hl
  case h_4 => exact .inl hl
  case h_5 => exact .inl rfl

theorem limitsOthers_of_takes {value : Option Json} {before after : Bool × Option Json}
    (h : Takes merge earlier later "additionalProperties" value before after)
    (hl : limitsOthers after.2 = true) : limitsOthers before.2 = true ∨ limitsOthers value = true := by
  cases value with
  | none =>
    obtain rfl := h
    exact .inl hl
  | some value =>
    cases h
    case leftOut | kept => exact .inl hl
    case new            => exact .inr hl
    case dropped        => simp [limitsOthers] at hl
    case combined current v _ hk =>
      have hk : Outcome.ofOption (mergeSchema? merge current value) = .keep v := hk
      cases hm : mergeSchema? merge current value <;> rw [hm] at hk <;> cases hk
      exact limitsOthers_of_mergeSchema? hm hl

section Step

variable {objects : List Fields} {merged result : Merged} {schema : Fields}
variable (hg : Gathers objects merged)

include hg

theorem Gathers.not_limitsOthers (hr : ¬ Restricted objects)
    (hn : Fields.contains merged.fields "properties" = false) :
    limitsOthers (Fields.get? merged.fields "additionalProperties") = false := by
  refine Bool.eq_false_iff.mpr fun hl => ?_
  obtain ⟨other, ho, hlo⟩ := hg.limits hl
  refine hr ⟨other, ho, Bool.eq_false_iff.mpr fun hc => ?_, hlo⟩
  have hc : Carried objects "properties" := ⟨other, ho, Fields.get?_isSome_iff.mp hc⟩
  simp [hg.listed.right.mpr hc] at hn

theorem Gathers.mergeObject? (hw : ∀ other ∈ objects ++ [schema], (Json.object other).WellFormed)
    (h : mergeObject? merge merged schema = some result) : Gathers (objects ++ [schema]) result := by
  rw [mergeObject?_eq] at h
  have hs := (Json.wellFormed_object.mp (wellFormed_primed merged.fields (hw schema (by simp)))).left
  have ht := takes_mergeFieldList? hs h
  constructor
  case keyword =>
    intro keyword hk
    have hb : Merged.at { merged with fields := primed merged.fields schema } keyword =
        merged.at keyword :=
      congrArg (Prod.mk _) <| get?_primed fun hp hn =>
        hg.not_limitsOthers (fun hc => hk hp hc.append) hn
    have hv : Fields.get? (primed schema merged.fields) keyword = Fields.get? schema keyword :=
      get?_primed fun hp hn => Bool.eq_false_iff.mpr fun ha => hk hp ⟨schema, by simp, hn, ha⟩
    have ht := ht keyword
    rw [hb, hv] at ht
    exact (hg.keyword keyword fun hp hc => hk hp hc.append).append hw ht
  case listed =>
    have ⟨hd, hc⟩ := hg.listed
    have ht := ht "properties"
    have hd : decide ("properties" ∈ result.dropped) = false :=
      ht.not_leftOut (by decide) (decide_eq_false hd)
    have hs : Fields.contains result.fields "properties" = true ↔
        Fields.contains (primed merged.fields schema) "properties" = true ∨
          Fields.contains (primed schema merged.fields) "properties" = true :=
      (ht.isSome_iff hd).right
    refine ⟨of_decide_eq_false hd, ?_⟩
    rw [hs, carried_append, ← hc]
    constructor
    case mp  => exact fun h => h.elim of_contains_primed fun h => (of_contains_primed h).symm
    case mpr => exact fun h => h.imp contains_primed contains_primed
  case limits =>
    have hn : "additionalProperties" ≠ "properties" := by decide
    intro ha
    cases limitsOthers_of_takes (ht _) ha
    case inl ha =>
      have ha : limitsOthers (Fields.get? (primed merged.fields schema) "additionalProperties") = true :=
        ha
      rw [get?_primed fun hp => absurd hp hn] at ha
      obtain ⟨other, ho, hlo⟩ := hg.limits ha
      exact ⟨other, List.mem_append_left _ ho, hlo⟩
    case inr ha =>
      rw [get?_primed fun hp => absurd hp hn] at ha
      exact ⟨schema, by simp, ha⟩

omit hg in
theorem Gathers.mergeObjects? {rest : List Fields} (hg : Gathers objects merged)
    (hw : ∀ other ∈ objects ++ rest, (Json.object other).WellFormed)
    (h : mergeObjects? merge merged rest = some result) : Gathers (objects ++ rest) result := by
  induction rest generalizing objects merged with
  | nil => cases h; simpa using hg
  | cons schema rest ih =>
    obtain ⟨next, hn, h⟩ := Option.bind_eq_some_iff.mp h
    have hw' : ∀ other ∈ objects ++ [schema] ++ rest, (Json.object other).WellFormed := by
      simpa using hw
    have hs := hg.mergeObject? (fun other ho => hw' other (List.mem_append_left _ ho)) hn
    simpa using ih hs hw' h

end Step

theorem gathered_nil {keyword : String} : Gathered [] keyword (false, none) where
  leftOut := by simp
  agreed  := by simp [Contested]
  carried := by simp [Carried]
  first   := by simp [first?]

theorem gathers_nil : Gathers [] ⟨[], []⟩ where
  keyword := fun _ _ => gathered_nil
  listed  := by simp [Carried, Fields.contains, Fields.get?]
  limits  := by simp [Fields.get?, limitsOthers]

theorem gathers_singleton {schema : Fields} (hw : (Json.object schema).WellFormed) :
    Gathers [schema] ⟨schema, []⟩ where
  keyword := fun keyword _ =>
    have hn : ¬ Contested [schema] keyword := (not_contested_iff (by simpa using hw)).mpr <| by
      simp +contextual
    { leftOut := by simp [Merged.at]
      agreed  := fun _ _ => hn
      carried := by simp [Merged.at, Carried, Fields.get?_isSome_iff]
      first   := by simp [Merged.at, first?] }
  listed  := by simp [Carried, Fields.contains, Fields.get?_isSome_iff]
  limits  := by simp

section Substantial

variable {objects : List Fields} {keyword : String}

theorem substantial_map_object (objects : List Fields) :
    substantial (objects.map .object) = (objects.filter (!·.isEmpty)).map .object := by
  simp [substantial, List.filter_map, Function.comp_def, isIdentity]

theorem mem_filter_of_get? {schema : Fields} {v : Json} (h : schema ∈ objects)
    (hv : Fields.get? schema keyword = some v) : schema ∈ objects.filter (!·.isEmpty) := by
  refine List.mem_filter.mpr ⟨h, ?_⟩
  cases schema <;> simp [Fields.get?] at hv ⊢

theorem first?_filter : first? (objects.filter (!·.isEmpty)) keyword = first? objects keyword := by
  induction objects with
  | nil => rfl
  | cons schema rest ih =>
    cases schema with
    | nil             => exact ih
    | cons field tail =>
      simp only [first?] at ih
      simp [first?, List.findSome?_cons, ih]

theorem carried_filter : Carried (objects.filter (!·.isEmpty)) keyword ↔ Carried objects keyword := by
  rw [carried_iff, first?_filter, carried_iff]

theorem contested_filter :
    Contested (objects.filter (!·.isEmpty)) keyword ↔ Contested objects keyword := by
  constructor
  case mp =>
    rintro ⟨left, hl, right, hr, h⟩
    exact ⟨left, (List.mem_filter.mp hl).left, right, (List.mem_filter.mp hr).left, h⟩
  case mpr =>
    rintro ⟨left, hl, right, hr, v, hv, w, hw, h⟩
    exact ⟨left, mem_filter_of_get? hl hv, right, mem_filter_of_get? hr hw, v, hv, w, hw, h⟩

theorem Restricted.of_filter (h : Restricted (objects.filter (!·.isEmpty))) :
    Restricted objects := by
  obtain ⟨schema, hs, h⟩ := h
  exact ⟨schema, (List.mem_filter.mp hs).left, h⟩

theorem gathers_mergeLevels? {levels : Nat} {merged : Json}
    (hw : ∀ schema ∈ objects, (Json.object schema).WellFormed)
    (h : mergeLevels? levels (objects.map .object) = some merged) :
    ∃ result : Merged, merged = .object result.fields ∧
      Gathers (objects.filter (!·.isEmpty)) result := by
  have hw : ∀ schema ∈ objects.filter (!·.isEmpty), (Json.object schema).WellFormed :=
    fun schema hs => hw schema (List.mem_filter.mp hs).left
  cases levels with
  | zero => simp [mergeLevels?] at h
  | succ levels =>
    simp only [mergeLevels?, substantial_map_object] at h
    generalize objects.filter (!·.isEmpty) = said at h hw ⊢
    split at h
    case h_1 he =>
      cases h
      exact ⟨⟨[], []⟩, rfl, List.map_eq_nil_iff.mp he ▸ gathers_nil⟩
    case h_2 single he =>
      cases h
      obtain ⟨schema, rfl, rfl⟩ := List.map_eq_singleton_iff.mp he
      exact ⟨⟨schema, []⟩, rfl, gathers_singleton (by simpa using hw)⟩
    case h_3 =>
      simp only [Option.bind_eq_bind, Option.bind_eq_some_iff, Option.some.injEq] at h
      obtain ⟨others, ho, result, hr, rfl⟩ := h
      obtain rfl := (List.map_inj_right fun _ _ => Json.object.inj).mp (eq_map_of_mapM_asObject? ho)
      exact ⟨result, rfl, gathers_nil.mergeObjects? hw hr⟩

end Substantial

-- No keyword is lost in a merge but the identifiers on which the schemas disagree, and a keyword on
-- which they agree is kept as it is, but for `properties` that some other schema restricts.
theorem keywords_tryMerge? {objects : List Fields} {merged : Json}
    (hw : ∀ schema ∈ objects, (Json.object schema).WellFormed)
    (h : tryMerge? (objects.map .object) = some merged) :
    ∃ fields, merged = .object fields ∧
      (∀ keyword, keyword ∈ Fields.keys fields ↔
        Carried objects keyword ∧ ¬ (keyword ∈ identifiers ∧ Contested objects keyword)) ∧
      ∀ keyword, Carried objects keyword → ¬ Contested objects keyword →
        (keyword = "properties" → ¬ Restricted objects) →
          Fields.get? fields keyword = first? objects keyword := by
  obtain ⟨result, rfl, hg⟩ := gathers_mergeLevels? hw h
  refine ⟨result.fields, rfl, fun keyword => ?keys, fun keyword _ hn hr => ?value⟩
  case value =>
    rw [← first?_filter]
    refine (hg.keyword keyword fun hp hc => hr hp hc.of_filter).first ?_
    rwa [contested_filter]
  case keys =>
    rw [← Fields.get?_isSome_iff, ← carried_filter, ← contested_filter]
    by_cases hp : keyword = "properties"
    case pos =>
      subst hp
      have hi : "properties" ∉ identifiers := by decide
      simpa [hi, Fields.contains] using hg.listed.right
    case neg =>
      have hk := hg.keyword keyword fun h => absurd h hp
      cases hd : (result.at keyword).1
      case false =>
        have ha : ¬ (keyword ∈ identifiers ∧ Contested _ keyword) :=
          fun h => hk.agreed hd h.left h.right
        rw [and_iff_left ha]
        exact hk.carried hd
      case true =>
        obtain ⟨hi, hc, hn⟩ := hk.leftOut hd
        have hn : Fields.get? result.fields keyword = none := hn
        simp [hi, hc, hn]

-- Two lists of names under different identifiers, the first of which comes again.
theorem keywords_tryMerge?_identified :
    let objects : List Fields :=
      [[("$id", .string "person"), ("required", .ofStrings ["name"]), ("title", .string "text")],
        [("$id", .string "buyer"), ("required", .ofStrings ["name", "city"])],
        [("$id", .string "person"), ("title", .string "text")]]
    let fields : Fields := [("required", .ofStrings ["name", "city"]), ("title", .string "text")]
    tryMerge? (objects.map .object) = some (.object fields) ∧
      (∀ keyword, keyword ∈ Fields.keys fields ↔
        Carried objects keyword ∧ ¬ (keyword ∈ identifiers ∧ Contested objects keyword)) ∧
      ∀ keyword, Carried objects keyword → ¬ Contested objects keyword →
        (keyword = "properties" → ¬ Restricted objects) →
          Fields.get? fields keyword = first? objects keyword := by
  intro objects fields
  have hm : tryMerge? (objects.map .object) = some (.object fields) := by rfl
  obtain ⟨_, he, h⟩ := keywords_tryMerge? (by decide) hm
  cases he
  exact ⟨hm, h⟩

end JsonSchema.Merge
