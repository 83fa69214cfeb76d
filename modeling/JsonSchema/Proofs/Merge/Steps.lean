import JsonSchema.Proofs.Json.Stepwise
import JsonSchema.Proofs.Merge.Keys

namespace JsonSchema

namespace Merge

variable {merge : List Json → Option Json} {earlier later : Option Json}

theorem stepwise_mergeFieldList? :
    Fields.Stepwise Merged.at (mergeField? merge earlier later) (mergeFieldList? merge earlier later) where
  nil _           := rfl
  cons _ _ _ _    := rfl
  apart h _ ho    := (at_mergeField? h).right _ ho

def unionField? (combine : Json → Json → Option Json) (current : Fields) (key : String) (value : Json) :
    Option Fields :=
  match Fields.get? current key with
  | none => some (Fields.insert key value current)
  | some existing =>
    if existing == value then some current
    else (combine existing value).map (Fields.insert key · current)

theorem stepwise_unionFields? {combine : Json → Json → Option Json} :
    Fields.Stepwise Fields.get? (unionField? combine) (unionFields? combine) where
  nil _ := rfl
  cons current key value rest := by
    simp only [unionFields?, unionField?]
    cases Fields.get? current key with
    | none          => rfl
    | some existing =>
      dsimp only
      split
      case isTrue  => rfl
      case isFalse => cases combine existing value <;> rfl
  apart := by
    intro current next key value h other ho
    unfold unionField? at h
    split at h
    case h_1 =>
      cases h
      rw [Fields.get?_insert, if_neg ho.symm]
    case h_2 =>
      split at h
      case isTrue  => cases h; rfl
      case isFalse =>
        obtain ⟨_, _, rfl⟩ := Option.map_eq_some_iff.mp h
        rw [Fields.get?_insert, if_neg ho.symm]

def addProperty? (merge : List Json → Option Json) (additional : Option Json) (listed : Fields)
    (name : String) (property : Json) : Option Fields :=
  match Fields.get? listed name with
  | some existing =>
    if existing == property then some listed
    else (mergeSchema? merge existing property).map (Fields.insert name · listed)
  | none =>
    match restricted? (fun property extra => conjoin merge [extra, property]) additional property with
    | some restricted => some (Fields.insert name restricted listed)
    | none            => some listed

theorem stepwise_addProperties? {additional : Option Json} :
    Fields.Stepwise Fields.get? (addProperty? merge additional) (addProperties? merge additional) where
  nil _ := rfl
  cons listed name property rest := by
    simp only [addProperties?, addProperty?]
    cases Fields.get? listed name with
    | none =>
      dsimp only
      split <;> simp only [restricted?, Option.bind_some]
    | some existing =>
      dsimp only
      split
      case isTrue  => rfl
      case isFalse => cases mergeSchema? merge existing property <;> rfl
  apart := by
    intro listed next name property h other ho
    unfold addProperty? at h
    split at h
    case h_1 =>
      split at h
      case isTrue  => cases h; rfl
      case isFalse =>
        obtain ⟨_, _, rfl⟩ := Option.map_eq_some_iff.mp h
        rw [Fields.get?_insert, if_neg ho.symm]
    case h_2 =>
      split at h <;> cases h
      case h_1 => rw [Fields.get?_insert, if_neg ho.symm]
      case h_2 => rfl

theorem mergeFieldList?_append {before fields : Fields} (hs : Fields.Sorted (before ++ fields)) :
    mergeFieldList? merge earlier later ⟨before, []⟩ fields = some ⟨before ++ fields, []⟩ := by
  induction fields generalizing before with
  | nil => simp [mergeFieldList?]
  | cons field rest ih =>
    obtain ⟨keyword, value⟩ := field
    have hb : before ++ (keyword, value) :: rest = before ++ [(keyword, value)] ++ rest := by simp
    rw [hb] at hs ⊢
    have hl : Fields.Sorted (before ++ [(keyword, value)]) := (List.pairwise_append.mp hs).left
    have hn : Fields.get? before keyword = none := by
      refine Fields.get?_eq_none_iff.mpr fun hk => ?_
      obtain ⟨field, hf, he⟩ := List.mem_map.mp hk
      have hlt := (List.pairwise_append.mp hl).right.right field hf (keyword, value) (by simp)
      exact String.lt_irrefl _ (he ▸ hlt)
    have hf : mergeField? merge earlier later ⟨before, []⟩ keyword value =
        some ⟨before ++ [(keyword, value)], []⟩ := by
      simp [mergeField?, hn, hl.insert_last]
    rw [stepwise_mergeFieldList?.cons, hf]
    exact ih hs

theorem mergeObject?_nil {schema : Fields} (hs : Fields.Sorted schema) :
    mergeObject? merge ⟨[], []⟩ schema = some ⟨schema, []⟩ := by
  have hp : primed schema [] = schema := by simp [primed, Fields.contains, Fields.get?]
  have hn : primed [] schema = [] := by simp [primed, Fields.get?, limitsOthers]
  rw [mergeObject?_eq, hp, hn]
  exact mergeFieldList?_append hs

theorem mergeObjects?_cons {schema : Fields} (hs : Fields.Sorted schema) (rest : List Fields) :
    mergeObjects? merge ⟨[], []⟩ (schema :: rest) = mergeObjects? merge ⟨schema, []⟩ rest := by
  simp [mergeObjects?, mergeObject?_nil hs]

theorem mergeObjects?_append {merged : Merged} (objects rest : List Fields) :
    mergeObjects? merge merged (objects ++ rest) =
      (mergeObjects? merge merged objects).bind (mergeObjects? merge · rest) := by
  induction objects generalizing merged with
  | nil => rfl
  | cons schema others ih =>
    simp only [List.cons_append, mergeObjects?, Option.bind_assoc]
    exact congrArg _ (funext fun _ => ih)

-- The keywords of merged schemas are theirs but for the identifiers on which they disagree.
theorem Gathers.isSome_iff {objects : List Fields} {merged : Merged} (hg : Gathers objects merged)
    (keyword : String) : (Fields.get? merged.fields keyword).isSome = true ↔
      Carried objects keyword ∧ ¬ (keyword ∈ identifiers ∧ Contested objects keyword) := by
  by_cases hp : keyword = "properties"
  case pos =>
    subst hp
    have hi : "properties" ∉ identifiers := by decide
    rw [and_iff_left fun h => hi h.left]
    exact hg.listed.right
  case neg =>
    have hk := hg.keyword keyword fun h => absurd h hp
    by_cases hd : keyword ∈ merged.dropped
    case pos =>
      have ⟨hi, hc, hn⟩ := hk.leftOut (decide_eq_true hd)
      have hn : Fields.get? merged.fields keyword = none := hn
      simp [hi, hc, hn]
    case neg =>
      have hd : (merged.at keyword).1 = false := decide_eq_false hd
      rw [and_iff_left fun ⟨hi, hc⟩ => hk.agreed hd hi hc]
      exact hk.carried hd

theorem Gathers.dropped_eq_nil {objects : List Fields} {merged : Merged} (hg : Gathers objects merged)
    (h : ∀ keyword ∈ identifiers, ¬ Contested objects keyword) : merged.dropped = [] := by
  refine List.eq_nil_iff_forall_not_mem.mpr fun keyword hd => ?_
  have hp : keyword = "properties" → ¬ Restricted objects := by
    rintro rfl
    exact absurd hd hg.listed.left
  have ⟨hi, hc, _⟩ := (hg.keyword keyword hp).leftOut (decide_eq_true hd)
  exact h keyword hi hc

section Level

variable {schemas : List Json}

-- One level of merging, given what merges the schemas below the keywords.
def mergeLevel? (merge : List Json → Option Json) (schemas : List Json) : Option Json :=
  match substantial schemas with
  | []       => some (.object [])
  | [schema] => some schema
  | several  => do
    let objects ← several.mapM Json.asObject?
    let merged ← mergeObjects? merge ⟨[], []⟩ objects
    some (.object merged.fields)

theorem mergeLevels?_succ (levels : Nat) (schemas : List Json) :
    mergeLevels? (levels + 1) schemas = mergeLevel? (mergeLevels? levels) schemas :=
  rfl

theorem mapM_asObject?_map (objects : List Fields) :
    (objects.map Json.object).mapM Json.asObject? = some objects := by
  rw [List.mapM_map, show Json.asObject? ∘ Json.object = fun schema => pure (id schema) from rfl,
    List.mapM_pure, List.map_id]
  rfl

theorem mergeLevel?_objects {first : Fields} {rest : List Fields}
    (hs : substantial schemas = (first :: rest).map .object) (hf : Fields.Sorted first) :
    mergeLevel? merge schemas =
      (mergeObjects? merge ⟨first, []⟩ rest).map fun merged => .object merged.fields := by
  unfold mergeLevel?
  cases rest with
  | nil => simp [hs, mergeObjects?]
  | cons second rest =>
    have ho := mapM_asObject?_map (first :: second :: rest)
    simp only [List.map_cons] at hs ho
    simp only [hs, ho, Option.bind_eq_bind, Option.bind_some, mergeObjects?_cons hf, Option.map_eq_bind]
    rfl

theorem mergeLevel?_eq_none (hs : 1 < (substantial schemas).length)
    (ho : (substantial schemas).mapM Json.asObject? = none) : mergeLevel? merge schemas = none := by
  unfold mergeLevel?
  split
  case h_1 h => simp [h] at hs
  case h_2 h => simp [h] at hs
  case h_3   => rw [ho]; rfl

end Level

section Single

variable {keyword : String} {values : List Json}

def single (keyword : String) (value : Json) : Fields := [(keyword, value)]

def combine? (merge : List Json → Option Json) (keyword : String) (current incoming : Json) : Option Json :=
  if current == incoming then some current
  else (mergeValues merge none none keyword current incoming).kept?

section Steps

variable (hk : keyword ∉ ["properties", "additionalProperties"] ++ identifiers)

include hk

theorem mergeObject?_single (current incoming : Json) :
    mergeObject? merge ⟨single keyword current, []⟩ (single keyword incoming) =
      (combine? merge keyword current incoming).map fun value => ⟨single keyword value, []⟩ := by
  simp only [List.mem_append, List.mem_cons, List.not_mem_nil, or_false, not_or] at hk
  obtain ⟨⟨hp, ha⟩, hi⟩ := hk
  have he : mergeObject? merge ⟨single keyword current, []⟩ (single keyword incoming) =
      mergeField? merge none none ⟨single keyword current, []⟩ keyword incoming := by
    simp [mergeObject?, mergeFieldList?, single, hp, ha, Fields.get?, Fields.contains, limitsOthers]
  have hd : mergeValues merge none none keyword current incoming ≠ .drop :=
    fun h => hi (mergeValues_eq_drop_iff.mp h)
  rw [he]
  simp only [mergeField?, combine?, single, Fields.get?, List.not_mem_nil, if_false, if_true]
  split
  case isTrue => rfl
  case isFalse =>
    cases h : mergeValues merge none none keyword current incoming
    case keep     => simp [Outcome.kept?, Fields.insert]
    case drop     => exact absurd h hd
    case conflict => rfl

theorem mergeObjects?_singles (current : Json) :
    mergeObjects? merge ⟨single keyword current, []⟩ (values.map (single keyword)) =
      (values.foldlM (combine? merge keyword) current).map fun value => ⟨single keyword value, []⟩ := by
  induction values generalizing current with
  | nil => rfl
  | cons value rest ih =>
    rw [List.map_cons, mergeObjects?, mergeObject?_single hk, List.foldlM_cons]
    cases combine? merge keyword current value with
    | none          => rfl
    | some combined => exact ih combined

theorem tryMerge?_singles (first : Json) (rest : List Json) :
    ∃ levels, tryMerge? ((first :: rest).map fun value => .object (single keyword value)) =
      (rest.foldlM (combine? (mergeLevels? levels) keyword) first).map
        fun value => .object (single keyword value) := by
  have hmap : ((first :: rest).map fun value => Json.object (single keyword value)) =
      (single keyword first :: rest.map (single keyword)).map .object := by simp
  have hs : substantial ((single keyword first :: rest.map (single keyword)).map .object) =
      (single keyword first :: rest.map (single keyword)).map .object := by
    rw [substantial_map_object, List.filter_eq_self.mpr]
    simp [single]
  have hf : Fields.Sorted (single keyword first) := by simp [single, Fields.Sorted]
  obtain ⟨levels, hl⟩ := exists_levels ((single keyword first :: rest.map (single keyword)).map .object)
  refine ⟨levels, ?_⟩
  rw [hmap, tryMerge?, hl, mergeLevels?_succ, mergeLevel?_objects hs hf, mergeObjects?_singles hk,
    Option.map_map]
  rfl

end Steps

end Single

end Merge

end JsonSchema
