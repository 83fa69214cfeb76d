import JsonSchema.Proofs.Merge.Conjunction
import JsonSchema.Proofs.Merge.Easing

namespace JsonSchema.Merge

open Validator

variable {merge : List Json → Option Json}

theorem Weakens.combines (hm : Weakens merge) :
    Combines merge (fun s => s.FlagFree ∧ s.WellFormed) (Implied Json.FlagFree Lenient) where
  symm h         := h.symm
  nothing        := ⟨by simp, by simp⟩
  equal ha _ _   := .left_of (by simpa using ha.left)
  conjoin ha hb  := hm.implied_conjoin ha hb
  schema ha hb h := hm.mergeSchema? ha hb h
  free hs _ _    := .left_of (by simpa using hs.left)
  refused h      := ⟨h.fit, fun _ _ _ hr => absurd (lenient_bool.mp (hr _ rfl)) (by simp)⟩

theorem flagFreeAt_of_get? {node : Fields} (h : (Json.object node).FlagFree) {keyword : String}
    {value : Json} (hv : Fields.get? node keyword = some value) : FlagFreeAt keyword value :=
  flagFree_object.mp h keyword value (Fields.mem_of_get? hv)

theorem fits_flagFree {node : Fields}
    (h : (Json.object node).FlagFree ∧ (Json.object node).WellFormed) :
    Fits (fun s => s.FlagFree ∧ s.WellFormed) node where
  listed := by
    intro name s hs
    obtain ⟨schemas, hp, hm⟩ := mem_listed hs
    exact ⟨(flagFreeAt_of_get? h.left hp).below s (.property hm),
      (Json.wellFormed_object.mp (h.right.get? hp)).right name s hm⟩
  others := fun s hs => ⟨(flagFreeAt_of_get? h.left hs).below s .otherProperties, h.right.get? hs⟩

section Nodes

variable {left right merged : Fields} (hm : Weakens merge)
variable (hl : (Json.object left).FlagFree ∧ (Json.object left).WellFormed)
variable (hr : (Json.object right).FlagFree ∧ (Json.object right).WellFormed)
variable (hu : Fields.Updates (MergedTo merge (Fields.get? left "additionalProperties")
  (Fields.get? right "additionalProperties")) left right merged)

include hm hl hr hu

theorem implied_keyword (hp : Preserves merge) {keyword : String} (hk : keyword ≠ "properties")
    (ha : keyword ≠ "additionalProperties") :
    Implied (FlagFreeAt keyword) (Asks keyword) (Fields.get? left keyword)
      (Fields.get? right keyword) (Fields.get? merged keyword) := by
  by_cases hread : keyword ∈ readKeywords
  case neg =>
    refine ⟨fun v _ => flagFreeAt_plain ?_ ?_, fun j hj _ _ v _ => asks_of_not_mem hj hread⟩
    case refine_1 => exact fun h => hread (applying_subset h)
    case refine_2 => exact fun h => absurd (flagKeywords_subset h) hread
  case pos =>
    have hs := (Json.wellFormed_object.mp hr.right).left
    have hfl : ∀ v ∈ Fields.get? left keyword, FlagFreeAt keyword v := fun v hv =>
      flagFreeAt_of_get? hl.left hv
    cases hv : Fields.get? right keyword with
    | none =>
      rw [hu.get?_of_none hv]
      exact .left_of hfl
    | some value =>
      have hfr := flagFreeAt_of_get? hr.left hv
      refine (hu.get?_of_get? hs hv hread).implied hfl hfr fun current hc combined ho => ?_
      have h := (hm.mergeValues hp hread hk ha (hfl current hc) hfr (hl.right.get? hc)
        (hr.right.get? hv)).of_kept? ho
      refine ⟨by simpa using h.flagFree, fun j hj hal har => ?_⟩
      rintro _ ⟨⟩
      exact h.asks j hj (hal current rfl) (har value rfl)

-- One more schema is merged: no keyword asks for more, and neither do the schemas for each property.
theorem follows_merged (hp : Preserves merge) (hwm : (Json.object merged).WellFormed)
    (hnl : Fields.get? left "properties" = none → Fields.get? right "properties" ≠ none →
      limitsOthers (Fields.get? left "additionalProperties") = false)
    (hnr : Fields.get? right "properties" = none → Fields.get? left "properties" ≠ none →
      limitsOthers (Fields.get? right "additionalProperties") = false) :
    Follows (.object merged) [.object left, .object right] := by
  have ⟨hs, _⟩ := Json.wellFormed_object.mp hwm
  have hprop := hm.combines.governing (fits_flagFree hl) (fits_flagFree hr) hr.right hu hnl hnr
  have hadd := hm.combines.additionalProperties (fits_flagFree hl) (fits_flagFree hr) hr.right hu
  have hkey (keyword : String) (hk : keyword ≠ "properties") (ha : keyword ≠ "additionalProperties") :=
    implied_keyword hm hl hr hu hp hk ha
  have hf : (Json.object merged).FlagFree := by
    refine flagFree_object.mpr fun keyword value hv => ?_
    have hv := hs.get? hv
    by_cases hk : keyword = "properties"
    case pos =>
      subst hk
      refine flagFreeAt_fields (by decide) ?_
      rintro schemas name s rfl hs
      have hs := (Json.wellFormed_object.mp (hwm.get? hv)).left.get? hs
      exact (hprop name).fit s (by simp [governing?_of_some hv, hs])
    case neg =>
      by_cases ha : keyword = "additionalProperties"
      case pos =>
        subst ha
        exact flagFreeAt_schema (hadd.fit value hv) (by decide)
      case neg => exact (hkey keyword hk ha).fit value hv
  refine ⟨hf, fun _ => ⟨merged, rfl⟩, fun j hj h => ?_⟩
  have hll := (lenient_object_iff hl.left hl.right hj.wellFormed).mp (h _ (by simp))
  have hlr := (lenient_object_iff hr.left hr.right hj.wellFormed).mp (h _ (by simp))
  refine (lenient_object_iff hf hwm hj.wellFormed).mpr ⟨fun keyword hk ha => ?_, ?_⟩
  case refine_1 =>
    exact (hkey keyword hk ha).means j hj (hll.left keyword hk ha) (hlr.left keyword hk ha)
  case refine_2 =>
    intro name part hpart
    have hi := hpart.instance hj
    exact (hprop name).means part hi (hll.right name part hpart) (hlr.right name part hpart)

end Nodes

section Primed

variable {node : Fields} (hf : (Json.object node).FlagFree)

include hf

theorem flagFree_listNothing : (Json.object (listNothing node)).FlagFree := by
  refine flagFree_object.mpr fun keyword value hm => ?_
  unfold listNothing at hm
  split at hm
  case isTrue  => exact flagFree_object.mp hf keyword value hm
  case isFalse =>
    cases Fields.mem_insert hm
    case inl hm =>
      cases hm
      refine flagFreeAt_fields (by decide) ?_
      rintro _ name s ⟨⟩ hs
      exact absurd hs List.not_mem_nil
    case inr hm => exact flagFree_object.mp hf keyword value hm

theorem lenient_listNothing (hw : (Json.object node).WellFormed) {j : Json} (hj : j.WellFormed)
    (h : Lenient (.object node) j) : Lenient (.object (listNothing node)) j := by
  have ⟨ha, hg⟩ := (lenient_object_iff hf hw hj).mp h
  refine (lenient_object_iff (flagFree_listNothing hf) (wellFormed_listNothing hw) hj).mpr ⟨?_, ?_⟩
  case refine_1 =>
    intro keyword hk hk' value hv
    rw [get?_listNothing hk] at hv
    exact ha keyword hk hk' value hv
  case refine_2 =>
    have he : Fields.get? (listNothing node) "additionalProperties" =
        Fields.get? node "additionalProperties" := get?_listNothing (by decide)
    simpa only [AsksProperties, governing?, listed_listNothing, he] using hg

theorem flagFree_primed (other : Fields) : (Json.object (primed node other)).FlagFree := by
  unfold primed
  split
  case isTrue  => exact flagFree_listNothing hf
  case isFalse => exact hf

theorem lenient_primed (other : Fields) (hw : (Json.object node).WellFormed) {j : Json}
    (hj : j.WellFormed) (h : Lenient (.object node) j) : Lenient (.object (primed node other)) j := by
  unfold primed
  split
  case isTrue  => exact lenient_listNothing hf hw hj h
  case isFalse => exact h

end Primed

structure Merged.Regular (merged : Merged) : Prop where
  flagFree   : (Json.object merged.fields).FlagFree
  wellFormed : (Json.object merged.fields).WellFormed
  dropped    : ∀ keyword ∈ merged.dropped, keyword ∉ readKeywords

theorem Weakens.mergeObject? (hm : Weakens merge) (hp : Preserves merge) {merged result : Merged}
    {schema : Fields} (hs : merged.Regular)
    (hc : (Json.object schema).FlagFree ∧ (Json.object schema).WellFormed)
    (h : Merge.mergeObject? merge merged schema = some result) :
    result.Regular ∧ Follows (.object result.fields) [.object merged.fields, .object schema] := by
  have ha node other : Fields.get? (primed node other) "additionalProperties" =
      Fields.get? node "additionalProperties" := get?_primed fun hk => absurd hk (by decide)
  have hl := And.intro (flagFree_primed hs.flagFree schema) (wellFormed_primed schema hs.wellFormed)
  have hr := And.intro (flagFree_primed hc.left merged.fields)
    (wellFormed_primed merged.fields hc.right)
  rw [mergeObject?_eq, ← ha merged.fields schema, ← ha schema merged.fields] at h
  have hd : ∀ keyword ∈ (Merged.mk (primed merged.fields schema) merged.dropped).dropped,
      keyword ∉ readKeywords := hs.dropped
  have ⟨hu, hd⟩ := updates_mergeFieldList? hd h
  have hw : (Json.object result.fields).WellFormed :=
    hp.mergeFieldList? (fun _ => hl.right.get?) (fun _ => hr.right.get?) hl.right
      (Json.wellFormed_object.mp hr.right).right h
  have hf := follows_merged hm hl hr hu hp hw limitsOthers_primed limitsOthers_primed
  refine ⟨⟨hf.flagFree, hw, hd⟩, hf.flagFree, fun _ => ⟨_, rfl⟩, fun j hj h => hf.lenient j hj ?_⟩
  have hw := hj.wellFormed
  simp only [List.mem_cons, List.not_mem_nil, or_false, forall_eq_or_imp, forall_eq] at h ⊢
  exact ⟨lenient_primed hs.flagFree _ hs.wellFormed hw h.left,
    lenient_primed hc.left _ hc.right hw h.right⟩

theorem Weakens.mergeObjects? (hm : Weakens merge) (hp : Preserves merge) {merged result : Merged}
    {objects : List Fields} (hs : merged.Regular)
    (ho : ∀ schema ∈ objects, (Json.object schema).FlagFree ∧ (Json.object schema).WellFormed)
    (h : Merge.mergeObjects? merge merged objects = some result) :
    result.Regular ∧ Follows (.object result.fields) (.object merged.fields :: objects.map .object) := by
  induction objects generalizing merged with
  | nil =>
    cases h
    exact ⟨hs, hs.flagFree, fun _ => ⟨_, rfl⟩, fun j _ h => h _ (by simp)⟩
  | cons schema rest ih =>
    obtain ⟨next, hn, h⟩ := Option.bind_eq_some_iff.mp h
    have ⟨hc, hr⟩ := List.forall_mem_cons.mp ho
    have ⟨hsn, hfn⟩ := hm.mergeObject? hp hs hc hn
    have ⟨hsr, hfr⟩ := ih hsn hr h
    refine ⟨hsr, hsr.flagFree, fun _ => ⟨_, rfl⟩, fun j hj h => hfr.lenient j hj ?_⟩
    have ⟨hm, h⟩ := List.forall_mem_cons.mp h
    have ⟨hs, hr⟩ := List.forall_mem_cons.mp h
    exact List.forall_mem_cons.mpr ⟨hfn.lenient j hj (by simp [hm, hs]), hr⟩

theorem weakens_mergeLevels? (levels : Nat) : Weakens (mergeLevels? levels) := by
  induction levels with
  | zero => simp [Weakens, mergeLevels?]
  | succ levels ih =>
    intro schemas merged hs h
    have hsub : ∀ s ∈ substantial schemas, s.FlagFree ∧ s.WellFormed := fun s hm =>
      hs s (mem_of_mem_substantial hm)
    have hempty : Json.FlagFree (.object []) := flagFree_object.mpr (by simp)
    simp only [mergeLevels?] at h
    split at h
    case h_1 hl =>
      cases h
      exact ⟨hempty, fun _ => ⟨[], rfl⟩, fun j _ _ => lenient_of_isIdentity rfl⟩
    case h_2 single hl =>
      cases h
      have hmem : merged ∈ substantial schemas := by simp [hl]
      have hm := mem_of_mem_substantial hmem
      exact ⟨(hsub _ hmem).left, fun ho => ho _ hm, fun j _ h => h _ hm⟩
    case h_3 =>
      simp only [Option.bind_eq_bind, Option.bind_eq_some_iff, Option.some.injEq] at h
      obtain ⟨objects, ho, result, hr, rfl⟩ := h
      have hobj := eq_map_of_mapM_asObject? ho
      have hc : ∀ fields ∈ objects, (Json.object fields).FlagFree ∧ (Json.object fields).WellFormed :=
        fun fields hf => hsub _ (mem_of_mem_mapM_asObject? ho hf)
      obtain ⟨hr, hf⟩ := ih.mergeObjects? (preserves_mergeLevels? levels)
        ⟨hempty, Json.wellFormed_empty, by simp⟩ hc hr
      refine ⟨hr.flagFree, fun _ => ⟨_, rfl⟩, fun j hj h => hf.lenient j hj ?_⟩
      rw [← hobj]
      exact List.forall_mem_cons.mpr ⟨lenient_of_isIdentity rfl, fun s hs =>
        h s (mem_of_mem_substantial hs)⟩

theorem follows_mergeAll {schemas : List Json} (h : ∀ s ∈ schemas, s.FlagFree ∧ s.WellFormed) :
    Follows (mergeAll schemas) schemas :=
  Weakens.conjoin (fun schemas => weakens_mergeLevels? (levelBound schemas) schemas) h

-- A merged schema refuses what all the given ones accept only for a clause that is in none of these.
theorem isValid_mergeAll_iff_clauses {schemas : List Json} {j : Json}
    (hs : ∀ s ∈ schemas, s.FlagFree ∧ s.WellFormed) (hj : j.Instance)
    (h : ∀ s ∈ schemas, (ofSchema s).isValid j = true) :
    (ofSchema (mergeAll schemas)).isValid j = true ↔
      ∀ c part : Json, c.Clause part (mergeAll schemas) j → (∀ s ∈ schemas, ¬ c.Clause part s j) →
        (ofSchema c).isValid part = true := by
  have hm := follows_mergeAll hs
  have hsat s (hmem : s ∈ schemas) : Satisfies s j :=
    (isValid_ofSchema_iff (hs s hmem).left.requiresNames hj.full).mp (h s hmem)
  have hl : Lenient (mergeAll schemas) j :=
    hm.lenient j hj fun s hmem => (satisfies_iff_clauses.mp (hsat s hmem)).left
  have hv {c part : Json} (hc : c.Clause part (mergeAll schemas) j) :
      (ofSchema c).isValid part = true ↔ Satisfies c part :=
    isValid_ofSchema_iff (hc.flagFree hm.flagFree).requiresNames (hc.instance hj).full
  rw [isValid_ofSchema_iff hm.flagFree.requiresNames hj.full, satisfies_iff_clauses]
  constructor
  case mp => exact fun h c part hc _ => (hv hc).mpr (h.right c part hc)
  case mpr =>
    refine fun h => ⟨hl, fun c part hc => ?_⟩
    by_cases hn : ∀ s ∈ schemas, ¬ c.Clause part s j
    case pos => exact (hv hc).mp (h c part hc hn)
    case neg =>
      simp only [Classical.not_forall, Classical.not_not] at hn
      obtain ⟨s, hmem, hcs⟩ := hn
      exact (satisfies_iff_clauses.mp (hsat s hmem)).right c part hcs

def textOrNumber (length : Nat) : Json :=
  anyOf [.object [("minLength", .ofNat length)], .object [("type", .string "number")]]

theorem textOrNumber_regular :
    ∀ s ∈ [textOrNumber 2, textOrNumber 3], s.FlagFree ∧ s.WellFormed := by
  simp only [List.mem_cons, List.not_mem_nil, or_false, forall_eq_or_imp, forall_eq]
  exact ⟨⟨flagFree_of_nodes (by decide +kernel), by decide⟩,
    flagFree_of_nodes (by decide +kernel), by decide⟩

-- The alternative that is left for both, a number, is the only clause of the merged schema.
theorem isValid_mergeAll_number :
    let schemas := [textOrNumber 2, textOrNumber 3]
    let number := Json.ofNat 5
    (∀ s ∈ schemas, s.FlagFree ∧ s.WellFormed) ∧ number.Instance ∧
      (∀ s ∈ schemas, (ofSchema s).isValid number = true) ∧
      ((ofSchema (mergeAll schemas)).isValid number = true ↔
        ∀ c part : Json, c.Clause part (mergeAll schemas) number →
          (∀ s ∈ schemas, ¬ c.Clause part s number) → (ofSchema c).isValid part = true) := by
  intro schemas number
  have hj : number.Instance := ⟨.number _, by decide⟩
  have h : ∀ s ∈ schemas, (ofSchema s).isValid number = true := by decide +kernel
  exact ⟨textOrNumber_regular, hj, h, isValid_mergeAll_iff_clauses textOrNumber_regular hj h⟩

-- A text of the other alternatives is refused, and so are values for each of the other such keywords.
theorem isValid_mergeAll_narrowed :
    let text := Json.string "abcd"
    let type (name : String) := Json.object [("type", .string name)]
    let only (keyword : String) (value : Json) := Json.object [(keyword, value)]
    let others : List (String × Json × Json × Json) := [
      ("oneOf", .array [type "string", type "null"], .array [only "minLength" (.ofNat 3), type "null"],
        text),
      ("contains", type "string", type "number", .array [text, .ofNat 1]),
      ("items", .array [type "string", type "number"], .array [.bool true, type "number"],
        .array [text, .ofNat 1]),
      ("multipleOf", .ofNat 2, .ofNat 3, .ofNat 1500000003),
      ("enum", .array [.ofNat 1, .ofNat 2], .array [.number (.float (.ofInt 1)), .ofNat 2], .ofNat 1)]
    (∀ s ∈ [textOrNumber 2, textOrNumber 3], s.FlagFree ∧ s.WellFormed) ∧ text.Instance ∧
      (ofSchema (textOrNumber 2)).isValid text = true ∧
      (ofSchema (textOrNumber 3)).isValid text = true ∧
      (ofSchema (mergeAll [textOrNumber 2, textOrNumber 3])).isValid text = false ∧
      ∀ e ∈ others, (ofSchema (only e.1 e.2.1)).isValid e.2.2.2 = true ∧
        (ofSchema (only e.1 e.2.2.1)).isValid e.2.2.2 = true ∧
        (ofSchema (mergeAll [only e.1 e.2.1, only e.1 e.2.2.1])).isValid e.2.2.2 = false :=
  ⟨textOrNumber_regular, ⟨.string (by decide), by decide⟩, by decide +kernel, by decide +kernel,
    by decide +kernel, by decide +kernel⟩

end JsonSchema.Merge
