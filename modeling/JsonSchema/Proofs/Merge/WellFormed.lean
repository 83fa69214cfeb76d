import JsonSchema.Proofs.Json.WellFormed
import JsonSchema.Proofs.Merge.Stable

namespace JsonSchema

namespace Number

theorem isWord_of_lt {n : Nat} (h : n < wordSize) : isWord n = true := by
  have hn : (n : Int) < (wordSize : Int) := Int.ofNat_lt.mpr h
  have hl : -(wordSize : Int) ≤ 2 * n := by
    generalize wordSize = size
    omega
  exact Bool.and_eq_true_iff.mpr ⟨decide_eq_true hl, decide_eq_true hn⟩

theorem lt_of_lcmWord? {a b n : Nat} (h : lcmWord? a b = some n) : n < wordSize := by
  simp only [lcmWord?, mulWord?] at h
  split at h
  case isTrue => simp at h
  case isFalse =>
    split at h
    case isTrue hl  => exact Option.some.inj h ▸ hl
    case isFalse => simp at h

theorem wellFormed_lcmScaled? {scale : Nat} {x y : Binary64} {n : Number}
    (h : lcmScaled? scale x y = some n) : n.WellFormed := by
  simp only [lcmScaled?] at h
  split at h
  case h_2 => simp at h
  case h_1 =>
    split at h
    case isFalse   => simp at h
    case isTrue hf => exact Option.some.inj h ▸ hf

theorem wellFormed_lcm? {m n k : Number} (h : m.lcm? n = some k) : k.WellFormed := by
  simp only [lcm?] at h
  split at h
  case h_1 =>
    simp only [Option.map_eq_some_iff, Option.bind_eq_bind, Option.bind_eq_some_iff] at h
    obtain ⟨_, ⟨multiple, hl, hn⟩, rfl⟩ := h
    cases hn
    simpa only [WellFormed] using isWord_of_lt (lt_of_lcmWord? hl)
  case h_2 =>
    split at h
    case isTrue  => exact wellFormed_lcmScaled? h
    case isFalse => simp at h

end Number

namespace Merge

open Json (wellFormed_array wellFormed_object)

variable {merge : List Json → Option Json} {current incoming : Json} {schemas : List Json}

theorem stable_wellFormed : Stable fun _ => Json.WellFormed where
  item h hj       := wellFormed_array.mp h _ hj
  array h         := wellFormed_array.mpr h
  field h hj      := (wellFormed_object.mp h).right _ _ hj
  object _ h      := h
  loose h         := h
  empty _         := Json.wellFormed_empty
  insert h hj     := h.insert hj
  filter p h      := h.filter p
  map h hf        := h.map hf
  bool _ _        := trivial
  text _ _        := trivial
  multiple _ h    := Number.wellFormed_lcm? h

-- A merge makes well-formed schemas of well-formed ones.
def Preserves (merge : List Json → Option Json) : Prop :=
  ∀ schemas merged, (∀ j ∈ schemas, j.WellFormed) → merge schemas = some merged → merged.WellFormed

theorem Preserves.keeps (hm : Preserves merge) : Keeps (fun _ => Json.WellFormed) merge :=
  fun _ => hm

theorem Preserves.mergeSchema? (hm : Preserves merge) (hc : current.WellFormed)
    (hi : incoming.WellFormed) {j : Json} (h : mergeSchema? merge current incoming = some j) :
    j.WellFormed :=
  @Keeps.mergeSchema? _ _ "" _ _ _ stable_wellFormed hm.keeps hc hi h

theorem Preserves.mergeDependency? (hm : Preserves merge) (hc : current.WellFormed)
    (hi : incoming.WellFormed) {j : Json} (h : mergeDependency? merge current incoming = some j) :
    j.WellFormed :=
  @Keeps.mergeDependency? _ _ "" _ _ _ stable_wellFormed hm.keeps hc hi h

theorem Preserves.mergeFieldList? (hm : Preserves merge) {earlier later : Option Json}
    {merged result : Merged} {schema : Fields}
    (he : ∀ j, earlier = some j → j.WellFormed) (hl : ∀ j, later = some j → j.WellFormed)
    (hf : (Json.object merged.fields).WellFormed) (hs : ∀ k j, (k, j) ∈ schema → j.WellFormed)
    (h : mergeFieldList? merge earlier later merged schema = some result) :
    (Json.object result.fields).WellFormed :=
  @Keeps.mergeFieldList? _ _ "" stable_wellFormed hm.keeps _ _ _ _ _ he hl hf hs h

theorem Preserves.restrictListed (hm : Preserves merge) {additional : Option Json} {existing : Fields}
    (hl : ∀ j, additional = some j → j.WellFormed) (he : (Json.object existing).WellFormed) (added : Fields) :
    (Json.object (restrictListed merge additional added existing)).WellFormed :=
  @Keeps.restrictListed _ _ "" stable_wellFormed hm.keeps _ _ _ hl he

theorem Preserves.addProperties? (hm : Preserves merge) {additional : Option Json}
    {listed added result : Fields} (hl : ∀ j, additional = some j → j.WellFormed)
    (hc : (Json.object listed).WellFormed) (hi : ∀ k j, (k, j) ∈ added → j.WellFormed)
    (h : addProperties? merge additional listed added = some result) : (Json.object result).WellFormed :=
  @Keeps.addProperties? _ _ "" stable_wellFormed hm.keeps _ _ _ _ hl hc hi h

theorem Preserves.mergeObject? (hm : Preserves merge) {merged result : Merged} {schema : Fields}
    (hf : (Json.object merged.fields).WellFormed) (hs : (Json.object schema).WellFormed)
    (h : mergeObject? merge merged schema = some result) : (Json.object result.fields).WellFormed :=
  @Keeps.mergeObject? _ _ "" stable_wellFormed hm.keeps _ _ _ hf hs h

theorem wellFormed_unionFields? {combine : Json → Json → Option Json} {current incoming : Fields}
    (hf : ∀ a b j, a.WellFormed → b.WellFormed → combine a b = some j → j.WellFormed)
    (hc : (Json.object current).WellFormed) (hi : ∀ k j, (k, j) ∈ incoming → j.WellFormed)
    {merged : Fields} (h : unionFields? combine current incoming = some merged) :
    (Json.object merged).WellFormed :=
  @Stable.unionFields? _ "" stable_wellFormed _ _ _ _ (fun _ => hf) hc hi h

theorem wellFormed_of_mem_refused {j refused : Json} (h : j.WellFormed)
    (hr : refused ∈ Merge.refused j) : refused.WellFormed := by
  cases j
  case object fields => exact @Stable.of_mem_refused _ "" _ stable_wellFormed _ h hr
  all_goals exact List.mem_singleton.mp hr ▸ h

theorem wellFormed_listNothing {fields : Fields} (h : (Json.object fields).WellFormed) :
    (Json.object (listNothing fields)).WellFormed :=
  @Stable.listNothing _ "" stable_wellFormed _ h

theorem preserves_mergeLevels? (levels : Nat) : Preserves (mergeLevels? levels) :=
  stable_wellFormed.mergeLevels? levels ""

end Merge

end JsonSchema
