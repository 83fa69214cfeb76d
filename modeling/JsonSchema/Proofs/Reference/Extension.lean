import JsonSchema.Proofs.Pointer.Table
import JsonSchema.Proofs.Reference.Shortening
import JsonSchema.Reference.Recursion

namespace JsonSchema

namespace Pointer

theorem compare_self_ne_lt (p : Pointer) : p.compare p ≠ .lt := by
  intro h
  have hg := compare_gt_iff.mpr h
  simp [h] at hg

theorem compareTokens_append (front back : List String) :
    compareTokens front (front ++ back) ≠ .gt := by
  induction front with
  | nil => cases back <;> simp [compareTokens]
  | cons token rest ih => simpa [compareTokens] using ih

theorem not_compare_lt_of_isWithin {p q : Pointer} (h : p.isWithin q = true) : p.compare q ≠ .lt := by
  obtain ⟨tokens, rfl⟩ := isWithin_iff_exists.mp h
  intro hlt
  exact compareTokens_append q.tokens tokens (compare_gt_iff.mpr hlt)

-- The pointers within a given one follow each other without gaps.
theorem isPrefix_of_compareTokens {front middle back : List String}
    (hm : compareTokens front middle = .lt) (hb : compareTokens middle (front ++ back) ≠ .gt) :
    front <+: middle := by
  induction front generalizing middle with
  | nil => exact List.nil_prefix
  | cons token rest ih =>
    cases middle with
    | nil => simp [compareTokens] at hm
    | cons other middle =>
      simp only [List.cons_append, compareTokens] at hm hb
      cases hc : Ord.compare token other with
      | lt =>
        have hg := Std.OrientedCmp.gt_iff_lt.mpr hc
        simp [hg] at hb
      | gt => simp [hc] at hm
      | eq =>
        obtain rfl := Std.LawfulEqCmp.eq_of_compare hc
        simp only [hc, Ordering.then] at hm hb
        exact List.cons_prefix_cons.mpr ⟨rfl, ih hm hb⟩

theorem isWithin_of_compare_of_isWithin {p q r : Pointer} (hq : p.compare q = .lt)
    (hr : q = r ∨ q.compare r = .lt) (hw : r.isWithin p = true) : q.isWithin p = true := by
  obtain ⟨tokens, rfl⟩ := isWithin_iff_exists.mp hw
  have hn : q.compare (p.append tokens) ≠ .gt := by
    intro hg
    cases hr
    case inl he  => exact compare_self_ne_lt _ (compare_gt_iff.mp (he ▸ hg))
    case inr hlt => exact absurd (hlt.symm.trans hg) (by decide)
  exact isWithin_iff.mpr (isPrefix_of_compareTokens hq hn)

end Pointer

namespace PointerTable

variable {α : Type} {t : PointerTable α} {p : Pointer} {a b : α}

theorem Ordered.foldl_insert {entries : List (Pointer × α)} (h : Ordered t.entries) :
    Ordered (entries.foldl (fun t (p, a) => t.insert p a) t).entries := by
  induction entries generalizing t with
  | nil => exact h
  | cons entry rest ih => exact ih (h.insertEntry entry.1 entry.2)

theorem ordered_ofList (entries : List (Pointer × α)) : Ordered (ofList entries).entries :=
  Ordered.foldl_insert List.Pairwise.nil

theorem Ordered.eq_of_mem {entries : List (Pointer × α)} (h : Ordered entries) (ha : (p, a) ∈ entries)
    (hb : (p, b) ∈ entries) : a = b := by
  induction entries with
  | nil => simp at ha
  | cons entry rest ih =>
    have ⟨hf, hr⟩ := List.pairwise_cons.mp h
    cases List.mem_cons.mp ha
    case inl ha =>
      subst ha
      cases List.mem_cons.mp hb
      case inl hb => exact (Prod.mk.inj hb).right.symm
      case inr hb => exact absurd (hf _ hb) p.compare_self_ne_lt
    case inr ha =>
      cases List.mem_cons.mp hb
      case inl hb => exact absurd (hf _ ha) (hb ▸ p.compare_self_ne_lt)
      case inr hb => exact ih hr ha hb

end PointerTable

namespace ReferenceMap

open PointerTable (Ordered)

variable {references : ReferenceMap} {source target p q r : Pointer}

-- A reference to an enclosing node, at a place that is inside no other one of these.
structure Outermost (references : ReferenceMap) (source target : Pointer) : Prop where
  mem      : (source, target) ∈ references.entries
  isInside : source.isInside target = true
  minimal  : ∀ {outer target'}, (outer, target') ∈ references.entries → outer.isInside target' = true →
    source.isWithin outer = true → outer = source

-- Replacements of outermost beginnings lead from a pointer to another one.
inductive Unwinds (references : ReferenceMap) : Pointer → Pointer → Prop
  | refl (p : Pointer) : Unwinds references p p
  | step {source target q : Pointer} {tokens : List String} :
    references.Outermost source target → Unwinds references (target.append tokens) q →
      Unwinds references (source.append tokens) q

theorem Unwinds.trans (hp : references.Unwinds p q) (hq : references.Unwinds q r) :
    references.Unwinds p r := by
  induction hp with
  | refl        => exact hq
  | step ho _ ih => exact .step ho (ih hq)

theorem Unwinds.append (h : references.Unwinds p q) (tokens : List String) :
    references.Unwinds (p.append tokens) (q.append tokens) := by
  induction h with
  | refl => exact .refl _
  | step ho _ ih =>
    rw [Pointer.append_append] at ih ⊢
    exact .step ho ih

theorem Outermost.unique {source' target' : Pointer} (h : Ordered references.entries)
    (ho : references.Outermost source target) (ho' : references.Outermost source' target')
    (hw : p.isWithin source = true) (hw' : p.isWithin source' = true) :
    source = source' ∧ target = target' := by
  have hs : source = source' := by
    cases Pointer.isWithin_total hw hw'
    case inl hi => exact (ho.minimal ho'.mem ho'.isInside hi).symm
    case inr hi => exact ho'.minimal ho.mem ho.isInside hi
  subst hs
  exact ⟨rfl, h.eq_of_mem ho.mem ho'.mem⟩

theorem Normal.not_outermost (hn : references.Normal p) (hw : p.isWithin source = true) :
    ¬references.Outermost source target :=
  fun ho => by simpa [hw] using hn source target ho.mem ho.isInside

theorem Unwinds.unique (h : Ordered references.entries) (hq : references.Unwinds p q)
    (hr : references.Unwinds p r) (hnq : references.Normal q) (hnr : references.Normal r) : q = r := by
  induction hq with
  | refl p =>
    cases hr with
    | refl      => rfl
    | step ho _ => exact absurd ho (hnq.not_outermost (Pointer.append_isWithin ..))
  | @step source target q tokens ho _ ih =>
    generalize hp : source.append tokens = p at hr
    cases hr with
    | refl => exact absurd ho (hnr.not_outermost (hp ▸ Pointer.append_isWithin ..))
    | @step source' target' _ tokens' ho' hr =>
      have hw' : (source.append tokens).isWithin source' = true := by simp [hp]
      obtain ⟨rfl, rfl⟩ := ho.unique h ho' (Pointer.append_isWithin source tokens) hw'
      obtain rfl := Pointer.append_right_inj.mp hp
      exact ih hr hnq

-- If one of the entries to come applies, none of those before it does.
def Unpassed (done rest : List (Pointer × Pointer)) (p : Pointer) : Prop :=
  ∀ entry ∈ rest, entry.1.isInside entry.2 = true → p.isWithin entry.1 = true →
    ∀ other ∈ done, other.1.isInside other.2 = true → p.isWithin other.1 = false

variable {entry : Pointer × Pointer} {done rest : List (Pointer × Pointer)} {tokens : List String}

-- An entry that applies is then the outermost one, since those that enclose it come before it.
theorem Unpassed.outermost (h : Ordered references.entries)
    (he : references.entries = done ++ (source, target) :: rest) (hi : source.isInside target = true)
    (hu : Unpassed done ((source, target) :: rest) (source.append tokens)) :
    references.Outermost source target := by
  refine ⟨by simp [he], hi, ?_⟩
  intro outer target' hm hi' hw
  rw [he] at hm h
  have ⟨_, hr, _⟩ := List.pairwise_append.mp h
  cases List.mem_append.mp hm
  case inl hd =>
    have hn := hu _ List.mem_cons_self hi (Pointer.append_isWithin ..) _ hd hi'
    simp [Pointer.isWithin_trans (Pointer.append_isWithin source tokens) hw] at hn
  case inr hm =>
    cases List.mem_cons.mp hm
    case inl hm => exact (Prod.mk.inj hm).left
    case inr hm =>
      exact absurd ((List.pairwise_cons.mp hr).left _ hm) (Pointer.not_compare_lt_of_isWithin hw)

-- The places within the place of an entry before it follow each other, and the entry is among these if one
-- after it is.
theorem Unpassed.replace (h : Ordered (done ++ (source, target) :: rest))
    (hi : source.isInside target = true)
    (hu : Unpassed done ((source, target) :: rest) (source.append tokens)) :
    Unpassed done ((source, target) :: rest) (target.append tokens) := by
  intro entry he hie hwe other ho hio
  have ⟨_, hr, hd⟩ := List.pairwise_append.mp h
  have ho_lt : other.1.compare source = .lt := hd other ho _ List.mem_cons_self
  have hse : source = entry.1 ∨ source.compare entry.1 = .lt := by
    cases List.mem_cons.mp he
    case inl he => exact .inl (congrArg Prod.fst he).symm
    case inr he => exact .inr ((List.pairwise_cons.mp hr).left _ he)
  refine Bool.eq_false_iff.mpr fun hwo => ?_
  have hew : entry.1.isWithin other.1 = true := by
    refine (Pointer.isWithin_total hwe hwo).resolve_right fun hoe => ?_
    exact Pointer.not_compare_lt_of_isWithin hoe (hd other ho _ he)
  have hsw : source.isWithin other.1 = true := Pointer.isWithin_of_compare_of_isWithin ho_lt hse hew
  have hn := hu _ List.mem_cons_self hi (Pointer.append_isWithin ..) other ho hio
  simp [Pointer.isWithin_trans (Pointer.append_isWithin source tokens) hsw] at hn

theorem Unpassed.collapse (h : Ordered references.entries)
    (he : references.entries = done ++ (source, target) :: rest)
    (hu : Unpassed done ((source, target) :: rest) p) :
    references.Unwinds p (collapse PointerTable.empty source target p) ∧
      Unpassed done ((source, target) :: rest)
        (ReferenceMap.collapse PointerTable.empty source target p) := by
  induction p using collapse.induct PointerTable.empty source target with
  | case1 p hi q hq ih =>
    obtain ⟨tokens, rfl, rfl⟩ := Pointer.rebase?_eq_some.mp hq
    rw [collapse_of_rebase? hi hq]
    rw [Pointer.toGeneric_empty] at ih ⊢
    obtain ⟨hw, hn⟩ := ih (hu.replace (he ▸ h) hi)
    exact ⟨.step (hu.outermost h he hi) hw, hn⟩
  | case2 p _ hn =>
    rw [collapse_of_not_isWithin (Pointer.rebase?_eq_none.mp hn)]
    exact ⟨.refl p, hu⟩
  | case3 p hi =>
    rw [collapse_of_not_isInside hi]
    exact ⟨.refl p, hu⟩

theorem collapse_isWithin (arrays : ArrayMap) (hi : source.isInside target = true) (p : Pointer) :
    (ReferenceMap.collapse arrays source target p).isWithin source = false := by
  induction p using collapse.induct arrays source target with
  | case1 p _ q hq ih =>
    rw [collapse_of_rebase? hi hq]
    exact ih
  | case2 p _ hn =>
    have hw := Pointer.rebase?_eq_none.mp hn
    rwa [collapse_of_not_isWithin hw]
  | case3 p hn => exact absurd hi hn

theorem Unpassed.advance (h : Ordered references.entries)
    (he : references.entries = done ++ (source, target) :: rest)
    (hu : Unpassed done ((source, target) :: rest) p) :
    Unpassed (done ++ [(source, target)]) rest
      (ReferenceMap.collapse PointerTable.empty source target p) := by
  intro entry hm hi hw other ho hio
  cases List.mem_append.mp ho
  case inl ho => exact (hu.collapse h he).right entry (List.mem_cons_of_mem _ hm) hi hw other ho hio
  case inr ho =>
    obtain rfl := List.mem_singleton.mp ho
    exact collapse_isWithin PointerTable.empty hio p

-- The induction is on the entries to come; each one keeps that none before them applies if one of them does.
theorem unwinds_pass (h : Ordered references.entries) (p : Pointer) :
    references.Unwinds p (pass references PointerTable.empty p) := by
  suffices hf : ∀ rest done p, references.entries = done ++ rest → Unpassed done rest p →
      references.Unwinds p
        (rest.foldl (fun q entry => ReferenceMap.collapse PointerTable.empty entry.1 entry.2 q) p) from
    hf references.entries [] p rfl (fun _ _ _ _ _ hn => absurd hn List.not_mem_nil)
  intro rest
  induction rest with
  | nil => exact fun _ p _ _ => .refl p
  | cons entry rest ih =>
    intro done p he hu
    exact (hu.collapse h he).left.trans
      (ih (done ++ [entry]) _ (by simp [he]) (hu.advance h he))

theorem unwinds_shorten (h : Ordered references.entries) (p : Pointer) :
    references.Unwinds p (references.shorten PointerTable.empty p) := by
  rw [shorten, Pointer.toGeneric_empty]
  induction p using settle.induct references PointerTable.empty with
  | case1 p hlt ih =>
    rw [settle, if_pos hlt]
    exact (unwinds_pass h p).trans ih
  | case2 p hlt =>
    rw [settle, if_neg hlt]
    exact .refl p

theorem Unwinds.shorten_eq (h : Ordered references.entries) (hq : references.Unwinds p q) :
    references.shorten PointerTable.empty p = references.shorten PointerTable.empty q :=
  (unwinds_shorten h p).unique h (hq.trans (unwinds_shorten h q)) (normal_shorten references _ p)
    (normal_shorten references _ q)

-- A pointer can be shortened on the way down: what its beginning is shortened to can stand for it. The
-- entries are in the order of their sources, of which there are no two the same.
theorem shorten_append (h : Ordered references.entries) (p : Pointer) (tokens : List String) :
    references.shorten PointerTable.empty (p.append tokens) =
      references.shorten PointerTable.empty ((references.shorten PointerTable.empty p).append tokens) :=
  ((unwinds_shorten h p).append tokens).shorten_eq h

-- A source inside another one: to replace the inner one first would lead to the root.
def nestedSources : ReferenceMap :=
  .ofList [(⟨["a", "b"]⟩, ⟨["a"]⟩), (⟨["a", "b", "c"]⟩, .root)]

theorem shorten_append_nestedSources :
    Ordered nestedSources.entries ∧
    nestedSources.shorten .empty (.append ⟨["a", "b"]⟩ ["c"]) =
      nestedSources.shorten .empty ((nestedSources.shorten .empty ⟨["a", "b"]⟩).append ["c"]) ∧
    nestedSources.shorten .empty ⟨["a", "b", "c"]⟩ = ⟨["a", "c"]⟩ :=
  have ho : Ordered nestedSources.entries := PointerTable.ordered_ofList _
  ⟨ho, shorten_append ho ⟨["a", "b"]⟩ ["c"], by decide +kernel⟩

end ReferenceMap

end JsonSchema
