import JsonSchema.Proofs.Expansion.Rebuilding

namespace JsonSchema

def Diagnostic.IsDropped : Diagnostic → Prop
  | droppedSiblings _ _ => True
  | _                   => False

namespace Diagnosed

variable {α β : Type}

-- Three runs do the same, or part where keywords beside a reference come up: the first one fails for
-- them, and the second one reports them and goes on.
inductive InStep : (reject ignore merge : Diagnosed α) → Prop
  | same {x : Diagnosed α} : x.Succeeds → (∀ d ∈ x.diagnostics, ¬ d.IsDropped) → InStep x x x
  | parted {before after e ignore merge} : (∀ d ∈ before, ¬ d.IsDropped) →
      ignore.diagnostics = before ++ .droppedSiblings e.place e.keywords :: after →
      InStep ⟨before, .error e⟩ ignore merge

variable {reject ignore merge : Diagnosed α}

theorem inStep_pure (a : α) : InStep (pure a) (pure a) (pure a) :=
  .same (succeeds_pure a) (by intro d hd; cases hd)

theorem inStep_report {d : Diagnostic} (h : ¬ d.IsDropped) :
    InStep (report d) (report d) (report d) :=
  .same (yields_report d) (by intro e he; cases List.mem_singleton.mp he; exact h)

theorem bind_of_ok {x : Diagnosed α} {a : α} (h : x.result = .ok a) (f : α → Diagnosed β) :
    x >>= f = ⟨x.diagnostics ++ (f a).diagnostics, (f a).result⟩ := by
  show Diagnosed.bind x f = _
  simp only [Diagnosed.bind, h]

theorem diagnostics_bind (x : Diagnosed α) (f : α → Diagnosed β) :
    ∃ more, (x >>= f).diagnostics = x.diagnostics ++ more := by
  obtain ⟨diagnostics, _ | a⟩ := x
  case error => exact ⟨[], (List.append_nil diagnostics).symm⟩
  case ok    => exact ⟨(f a).diagnostics, rfl⟩

theorem InStep.after {front : List Diagnostic} (h : InStep reject ignore merge)
    (hf : ∀ d ∈ front, ¬ d.IsDropped) :
    InStep ⟨front ++ reject.diagnostics, reject.result⟩ ⟨front ++ ignore.diagnostics, ignore.result⟩
      ⟨front ++ merge.diagnostics, merge.result⟩ := by
  cases h
  case same hs hn => exact .same hs (List.forall_mem_append.mpr ⟨hf, hn⟩)
  case parted hn hd =>
    exact .parted (List.forall_mem_append.mpr ⟨hf, hn⟩) (by rw [hd, List.append_assoc])

theorem InStep.bind {f g h : α → Diagnosed β} (hx : InStep reject ignore merge)
    (hf : ∀ a, InStep (f a) (g a) (h a)) : InStep (reject >>= f) (ignore >>= g) (merge >>= h) := by
  cases hx
  case same hs hn =>
    obtain ⟨a, ha, _⟩ := hs
    simp only [bind_of_ok ha]
    exact (hf a).after hn
  case parted hn hd =>
    obtain ⟨more, hm⟩ := diagnostics_bind ignore g
    exact .parted hn (by rw [hm, hd, List.append_assoc, List.cons_append])

end Diagnosed

open Diagnosed (InStep inStep_pure inStep_report)

namespace Json

variable {f g h : Json → Pointer → Diagnosed Json} {place : Pointer}

theorem inStep_mapPostItems {items : List Json} (index : Nat)
    (hj : ∀ j ∈ items, ∀ place, InStep (j.mapPost f place) (j.mapPost g place) (j.mapPost h place)) :
    InStep (mapPostItems f place index items) (mapPostItems g place index items)
      (mapPostItems h place index items) := by
  induction items generalizing index with
  | nil => exact inStep_pure []
  | cons j rest ih =>
    have ⟨hj, hr⟩ := List.forall_mem_cons.mp hj
    exact (hj _).bind fun _ => (ih (index + 1) hr).bind fun _ => inStep_pure _

theorem inStep_mapPostFields {fields : Fields}
    (hj : ∀ k j, (k, j) ∈ fields → ∀ place,
      InStep (j.mapPost f place) (j.mapPost g place) (j.mapPost h place)) :
    InStep (mapPostFields f place fields) (mapPostFields g place fields)
      (mapPostFields h place fields) := by
  induction fields with
  | nil => exact inStep_pure []
  | cons field rest ih =>
    obtain ⟨key, j⟩ := field
    have hr := ih fun k j hm => hj k j (List.mem_cons_of_mem _ hm)
    exact (hj key j List.mem_cons_self _).bind fun _ => hr.bind fun _ => inStep_pure _

theorem inStep_mapPost (hf : ∀ j place, InStep (f j place) (g j place) (h j place)) (j : Json)
    (place : Pointer) : InStep (j.mapPost f place) (j.mapPost g place) (j.mapPost h place) := by
  induction j using Json.induct generalizing place
  case null | bool | number | string => exact hf _ place
  case array items ih   => exact (inStep_mapPostItems 0 ih).bind fun _ => hf _ place
  case object fields ih => exact (inStep_mapPostFields ih).bind fun _ => hf _ place

end Json

namespace Expansion

variable {source : Source} {options : Options} {place : Pointer} {used : List Pointer} {fields : Fields}

theorem inStep_withSiblings (place : Pointer) (expanded : Json) (fields : Fields) :
    InStep (withSiblings .reject place expanded fields) (withSiblings .ignore place expanded fields)
      (withSiblings .merge place expanded fields) := by
  simp only [withSiblings]
  split
  case isTrue => exact inStep_pure _
  case isFalse =>
    split
    case isTrue  => exact inStep_pure _
    case isFalse => exact .parted (List.forall_mem_nil _) rfl

theorem inStep_tidy (options : Options) (place : Pointer) (fields : Fields) :
    InStep (tidy options place fields) (tidy options place fields) (tidy options place fields) := by
  simp only [tidy]
  split
  case h_2 => exact inStep_pure _
  case h_1 =>
    split
    case h_1 => exact inStep_pure _
    case h_2 => exact inStep_pure _
    case h_3 => exact (inStep_report (d := .uncombinedAllOf place) id).bind fun _ => inStep_pure _

theorem inStep_rebuild {reject ignore merge : Pointer → Diagnosed (Option Json)}
    (h : ∀ target, InStep (reject target) (ignore target) (merge target)) (j : Json) (place : Pointer) :
    InStep (rebuild { options with siblings := .reject } used reject j place)
      (rebuild { options with siblings := .ignore } used ignore j place)
      (rebuild { options with siblings := .merge } used merge j place) := by
  cases j
  case object fields =>
    simp only [rebuild]
    cases referenceOf used place fields
    case none => exact inStep_tidy options place fields
    case malformed reference =>
      exact (inStep_report (d := .unresolvedReference place reference) id).bind fun _ =>
        inStep_tidy options place fields
    case target target =>
      refine (h target).bind fun found => ?_
      cases found with
      | some expanded => exact inStep_withSiblings place expanded fields
      | none =>
        exact (inStep_report (d := .unresolvedReference place target.fragment) id).bind fun _ =>
          inStep_pure _
  all_goals exact inStep_pure _

theorem inStep_expandAlong (source : Source) (options : Options) (depth : Nat) (used : List Pointer)
    (target : Pointer) :
    InStep (expandAlong source { options with siblings := .reject } depth used target)
      (expandAlong source { options with siblings := .ignore } depth used target)
      (expandAlong source { options with siblings := .merge } depth used target) := by
  induction depth generalizing used target with
  | zero => exact inStep_pure none
  | succ depth ih =>
    simp only [expandAlong]
    split
    case h_1 => exact inStep_pure none
    case h_2 node _ =>
      exact (Json.inStep_mapPost (inStep_rebuild (ih _)) node target).bind fun _ => inStep_pure _

-- The siblings that one run reports first are those that another run fails for.
theorem expand_policies (source : Source) (options : Options) (p : Pointer) :
    let run := fun policy => expand source { options with siblings := policy } p
    ((∃ e, (run .reject).result = .error e) ↔ ∃ d ∈ (run .ignore).diagnostics, d.IsDropped) ∧
      (∀ e, (run .reject).result = .error e →
        (∀ d ∈ (run .reject).diagnostics, ¬ d.IsDropped) ∧
        ∃ after, (run .ignore).diagnostics =
          (run .reject).diagnostics ++ .droppedSiblings e.place e.keywords :: after) ∧
      ((∀ d ∈ (run .ignore).diagnostics, ¬ d.IsDropped) →
        run .reject = run .ignore ∧ run .merge = run .ignore) := by
  intro run
  have h : InStep (run .reject) (run .ignore) (run .merge) :=
    inStep_expandAlong source options (depthBound source) [] p
  generalize run .reject = reject at h ⊢
  generalize run .ignore = ignore at h ⊢
  generalize run .merge = merge at h ⊢
  cases h
  case same hs hn =>
    obtain ⟨j, hj, _⟩ := hs
    refine ⟨iff_of_false (by simp [hj]) (by simpa using hn), by simp [hj], fun _ => ⟨rfl, rfl⟩⟩
  case parted before after e hn hd =>
    have hm : .droppedSiblings e.place e.keywords ∈ ignore.diagnostics := by simp [hd]
    refine ⟨iff_of_true ⟨e, rfl⟩ ⟨_, hm, trivial⟩, ?_, fun h => absurd trivial (h _ hm)⟩
    rintro _ ⟨⟩
    exact ⟨hn, after, hd⟩

end Expansion

end JsonSchema
