import JsonSchema.Proofs.Compiled.Unfolding

namespace JsonSchema.CompiledSchema

open Visit (Reached)

variable {schema : Json} {options : Options} {compiled : CompiledSchema} {p place target : Pointer}
  {text : String}

-- The references that are left are the texts of pointers to nodes of the compiled schema.
def ReferencesResolve (compiled : CompiledSchema) : Prop :=
  ∀ place text, referenceAt? compiled.schema place = some text →
    ∃ target, Pointer.parse? text = some target ∧ (compiled.schema.get? target).isSome

theorem isSome_get?_of_referenceAt? {j : Json} (h : referenceAt? j place = some text) :
    (j.get? place).isSome ∧ (j.get? (place.child "$ref")).isSome := by
  constructor
  case left =>
    obtain ⟨found, hf, _⟩ := Option.bind_eq_some_iff.mp h
    simp [hf]
  case right =>
    rw [referenceAt?_eq] at h
    obtain ⟨_, ho, _⟩ := Option.bind_eq_some_iff.mp h
    rw [← Json.isSome_map_outline, ho, Option.isSome_some]

theorem isSome_get?_compiled (hw : schema.WellFormed) (h : compile options schema = .ok compiled)
    (p : Pointer) : (compiled.schema.get? p).isSome = ((expanded options schema).get? p).isSome := by
  obtain ⟨hr, hn⟩ := outline_compiled hw h
  by_cases hp : ∃ place, Redirects options schema place ∧ p = place.child "$ref"
  case pos =>
    obtain ⟨place, hd, rfl⟩ := hp
    obtain ⟨text, _, ht, _⟩ := id hd
    rw [← Json.isSome_map_outline, hr place hd, (isSome_get?_of_referenceAt? ht).right]
    rfl
  case neg =>
    rw [← Json.isSome_map_outline, hn p fun place hd he => hp ⟨place, hd, he⟩, Json.isSome_map_outline]

-- Where the reference at a place of the expanded schema leads when redirected.
def destination (schema : Json) (place target : Pointer) : Pointer :=
  if place.isWithin target then target
  else
    let short := (recursive schema).shorten PointerTable.empty place
    if short = place then target else short

theorem parse?_compiled (hw : schema.WellFormed) (h : compile options schema = .ok compiled)
    (place : Pointer) :
    (referenceAt? compiled.schema place).map Pointer.parse? =
      (referenceAt? (expanded options schema) place).map fun text =>
        (Pointer.parse? text).map (destination schema place) := by
  have ⟨hr, hn⟩ := referenceAt?_compiled hw h place
  by_cases hp : Redirects options schema place
  case pos =>
    rw [hr hp]
    obtain ⟨text, target, ht, hp, hu, hs⟩ := hp
    simp [ht, hp, destination, hu, hs, Pointer.parse?_fragment]
  case neg =>
    rw [hn hp]
    cases ht : referenceAt? (expanded options schema) place with
    | none => rfl
    | some text =>
      cases ht' : Pointer.parse? text with
      | none        => simp [ht']
      | some target =>
        have hd : destination schema place target = target := by
          unfold destination
          split
          case isTrue  => rfl
          case isFalse hu =>
            refine if_pos (Decidable.byContradiction fun hs => hp ⟨text, target, ht, ht', ?_, hs⟩)
            simpa using hu
        simp [ht', hd]

-- The references of a compiled schema resolve if and only if those of the expanded one lead to nodes of
-- the expanded schema when redirected.
theorem referencesResolve_iff (hw : schema.WellFormed) (h : compile options schema = .ok compiled) :
    compiled.ReferencesResolve ↔
      ∀ place text, referenceAt? (expanded options schema) place = some text →
        ∃ target, Pointer.parse? text = some target ∧
          ((expanded options schema).get? (destination schema place target)).isSome := by
  constructor
  case mp =>
    intro hc place text ht
    have hp := parse?_compiled hw h place
    rw [ht, Option.map_some, Option.map_eq_some_iff] at hp
    obtain ⟨text', ht', hp⟩ := hp
    obtain ⟨_, hp', hg⟩ := hc place text' ht'
    obtain ⟨target, htarget, rfl⟩ := Option.map_eq_some_iff.mp (hp.symm.trans hp')
    exact ⟨target, htarget, isSome_get?_compiled hw h _ ▸ hg⟩
  case mpr =>
    intro he place text' ht'
    have hp := parse?_compiled hw h place
    rw [ht', Option.map_some, eq_comm, Option.map_eq_some_iff] at hp
    obtain ⟨text, ht, hp⟩ := hp
    obtain ⟨target, htarget, hg⟩ := he place text ht
    refine ⟨destination schema place target, ?_, isSome_get?_compiled hw h _ ▸ hg⟩
    rw [← hp, htarget, Option.map_some]

theorem exists_compile_of_any {check : CompiledSchema → Bool}
    (h : (compile options schema).toOption.any check = true) :
    ∃ compiled, compile options schema = .ok compiled ∧ check compiled = true := by
  cases hc : compile options schema with
  | error e     => simp [hc, Except.toOption] at h
  | ok compiled => exact ⟨compiled, rfl, by simpa [hc, Except.toOption] using h⟩

theorem referencesResolve_tree :
    tree.WellFormed ∧ ∃ compiled, compile {} tree = .ok compiled ∧ compiled.ReferencesResolve := by
  have hw : tree.WellFormed := by decide
  have hc : ((expanded {} tree).nodes Pointer.root).all fun entry =>
      entry.2.reference?.all fun text => (Pointer.parse? text).any fun target =>
        ((expanded {} tree).get? (destination tree entry.1 target)).isSome := by
    decide +kernel
  have hs : (compile {} tree).toOption.any (fun _ => true) = true := by decide +kernel
  obtain ⟨compiled, h, _⟩ := exists_compile_of_any hs
  refine ⟨hw, compiled, h, (referencesResolve_iff hw h).mpr ?_⟩
  intro place text ht
  obtain ⟨found, hf, hr⟩ := Option.bind_eq_some_iff.mp ht
  have hc := List.all_eq_true.mp hc _ (Json.mem_nodes_of_get? hf)
  simpa [hr, Option.any_eq_true] using hc

-- The member of the `allOf` refers to itself. The reference is left where it is, since it leads up, and
-- then the member is folded into the root.
def foldedMember : Json :=
  .object [
    ("allOf", .array [
      .object [("properties", .object [("a", .object [("$ref", .string "#/allOf/0")])])]])]

theorem not_referencesResolve_foldedMember :
    foldedMember.WellFormed ∧ foldedMember.isObject ∧ referencesExist foldedMember ∧
      ∃ compiled, compile {} foldedMember = .ok compiled ∧ compiled.isDegraded = false ∧
        ¬ compiled.ReferencesResolve := by
  let place : Pointer := ⟨["properties", "a"]⟩
  let target : Pointer := ⟨["allOf", "0"]⟩
  have hr : (compile {} foldedMember).toOption.any (fun c =>
      !c.isDegraded && referenceAt? c.schema place == some "#/allOf/0" &&
        (c.schema.get? target).isNone) = true := by
    decide +kernel
  obtain ⟨compiled, h, hr⟩ := exists_compile_of_any hr
  simp only [Bool.and_eq_true, Bool.not_eq_true', beq_iff_eq, Option.isNone_iff_eq_none] at hr
  refine ⟨by decide, rfl, by decide +kernel, compiled, h, hr.left.left, fun hc => ?_⟩
  obtain ⟨other, ho, hg⟩ := hc place _ hr.left.right
  have hp : Pointer.parse? "#/allOf/0" = some target := by decide +kernel
  obtain rfl := Option.some.inj (hp.symm.trans ho)
  simp [hr.right] at hg

section Pure

variable {s : Expansion.Source} {v : Visit} {e found : Json} {tokens : List String}

theorem exists_final_of_expands (h : Expands s v e) (hv : Reached s v) :
    ∃ u, Reached s u ∧ u.path = v.path ∧ Expands s u e ∧ (u.Settled s ∨ u.Blocked s) := by
  induction h with
  | @follow v w e hw hb _ ih =>
    obtain ⟨u, hu, hp, h⟩ := ih (hv.move (m := none) hw fun _ => hb)
    obtain ⟨_, _, hpath, _⟩ := Visit.jump?_eq_some hw
    exact ⟨u, hu, hp.trans hpath, h⟩
  | @keep v e hb hg          => exact ⟨v, hv, rfl, .keep hb hg, .inr hb⟩
  | @build v _ e hs hg ho hc => exact ⟨v, hv, rfl, .build hs hg ho hc, .inl hs⟩

-- There is a tour to every place of the expansion at which a reference is left. It cannot lie inside
-- another one of these, for a reference has only its text inside.
theorem exists_reached (hs : s.schema.PureReferences) (h : Expands s v e) (hv : Reached s v)
    (hf : e.follow? tokens = some found) (hr : found.reference?.isSome) :
    ∃ w, Reached s w ∧ w.path = v.path.append tokens := by
  induction tokens generalizing v e with
  | nil            => exact ⟨v, hv, (Pointer.append_nil _).symm⟩
  | cons token rest ih =>
    obtain ⟨child, hchild, hf⟩ := Option.bind_eq_some_iff.mp hf
    obtain ⟨u, hu, hp, h, hcase⟩ := exists_final_of_expands h hv
    rw [← Pointer.child_append, ← hp]
    cases hcase
    case inl hset =>
      cases h
      case follow hj _ _ =>
        obtain ⟨_, ht, _⟩ := Visit.jump?_eq_some hj
        simp [show s.schema.targetAt? u.node = none from hset] at ht
      case keep hb _ =>
        obtain ⟨_, _, ht, _⟩ := hb
        simp [show s.schema.targetAt? u.node = none from hset] at ht
      case build node _ hg ho hc =>
        have hstep : (s.schema.get? (u.node.child token)).isSome := by
          rw [Json.get?_child, hg, Option.bind_some, ← Json.isSome_step?_of_outline_eq ho, hchild]
          rfl
        obtain ⟨w, hw⟩ : ∃ w, u.step? s token = some w := ⟨_, if_pos ⟨hset, hstep⟩⟩
        obtain ⟨x, hx, hxp⟩ := ih (hc token child w hchild hw) (hu.move (m := some token) hw (by simp)) hf
        obtain ⟨_, _, rfl⟩ := Visit.step?_eq_some hw
        exact ⟨x, hx, hxp⟩
    case inr hb =>
      have hg := h.of_blocked hb
      obtain ⟨_, q, ht, _⟩ := hb
      obtain ⟨⟨text, hg', _⟩, _⟩ := hs.of_targetAt? ht
      obtain rfl : .object [("$ref", .string text)] = e := Option.some.inj (hg'.symm.trans hg)
      obtain rfl : .string text = child := by
        simp only [Json.step?, Fields.get?_cons] at hchild
        split at hchild
        case isTrue  => exact Option.some.inj hchild
        case isFalse => simp [Fields.get?] at hchild
      cases rest with
      | nil =>
        cases hf
        simp [Json.reference?, Json.field?, Json.asObject?] at hr
      | cons => simp [Json.follow?, Json.step?] at hf

end Pure

-- Expansion keeps the positions of a schema with pure references, so that none of its references dangles.
-- Folding an `allOf` would take positions away.
theorem referencesResolve_of_pureReferences (hs : schema.PureReferences) (hw : schema.WellFormed)
    (ho : schema.isObject) (hc : options.combineAllOf = false)
    (hr : options.relocateArrayRequired = false) :
    ∃ compiled, compile options schema = .ok compiled ∧ compiled.ReferencesResolve := by
  obtain ⟨compiled, hcompile, he⟩ := exists_compile hs hw ho hc hr
  refine ⟨compiled, hcompile, fun place text ht => ?_⟩
  have hp := parse?_compiled hw hcompile place
  rw [ht, Option.map_some, eq_comm, Option.map_eq_some_iff] at hp
  obtain ⟨_, hexpanded, _⟩ := hp
  obtain ⟨found, hf, hr⟩ := Option.bind_eq_some_iff.mp hexpanded
  obtain ⟨w, hreached, hpath⟩ := exists_reached hs he Visit.reached_start hf (by simp [hr])
  obtain ⟨x, _, _, hsettles, _⟩ := exists_settles hs hw hcompile he hreached
  rw [hpath.trans (Pointer.root_append_tokens place)] at hsettles
  generalize x.path = q at hsettles
  cases hsettles with
  | here hg hn =>
    rw [referenceAt?, hg, Option.bind_some, hn] at ht
    simp at ht
  | jump htarget hq =>
    rw [targetAt?_eq, ht, Option.bind_some] at htarget
    exact ⟨_, htarget, hq.isSome_get?⟩

end JsonSchema.CompiledSchema
