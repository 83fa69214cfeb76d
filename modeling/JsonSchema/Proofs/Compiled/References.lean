import JsonSchema.Proofs.Expansion.WellFormed
import JsonSchema.Proofs.Json.Modify
import JsonSchema.Proofs.Json.Walk
import JsonSchema.Proofs.Pointer.Within
import JsonSchema.Proofs.Reference.Recursion

namespace JsonSchema

namespace CompiledSchema

variable {schema : Json} {options : Options} {compiled : CompiledSchema}

-- The schema with its references expanded, before those that are left are redirected.
def expanded (options : Options) (schema : Json) : Json :=
  match (Expansion.expand (sourceOf schema).1 options Pointer.root).result with
  | .ok found => found.getD schema
  | .error _  => schema

def recursive (schema : Json) : ReferenceMap := (sourceOf schema).1.recursive

theorem wellFormed_sourceOf (hw : schema.WellFormed) : (sourceOf schema).1.WellFormed :=
  ⟨hw, fun _ _ h => hw.follow? (ReferenceGraph.get?_library h)⟩

theorem wellFormed_expanded (hw : schema.WellFormed) : (expanded options schema).WellFormed := by
  unfold expanded
  split
  case h_2 => exact hw
  case h_1 found hf =>
    have h := (wellFormed_sourceOf hw).expandAlong options _ [] Pointer.root found hf
    cases found
    case none   => exact hw
    case some j => exact h j rfl

def findings (options : Options) (schema : Json) : List Finding :=
  ((expanded options schema).nodes Pointer.root).filterMap fun (place, j) =>
    finding? (recursive schema) place j

theorem ofExpanded_of_compile (h : compile options schema = .ok compiled) :
    ∃ diagnostics,
      compiled = { ofExpanded (recursive schema) (expanded options schema) with diagnostics } := by
  unfold compile at h
  split at h
  case isFalse => simp at h
  case isTrue =>
    simp only at h
    split at h <;> cases h
    case h_1 found hf =>
      have he : expanded options schema = found.getD schema := by
        simp only [expanded, hf]
      exact ⟨_, by rw [he]; rfl⟩

theorem schema_of_compile (h : compile options schema = .ok compiled) :
    compiled.schema = redirect (expanded options schema) (findings options schema) := by
  obtain ⟨_, rfl⟩ := ofExpanded_of_compile h
  rfl

theorem exists_compile_of_expand {e : Json} (ho : schema.isObject)
    (h : (Expansion.expand (sourceOf schema).1 options .root).result = .ok (some e)) :
    ∃ compiled, compile options schema = .ok compiled ∧ expanded options schema = e := by
  have hc : ∃ compiled, compile options schema = .ok compiled := by
    rw [compile, if_pos ho]
    simp only [h]
    exact ⟨_, rfl⟩
  obtain ⟨compiled, hc⟩ := hc
  exact ⟨compiled, hc, by rw [expanded, h]; rfl⟩

def referenceAt? (j : Json) (p : Pointer) : Option String := (j.get? p).bind Json.reference?

theorem referenceAt?_eq (j : Json) (p : Pointer) :
    referenceAt? j p = ((j.get? (p.child "$ref")).map Json.outline).bind Json.asString? := by
  simp only [referenceAt?, Json.get?_child]
  cases j.get? p with
  | none       => rfl
  | some found =>
    simp only [Option.bind_some, Json.reference?_eq]
    cases found.step? "$ref" <;> simp [Json.asString?_outline]

def setReference (target : Pointer) : Json → Json
  | .object fields => .object (Fields.insert "$ref" (.string target.fragment) fields)
  | j              => j

theorem wellFormed_setReference {j : Json} {target : Pointer} (h : j.WellFormed) :
    (setReference target j).WellFormed := by
  unfold setReference
  split
  case h_1 => exact h.insert trivial
  case h_2 => exact h

theorem outline_follow?_setReference {j : Json} {text : String} (target : Pointer)
    (hw : j.WellFormed) (h : j.reference? = some text) (below : List String) :
    ((setReference target j).follow? below).map Json.outline =
      if below = ["$ref"] then some (.string target.fragment)
      else (j.follow? below).map Json.outline := by
  obtain ⟨fields, rfl, hf⟩ := Json.object_of_reference? h
  cases below with
  | nil =>
    have hs : (Fields.get? fields "$ref").isSome := by simp [hf]
    have hk := (Json.wellFormed_object.mp hw).left.keys_insert (.string target.fragment) hs
    have hn := congrArg (List.map fun k => (k, Json.null)) hk
    simpa [Json.follow?, setReference, Json.outline, Fields.keys, Function.comp_def] using hn
  | cons token rest =>
    simp only [Json.follow?, setReference, Json.step?]
    rw [Fields.get?_insert]
    by_cases ht : "$ref" = token
    case neg => simp [ht, Ne.symm ht]
    case pos =>
      subst ht
      cases rest <;> simp [hf, Json.follow?, Json.outline, Json.step?]

theorem outline_modify?_setReference {j changed : Json} {place target : Pointer} {text : String}
    (hw : j.WellFormed) (hr : referenceAt? j place = some text)
    (h : j.modify? place (setReference target) = some changed) (path : Pointer) :
    (changed.get? path).map Json.outline =
      if path = place.child "$ref" then some (.string target.fragment)
      else (j.get? path).map Json.outline := by
  obtain ⟨found, hf, hr⟩ := Option.bind_eq_some_iff.mp hr
  by_cases hp : place.tokens <+: path.tokens
  case neg =>
    have hc : path ≠ place.child "$ref" := by
      rintro rfl
      exact hp (List.prefix_append ..)
    rw [if_neg hc]
    exact Json.outline_follow?_modifyAlong? hw h hp
  case pos =>
    obtain ⟨below, hb⟩ := hp
    have hc : path = place.child "$ref" ↔ below = ["$ref"] := by
      cases path
      cases hb
      simp [Pointer.child]
    simp only [Json.get?, ← hb, Json.follow?_append, Json.follow?_modifyAlong? h, hc]
    simp only [Json.get?] at hf
    rw [hf]
    exact outline_follow?_setReference target (hw.follow? hf) hr below

section

variable {j changed : Json} {place target : Pointer} {text : String} (hw : j.WellFormed)
  (hr : referenceAt? j place = some text)
  (h : j.modify? place (setReference target) = some changed)

include hw hr h

theorem isSome_get?_modify? (p : Pointer) : (changed.get? p).isSome = (j.get? p).isSome := by
  rw [← Json.isSome_map_outline, outline_modify?_setReference hw hr h,
    ← Json.isSome_map_outline (j.get? p)]
  split
  case isFalse   => rfl
  case isTrue hp =>
    rw [referenceAt?_eq] at hr
    obtain ⟨_, ho, _⟩ := Option.bind_eq_some_iff.mp hr
    rw [hp, ho]
    rfl

theorem isSome_referenceAt?_modify? {p : Pointer} (hp : (referenceAt? j p).isSome) :
    (referenceAt? changed p).isSome := by
  rw [referenceAt?_eq, outline_modify?_setReference hw hr h]
  rw [referenceAt?_eq] at hp
  split
  case isFalse => exact hp
  case isTrue  => simp [Json.asString?]

end

-- The induction is on the references that are still to be redirected: redirecting one changes neither
-- which places exist nor at which of them references are made.
theorem outline_redirect {short : Pointer → Pointer} {findings : List Finding} {j : Json}
    (hw : j.WellFormed) (hs : ∀ f ∈ findings, f.target = short f.place)
    (hr : ∀ f ∈ findings, (j.get? f.place).isSome → (referenceAt? j f.place).isSome)
    (path : Pointer) :
    ((findings.foldl (fun j f => (j.modify? f.place (setReference f.target)).getD j) j).get?
        path).map Json.outline =
      if ∃ f ∈ findings, (j.get? f.place).isSome ∧ path = f.place.child "$ref" then
        some (.string (short ⟨path.tokens.dropLast⟩).fragment)
      else (j.get? path).map Json.outline := by
  induction findings generalizing j with
  | nil => simp
  | cons f rest ih =>
    have ⟨hf, hs⟩ := List.forall_mem_cons.mp hs
    have ⟨hrf, hr⟩ := List.forall_mem_cons.mp hr
    have hm : (j.modify? f.place (setReference f.target)).isSome = (j.get? f.place).isSome :=
      Json.modifyAlong?_isSome ..
    simp only [List.foldl_cons]
    cases hg : j.get? f.place
    case none =>
      have hn : j.modify? f.place (setReference f.target) = none := by simpa [hg] using hm
      simp only [hn, Option.getD_none, ih hw hs hr, List.mem_cons, exists_eq_or_imp, hg]
      simp
    case some found =>
      obtain ⟨changed, hc⟩ := Option.isSome_iff_exists.mp (hm.trans (hg ▸ rfl))
      obtain ⟨text, ht⟩ := Option.isSome_iff_exists.mp (hrf (by simp [hg]))
      have ho := outline_modify?_setReference hw ht hc
      have he := isSome_get?_modify? hw ht hc
      have hwc : changed.WellFormed := hw.modifyAlong? (fun _ => wellFormed_setReference) hc
      have hr : ∀ g ∈ rest, (changed.get? g.place).isSome → (referenceAt? changed g.place).isSome :=
        fun g hg h => isSome_referenceAt?_modify? hw ht hc (hr g hg (he g.place ▸ h))
      have hp : path = f.place.child "$ref" → (⟨path.tokens.dropLast⟩ : Pointer) = f.place := by
        rintro rfl
        simp [Pointer.child]
      simp only [hc, Option.getD_some, ih hwc hs hr, he, ho, List.mem_cons, exists_eq_or_imp, hg,
        Option.isSome_some, true_and]
      by_cases h₁ : path = f.place.child "$ref"
      case neg => simp [h₁]
      case pos =>
        have hs : f.target = short ⟨path.tokens.dropLast⟩ := (hp h₁).symm ▸ hf
        rw [if_pos h₁, if_pos (Or.inl h₁), hs, ite_self]

theorem finding?_eq_some {place : Pointer} {j : Json} {f : Finding} {recursive : ReferenceMap}
    (h : finding? recursive place j = some f) :
    f.place = place ∧ ∃ text target, j.reference? = some text ∧ Pointer.parse? text = some target ∧
      (f.redirected = true ↔
        place.isWithin target = false ∧ recursive.shorten PointerTable.empty place ≠ place) ∧
      f.target = if f.redirected then recursive.shorten PointerTable.empty place else target := by
  obtain ⟨target, ht, hf⟩ := Option.map_eq_some_iff.mp h
  obtain ⟨text, hr, ht⟩ := Option.bind_eq_some_iff.mp ht
  subst hf
  split
  case isTrue hw => exact ⟨rfl, text, target, hr, ht, by simp [hw], rfl⟩
  case isFalse hw =>
    dsimp only
    split
    case isTrue hs  => exact ⟨rfl, text, target, hr, ht, by simp [hs], rfl⟩
    case isFalse hs => exact ⟨rfl, text, target, hr, ht, by simp [hw, hs], rfl⟩

-- A place of the expanded schema with a reference that does not lead up, while the place itself has a
-- shorter equivalent.
def Redirects (options : Options) (schema : Json) (place : Pointer) : Prop :=
  ∃ text target, referenceAt? (expanded options schema) place = some text ∧
    Pointer.parse? text = some target ∧ place.isWithin target = false ∧
    (recursive schema).shorten PointerTable.empty place ≠ place

theorem finding?_of_mem_findings (hw : schema.WellFormed) {f : Finding} {j : Json}
    (hf : f ∈ findings options schema) (hj : (expanded options schema).get? f.place = some j) :
    finding? (recursive schema) f.place j = some f := by
  obtain ⟨⟨place, i⟩, hm, hf⟩ := List.mem_filterMap.mp hf
  obtain rfl := (finding?_eq_some hf).left
  rwa [Json.get?_of_mem_nodes (wellFormed_expanded hw) hm hj]

theorem redirects_of_mem_findings (hw : schema.WellFormed) {f : Finding}
    (hf : f ∈ findings options schema) (hr : f.redirected = true)
    (hg : ((expanded options schema).get? f.place).isSome) : Redirects options schema f.place := by
  obtain ⟨j, hj⟩ := Option.isSome_iff_exists.mp hg
  obtain ⟨_, text, target, ht, hp, hd, _⟩ := finding?_eq_some (finding?_of_mem_findings hw hf hj)
  exact ⟨text, target, by simp [referenceAt?, hj, ht], hp, (hd.mp hr).left, (hd.mp hr).right⟩

theorem mem_findings_of_redirects {place : Pointer} (h : Redirects options schema place) :
    ⟨place, (recursive schema).shorten PointerTable.empty place, true⟩ ∈
      findings options schema := by
  obtain ⟨text, target, hr, ht, hu, hs⟩ := h
  obtain ⟨j, hj, hr⟩ := Option.bind_eq_some_iff.mp hr
  exact List.mem_filterMap.mpr
    ⟨⟨place, j⟩, Json.mem_nodes_of_get? hj, by simp [finding?, hr, ht, hu, hs]⟩

theorem isSome_referenceAt?_of_redirected (hw : schema.WellFormed) {f : Finding}
    (hf : f ∈ (findings options schema).filter (·.redirected))
    (hg : ((expanded options schema).get? f.place).isSome) :
    (referenceAt? (expanded options schema) f.place).isSome := by
  obtain ⟨hf, hr⟩ := List.mem_filter.mp hf
  obtain ⟨text, _, ht, _⟩ := redirects_of_mem_findings hw hf hr hg
  simp [ht]

theorem outline_compiled (hw : schema.WellFormed) (h : compile options schema = .ok compiled) :
    (∀ place, Redirects options schema place →
      (compiled.schema.get? (place.child "$ref")).map Json.outline =
        some (.string ((recursive schema).shorten PointerTable.empty place).fragment)) ∧
    (∀ path, (∀ place, Redirects options schema place → path ≠ place.child "$ref") →
      (compiled.schema.get? path).map Json.outline =
        ((expanded options schema).get? path).map Json.outline) := by
  have hs : ∀ f ∈ (findings options schema).filter (·.redirected),
      f.target = (recursive schema).shorten PointerTable.empty f.place := by
    intro f hf
    obtain ⟨hf, hr⟩ := List.mem_filter.mp hf
    obtain ⟨⟨place, _⟩, _, hf⟩ := List.mem_filterMap.mp hf
    obtain ⟨rfl, _, _, _, _, _, ht⟩ := finding?_eq_some hf
    rw [ht, if_pos hr]
  have hc (path : Pointer) := outline_redirect (wellFormed_expanded hw) hs
    (fun _ => isSome_referenceAt?_of_redirected hw) path
  rw [schema_of_compile h]
  constructor
  case left =>
    intro place hp
    refine (hc _).trans ?_
    obtain ⟨_, _, ht, _⟩ := id hp
    have hg : ((expanded options schema).get? place).isSome := by
      cases hg : (expanded options schema).get? place <;> simp [referenceAt?, hg] at ht ⊢
    rw [if_pos ⟨_, List.mem_filter.mpr ⟨mem_findings_of_redirects hp, rfl⟩, hg, rfl⟩]
    simp [Pointer.child]
  case right =>
    intro path hp
    refine (hc _).trans (if_neg ?_)
    rintro ⟨f, hf, hg, he⟩
    obtain ⟨hf, hr⟩ := List.mem_filter.mp hf
    exact hp f.place (redirects_of_mem_findings hw hf hr hg) he

-- A reference leads up if it leads to its own place or to an enclosing one.
def LeadsUp (place : Pointer) (reference : String) : Prop :=
  ∃ target, Pointer.parse? reference = some target ∧ place.isWithin target = true

theorem child_ref_injective {p q : Pointer} (h : p.child "$ref" = q.child "$ref") : p = q := by
  cases p
  cases q
  simpa [Pointer.child] using h

theorem referenceAt?_compiled (hw : schema.WellFormed) (h : compile options schema = .ok compiled)
    (place : Pointer) :
    (Redirects options schema place → referenceAt? compiled.schema place =
      some ((recursive schema).shorten PointerTable.empty place).fragment) ∧
    (¬ Redirects options schema place →
      referenceAt? compiled.schema place = referenceAt? (expanded options schema) place) := by
  have ⟨hr, hn⟩ := outline_compiled hw h
  constructor
  case left =>
    intro hp
    rw [referenceAt?_eq, hr place hp]
    rfl
  case right =>
    intro hp
    rw [referenceAt?_eq, referenceAt?_eq, hn]
    intro other ho he
    exact hp (child_ref_injective he ▸ ho)

def ReferencesLeadUp (compiled : CompiledSchema) : Prop :=
  ∀ place text, referenceAt? compiled.schema place = some text → LeadsUp place text

-- All references of a compiled schema lead up if and only if each reference of the expanded one leads
-- up or has a place that a recursive reference makes equivalent to an enclosing one.
theorem referencesLeadUp_iff (hw : schema.WellFormed)
    (h : compile options schema = .ok compiled) :
    compiled.ReferencesLeadUp ↔
      ∀ place text, referenceAt? (expanded options schema) place = some text →
        ∃ target, Pointer.parse? text = some target ∧
          (place.isWithin target ∨
            place.isInside ((recursive schema).shorten PointerTable.empty place)) := by
  constructor
  case mp =>
    intro hc place text ht
    have ⟨hr, hn⟩ := referenceAt?_compiled hw h place
    by_cases hp : Redirects options schema place
    case pos =>
      obtain ⟨target, hs, hu⟩ := hc place _ (hr hp)
      obtain rfl := Option.some.inj ((Pointer.parse?_fragment _).symm.trans hs)
      obtain ⟨_, target, ht', hp, _, hne⟩ := hp
      obtain rfl := Option.some.inj (ht.symm.trans ht')
      exact ⟨target, hp, .inr (Pointer.isInside_iff.mpr ⟨hu, hne.symm⟩)⟩
    case neg =>
      obtain ⟨target, hp, hu⟩ := hc place text ((hn hp).trans ht)
      exact ⟨target, hp, .inl hu⟩
  case mpr =>
    intro he place text ht
    have ⟨hr, hn⟩ := referenceAt?_compiled hw h place
    by_cases hp : Redirects options schema place
    case pos =>
      obtain rfl := Option.some.inj ((hr hp).symm.trans ht)
      obtain ⟨text, target, ht, hp, hu, _⟩ := hp
      obtain ⟨_, hp', h⟩ := he place text ht
      obtain rfl := Option.some.inj (hp.symm.trans hp')
      have hi := h.resolve_left (by simp [hu])
      exact ⟨_, Pointer.parse?_fragment _, (Pointer.isInside_iff.mp hi).left⟩
    case neg =>
      have ht := (hn hp).symm.trans ht
      obtain ⟨target, ht', h⟩ := he place text ht
      refine ⟨target, ht', Decidable.byContradiction fun hu => hp ?_⟩
      have hi := h.resolve_left hu
      exact ⟨text, target, ht, ht', by simpa using hu, (Pointer.isInside_iff.mp hi).right.symm⟩

-- A tree, whose expansion at the property refers to the definition, which does not enclose it.
def tree : Json :=
  .object [
    ("definitions", .object [
      ("tree", .object [
        ("properties", .object [("child", .object [("$ref", .string "#/definitions/tree")])])])]),
    ("properties", .object [("root", .object [("$ref", .string "#/definitions/tree")])])]

theorem referencesLeadUp_tree :
    tree.WellFormed ∧ ∃ compiled, compile {} tree = .ok compiled ∧ compiled.ReferencesLeadUp := by
  have hw : tree.WellFormed := by decide
  have hc : ((expanded {} tree).nodes Pointer.root).all fun (place, j) =>
      j.reference?.all fun text => (Pointer.parse? text).any fun target =>
        place.isWithin target ||
          place.isInside ((recursive tree).shorten PointerTable.empty place) := by
    decide +kernel
  refine ⟨hw, ?_⟩
  cases h : compile {} tree
  case error e =>
    have : (compile {} tree).isOk = true := by decide +kernel
    simp [h, Except.isOk, Except.toBool] at this
  case ok compiled =>
    refine ⟨compiled, rfl, (referencesLeadUp_iff hw h).mpr ?_⟩
    intro place text ht
    obtain ⟨found, hf, hr⟩ := Option.bind_eq_some_iff.mp ht
    have hc := List.all_eq_true.mp hc _ (Json.mem_nodes_of_get? hf)
    simpa [hr, Option.any_eq_true] using hc

def referencesExist (schema : Json) : Bool :=
  (schema.nodes Pointer.root).all fun (_, j) =>
    j.reference?.all fun text => ((Pointer.parse? text).bind schema.get?).isSome

-- The property refers to a part of the definition that refers back to the definition. Only that part
-- is copied to the property, and the place of the reference back has no shorter equivalent.
def innerPart : Json :=
  .object [
    ("definitions", .object [
      ("tree", .object [
        ("properties", .object [
          ("inner", .object [
            ("properties", .object [
              ("back", .object [("$ref", .string "#/definitions/tree")])])])])])]),
    ("properties", .object [
      ("part", .object [("$ref", .string "#/definitions/tree/properties/inner")])])]

theorem not_referencesLeadUp_innerPart :
    innerPart.WellFormed ∧ innerPart.isObject ∧ referencesExist innerPart ∧
      ∃ compiled, compile {} innerPart = .ok compiled ∧ ¬ compiled.ReferencesLeadUp := by
  refine ⟨by decide, rfl, by decide +kernel, ?_⟩
  let place : Pointer := ⟨["properties", "part", "properties", "back"]⟩
  have hr : (compile {} innerPart).toOption.bind (fun c => referenceAt? c.schema place) =
      some "#/definitions/tree" := by
    decide +kernel
  cases h : compile {} innerPart
  case error e => simp [h, Except.toOption] at hr
  case ok compiled =>
    refine ⟨compiled, rfl, fun hu => ?_⟩
    obtain ⟨target, ht, hw⟩ := hu place _ (by simpa [h, Except.toOption] using hr)
    obtain rfl : ⟨["definitions", "tree"]⟩ = target := by
      have hp : Pointer.parse? "#/definitions/tree" = some ⟨["definitions", "tree"]⟩ := by
        decide +kernel
      exact Option.some.inj (hp.symm.trans ht)
    exact absurd hw (by decide)

end CompiledSchema

end JsonSchema
