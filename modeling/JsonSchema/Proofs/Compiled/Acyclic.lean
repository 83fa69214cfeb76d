import JsonSchema.Proofs.Compiled.Resolution
import JsonSchema.Proofs.Expansion.Acyclic

namespace JsonSchema.CompiledSchema

open Expansion (Source StandsFor)

variable {schema : Json} {options : Options} {compiled : CompiledSchema}

theorem shorten_of_entries_eq_nil (h : (recursive schema).entries = []) (p : Pointer) :
    (sourceOf schema).1.shorten p = p := by
  refine ReferenceMap.shorten_eq_self fun source target he => ?_
  have he : (source, target) ∈ (recursive schema).entries := he
  simp [h] at he

theorem find?_of_shorten (h : ∀ p, (sourceOf schema).1.shorten p = p) (p : Pointer) :
    (sourceOf schema).1.find? p = schema.get? p := by
  unfold Source.find?
  split
  case isTrue hr => rw [Json.get?, List.isEmpty_iff.mp hr]; rfl
  case isFalse =>
    rw [h]
    split
    case h_1 hl => exact (ReferenceGraph.get?_library hl).symm
    case h_2 =>
      simp only [Json.firstOf?]
      cases hg : schema.get? p <;> simp [sourceOf, hg]

theorem acyclic_sourceOf (hw : schema.WellFormed) (he : referencesExist schema)
    (hp : ∀ place text, (sourceOf schema).1.Poses options place text →
      ((Pointer.parse? text).bind schema.get?).isSome)
    (hr : (recursive schema).entries = [])
    (hc : ∀ e, ¬ Relation.TransGen ((sourceOf schema).1.LeadsTo options) e e) :
    (sourceOf schema).1.Acyclic options where
  wellFormed  := hw
  shorten     := shorten_of_entries_eq_nil hr
  find?       := find?_of_shorten (shorten_of_entries_eq_nil hr)
  not_leadsTo := hc
  exists_get? := by
    rintro place text ⟨fields, value, hn, hv, hs⟩
    have hfound (h : ((Pointer.parse? text).bind schema.get?).isSome) :
        ∃ target, Pointer.parse? text = some target ∧ (schema.get? target).isSome := by
      obtain ⟨found, hf⟩ := Option.isSome_iff_exists.mp h
      obtain ⟨target, ht, hg⟩ := Option.bind_eq_some_iff.mp hf
      exact ⟨target, ht, by simp [hg]⟩
    cases value
    case object value =>
      have hposes : (sourceOf schema).1.Poses options place text := ⟨fields, value, hn, hv, hs⟩
      obtain ⟨target, ht, hg⟩ := hfound (hp place text hposes)
      exact ⟨target, ht, hg, .inr ⟨text, hposes, ht⟩⟩
    case string other =>
      cases hs
      have href : (Json.object fields).reference? = some text := by
        simp [Json.reference?, Json.field?, Json.asObject?, hv, Json.asString?]
      have hall := List.all_eq_true.mp he _ hn
      obtain ⟨target, ht, hg⟩ := hfound (by simpa [href] using hall)
      exact ⟨target, ht, hg, .inl (Json.mem_references.mpr ⟨_, text, hn, href, ht⟩)⟩
    all_goals cases hs

theorem schema_of_referenceFree (hc : compile options schema = .ok compiled)
    (h : (expanded options schema).ReferenceFree) : compiled.schema = expanded options schema := by
  have hf : findings options schema = [] := by
    refine List.filterMap_eq_nil_iff.mpr fun (place, j) hn => ?_
    refine Option.eq_none_iff_forall_ne_some.mpr fun f hf => ?_
    obtain ⟨_, text, _, hr, _⟩ := finding?_eq_some hf
    obtain ⟨fields, rfl, hg⟩ := Json.object_of_reference? hr
    exact h fields text (Json.occurs_of_mem_nodes hn) (Fields.mem_of_get? hg)
  rw [schema_of_compile hc, hf]
  rfl

-- Whatever is beside the references and folded around them, each is followed and none is left.
theorem referenceFree_compile (hw : schema.WellFormed) (ho : schema.isObject)
    (he : referencesExist schema)
    (hp : ∀ place text, (sourceOf schema).1.Poses options place text →
      ((Pointer.parse? text).bind schema.get?).isSome)
    (hc : ∀ e, ¬ Relation.TransGen ((sourceOf schema).1.LeadsTo options) e e)
    (hr : (recursive schema).entries = []) (hs : options.siblings ≠ .reject) :
    ∃ compiled, compile options schema = .ok compiled ∧ compiled.schema.ReferenceFree := by
  have ha := acyclic_sourceOf hw he hp hr hc
  obtain ⟨r, hr, _⟩ := Expansion.expandAlong_succeeds hs (sourceOf schema).1 _ [] .root
  have hfree := Expansion.expandAlong_referenceFree ha
    (Expansion.Call.ample_of_depthBound_le (c := ⟨_, [], .root⟩) (Nat.le_refl _))
    (Source.traced_self (sourceOf schema).1 options .root) rfl
  obtain ⟨e, rfl, he⟩ := hfree r hr
  obtain ⟨compiled, hc, rfl⟩ := exists_compile_of_expand ho hr
  exact ⟨compiled, hc, schema_of_referenceFree hc he ▸ he⟩

theorem not_leadsTo_of_rank {edges : List Edge} (rank : Edge → Nat)
    (hr : ∀ e, (sourceOf schema).1.Refers options e → e ∈ edges)
    (h : ∀ e ∈ edges, ∀ next ∈ edges, next.source.isWithin e.target = true → rank next < rank e)
    (e : Edge) : ¬ Relation.TransGen ((sourceOf schema).1.LeadsTo options) e e := by
  have hstep {e next : Edge} (hl : (sourceOf schema).1.LeadsTo options e next) : rank next < rank e :=
    h e (hr e hl.left) next (hr next hl.right.left) hl.right.right
  have hlt {e next : Edge} (ht : Relation.TransGen ((sourceOf schema).1.LeadsTo options) e next) :
      rank next < rank e := by
    induction ht with
    | single hl    => exact hstep hl
    | tail _ hl ih => exact Nat.lt_trans (hstep hl) ih
  exact fun ht => Nat.lt_irrefl _ (hlt ht)

theorem standsFor_single {s : Source} {text other : String}
    (h : StandsFor s options (.object [("allOf", .array [.string text])]) (.string other)) :
    other = text := by
  cases h with
  | reference hv => simp [Fields.get?] at hv
  | member _ hv hs hm hj =>
    cases hv
    cases hs
    cases List.mem_singleton.mp hm
    cases hj
    rfl

-- One reference has keywords beside it and leads to an `allOf` with another one; the text of the third is
-- in an `allOf` itself.
def invoice : Json :=
  .object [
    ("definitions", .object [
      ("address", .object [
        ("properties", .object [("street", .object [("type", .string "string")])]),
        ("type", .string "object")]),
      ("customer", .object [
        ("allOf", .array [
          .object [("$ref", .string "#/definitions/address")],
          .object [("required", .array [.string "name"])]])])]),
    ("properties", .object [
      ("billing", .object [
        ("$ref", .string "#/definitions/customer"),
        ("title", .string "Billing")]),
      ("shipping", .object [("$ref", .object [("allOf", .array [.string "#/definitions/address"])])])])]

theorem poses_invoice {place : Pointer} {text : String} (h : (sourceOf invoice).1.Poses options place text) :
    place = ⟨["properties", "shipping"]⟩ ∧ text = "#/definitions/address" := by
  obtain ⟨fields, value, hn, hv, hs⟩ := h
  have hall : ∀ entry ∈ invoice.nodes .root,
      ((entry.2.field? "$ref").bind Json.asObject?).isSome → entry.1 = ⟨["properties", "shipping"]⟩ := by
    decide +kernel
  have hplace : place = ⟨["properties", "shipping"]⟩ :=
    hall _ hn (by simp [Json.field?, Json.asObject?, hv])
  subst hplace
  have hg : invoice.get? ⟨["properties", "shipping"]⟩ =
      some (.object [("$ref", .object [("allOf", .array [.string "#/definitions/address"])])]) := rfl
  cases Json.get?_of_mem_nodes (by decide) hn hg
  cases hv
  exact ⟨rfl, standsFor_single hs⟩

theorem referenceFree_invoice :
    invoice.WellFormed ∧ invoice.isObject ∧ referencesExist invoice ∧
      (∀ place text, (sourceOf invoice).1.Poses {} place text →
        ((Pointer.parse? text).bind invoice.get?).isSome) ∧
      (∀ e, ¬ Relation.TransGen ((sourceOf invoice).1.LeadsTo {}) e e) ∧
      (recursive invoice).entries = [] ∧
      ∃ compiled, compile {} invoice = .ok compiled ∧ compiled.schema.ReferenceFree := by
  have hw : invoice.WellFormed := by decide
  have he : referencesExist invoice := by decide +kernel
  have hr : (recursive invoice).entries = [] := by decide +kernel
  have hfound : ((Pointer.parse? "#/definitions/address").bind invoice.get?).isSome := by decide +kernel
  have hp (place : Pointer) (text : String) (h : (sourceOf invoice).1.Poses {} place text) :
      ((Pointer.parse? text).bind invoice.get?).isSome := by
    obtain ⟨_, rfl⟩ := poses_invoice h
    exact hfound
  have hparse : Pointer.parse? "#/definitions/address" = some ⟨["definitions", "address"]⟩ := by
    decide +kernel
  have hrefers (e : Edge) (h : (sourceOf invoice).1.Refers {} e) :
      e ∈ ⟨⟨["properties", "shipping"]⟩, ⟨["definitions", "address"]⟩⟩ :: invoice.references := by
    obtain h | ⟨text, h, ht⟩ := h
    case inl => exact List.mem_cons_of_mem _ h
    case inr =>
      obtain ⟨hsource, rfl⟩ := poses_invoice h
      cases e
      cases hsource
      cases hparse.symm.trans ht
      exact List.mem_cons_self
  have hc : ∀ e, ¬ Relation.TransGen ((sourceOf invoice).1.LeadsTo {}) e e :=
    not_leadsTo_of_rank (fun e => if e.target = ⟨["definitions", "customer"]⟩ then 1 else 0) hrefers
      (by decide +kernel)
  exact ⟨hw, rfl, he, hp, hc, hr, referenceFree_compile hw rfl he hp hc hr (by decide)⟩

-- The object under `$ref` becomes the text in its `allOf`, which no node answers to.
def strayText : Json :=
  .object [
    ("properties", .object [
      ("a", .object [("$ref", .object [("allOf", .array [.string "#/missing"])])])])]

theorem not_referenceFree_strayText :
    strayText.WellFormed ∧ strayText.isObject ∧ strayText.references = [] ∧ referencesExist strayText ∧
      (recursive strayText).entries = [] ∧
      ∃ compiled, compile {} strayText = .ok compiled ∧ ¬ compiled.schema.ReferenceFree := by
  have hr : (compile {} strayText).toOption.any (fun c =>
      referenceAt? c.schema ⟨["properties", "a"]⟩ == some "#/missing") = true := by
    decide +kernel
  obtain ⟨compiled, hc, hr⟩ := exists_compile_of_any hr
  refine ⟨by decide, rfl, by decide +kernel, by decide +kernel, by decide +kernel, compiled, hc, fun hf => ?_⟩
  obtain ⟨node, hn, ht⟩ := Option.bind_eq_some_iff.mp (eq_of_beq hr)
  obtain ⟨fields, rfl, hg⟩ := Json.object_of_reference? ht
  exact hf fields "#/missing" (Json.occurs_of_follow? hn) (Fields.mem_of_get? hg)

end JsonSchema.CompiledSchema
