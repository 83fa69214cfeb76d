import JsonSchema.Proofs.Reference.Recursion

namespace JsonSchema

namespace Json

-- From a pointer further steps lead to another one, at which a node stands that makes no reference.
inductive Leads (schema : Json) : Pointer → List String → Pointer → Prop
  | stop {p node} :
    (p, node) ∈ schema.nodes .root → node.reference? = none → Leads schema p [] p
  | step {p node token rest r} :
    (p, node) ∈ schema.nodes .root → node.reference? = none →
      Leads schema (p.child token) rest r → Leads schema p (token :: rest) r
  | jump {p node text target q tokens r} :
    (p, node) ∈ schema.nodes .root → node.reference? = some text →
      Pointer.parse? text = some target → Leads schema .root target.tokens q →
      Leads schema q tokens r → Leads schema p tokens r

def Denotes (schema : Json) (p r : Pointer) : Prop := schema.Leads .root p.tokens r

-- A node that makes a reference has no other key.
def LoneReferences (schema : Json) : Prop :=
  ∀ p node text, (p, node) ∈ schema.nodes .root → node.reference? = some text →
    node = .object [("$ref", .string text)]

variable {schema j found other : Json} {p q r place : Pointer} {e next composite : Edge}
  {token text : String} {tokens front back rest : List String}

namespace Leads

theorem settled (h : schema.Leads p tokens r) : schema.Leads r [] r := by
  induction h with
  | stop hm hr            => exact .stop hm hr
  | step _ _ _ ih         => exact ih
  | jump _ _ _ _ _ _ ih   => exact ih

theorem append (hf : schema.Leads p front q) (hb : schema.Leads q back r) :
    schema.Leads p (front ++ back) r := by
  induction hf with
  | stop               => exact hb
  | step hm hr _ ih    => exact .step hm hr (ih hb)
  | jump hm hr hp hl _ _ ih => exact .jump hm hr hp hl (ih hb)

theorem exists_of_append (h : schema.Leads p (front ++ back) r) :
    ∃ q, schema.Leads p front q ∧ schema.Leads q back r := by
  generalize ht : front ++ back = tokens at h
  induction h generalizing front with
  | @stop p node hm hr =>
    obtain ⟨rfl, rfl⟩ := List.append_eq_nil_iff.mp ht
    exact ⟨p, .stop hm hr, .stop hm hr⟩
  | @step p node token rest r hm hr hl ih =>
    cases front with
    | nil =>
      obtain rfl : back = token :: rest := ht
      exact ⟨p, .stop hm hr, .step hm hr hl⟩
    | cons first more =>
      obtain ⟨rfl, hmore⟩ := List.cons.inj ht
      obtain ⟨q, hf, hb⟩ := ih hmore
      exact ⟨q, .step hm hr hf, hb⟩
  | jump hm hr hp hl _ _ ih =>
    obtain ⟨q, hf, hb⟩ := ih ht
    exact ⟨q, .jump hm hr hp hl hf, hb⟩

section

variable (hw : schema.WellFormed) (hm : (p, j) ∈ schema.nodes .root)

include hw hm

theorem eq_of_stop (hr : j.reference? = none) (h : schema.Leads p [] r) : r = p := by
  cases h with
  | stop                  => rfl
  | jump hm' hr' _ _ _    => simp [eq_of_mem_nodes hw hm' hm, hr] at hr'

theorem of_step (hr : j.reference? = none) (h : schema.Leads p (token :: rest) r) :
    schema.Leads (p.child token) rest r := by
  cases h with
  | step _ _ h            => exact h
  | jump hm' hr' _ _ _    => simp [eq_of_mem_nodes hw hm' hm, hr] at hr'

theorem of_jump (hr : j.reference? = some text) (hp : Pointer.parse? text = some target)
    (h : schema.Leads p tokens r) :
    ∃ q, schema.Leads .root target.tokens q ∧ schema.Leads q tokens r := by
  cases h with
  | stop hm' hr'          => simp [eq_of_mem_nodes hw hm' hm, hr] at hr'
  | step hm' hr' _        => simp [eq_of_mem_nodes hw hm' hm, hr] at hr'
  | jump hm' hr' hp' hl h =>
    obtain rfl := eq_of_mem_nodes hw hm hm'
    obtain rfl := Option.some.inj (hr.symm.trans hr')
    obtain rfl := Option.some.inj (hp.symm.trans hp')
    exact ⟨_, hl, h⟩

end

theorem unique (hw : schema.WellFormed) (hq : schema.Leads p tokens q)
    (hr : schema.Leads p tokens r) : q = r := by
  induction hq generalizing r with
  | stop hm hn        => exact (eq_of_stop hw hm hn hr).symm
  | step hm hn _ ih   => exact ih (of_step hw hm hn hr)
  | jump hm hs hp _ _ iht ih =>
    obtain ⟨m, ht, h⟩ := of_jump hw hm hs hp hr
    exact ih (iht ht ▸ h)

-- A walk goes straight to a node that makes a reference, since none of the enclosing ones does.
theorem through (hw : schema.WellFormed) (hl : schema.LoneReferences)
    (hj : (place, j) ∈ schema.nodes .root) (hf : (place.append front, found) ∈ j.nodes place)
    (hr : found.reference? = some text) :
    schema.Leads place (front ++ back) r ↔ schema.Leads (place.append front) back r := by
  induction front generalizing place j with
  | nil             => rw [Pointer.append_nil, List.nil_append]
  | cons token rest ih =>
    have hn : j.reference? = none := by
      cases hjr : j.reference? with
      | none       => rfl
      | some other =>
        obtain rfl := hl place j other hj hjr
        obtain ⟨child, hc, hf⟩ := exists_child_of_mem_nodes hf
        obtain rfl : child = .string other := by
          simp only [nodes, nodesOfFields, List.append_nil, List.mem_cons, Prod.mk.injEq] at hc
          have hne := @child_append_ne place token []
          rw [Pointer.append_nil] at hne
          exact ((hc.resolve_left fun he => hne he.left).resolve_right List.not_mem_nil).right
        simp only [nodes, List.mem_singleton, Prod.mk.injEq] at hf
        simp [hf.right, reference?, field?, asObject?] at hr
    obtain ⟨child, hc, hf⟩ := exists_child_of_mem_nodes hf
    have hc := mem_nodes_trans hj hc
    rw [List.cons_append, ← Pointer.child_append, ← ih hc hf]
    constructor
    case mp  => exact of_step hw hj hn
    case mpr => exact .step hj hn

end Leads

def Alike (schema : Json) (p q : Pointer) : Prop :=
  ∀ tokens r, schema.Denotes (p.append tokens) r ↔ schema.Denotes (q.append tokens) r

namespace Alike

theorem refl (schema : Json) (p : Pointer) : schema.Alike p p := fun _ _ => Iff.rfl

theorem symm (h : schema.Alike p q) : schema.Alike q p := fun tokens r => (h tokens r).symm

theorem trans (hp : schema.Alike p q) (hq : schema.Alike q r) : schema.Alike p r :=
  fun tokens s => (hp tokens s).trans (hq tokens s)

theorem append (h : schema.Alike p q) (front : List String) :
    schema.Alike (p.append front) (q.append front) := by
  intro back r
  rw [Pointer.append_append, Pointer.append_append]
  exact h (front ++ back) r

theorem denotes_iff (h : schema.Alike p q) : schema.Denotes p r ↔ schema.Denotes q r := by
  have h := h [] r
  rwa [Pointer.append_nil, Pointer.append_nil] at h

end Alike

theorem alike_of_mem_references (hw : schema.WellFormed) (hl : schema.LoneReferences)
    (he : e ∈ schema.references) : schema.Alike e.source e.target := by
  obtain ⟨node, text, hm, hr, hp⟩ := mem_references.mp he
  intro tokens r
  have hf : (Pointer.root.append e.source.tokens, node) ∈ schema.nodes .root := by
    rwa [Pointer.root_append_tokens]
  have hs : schema.Denotes (e.source.append tokens) r ↔ schema.Leads e.source tokens r := by
    rw [Denotes, Pointer.append, Leads.through hw hl (self_mem_nodes .root schema) hf hr,
      Pointer.root_append_tokens]
  rw [hs]
  constructor
  case mp =>
    intro h
    obtain ⟨q, ht, h⟩ := h.of_jump hw hm hr hp
    exact ht.append h
  case mpr =>
    intro h
    obtain ⟨q, ht, h⟩ := Leads.exists_of_append h
    exact .jump hm hr hp ht h

theorem Alike.compose (he : schema.Alike e.source e.target)
    (hn : schema.Alike next.source next.target) (hc : e.compose? next = some composite) :
    schema.Alike composite.source composite.target := by
  obtain ⟨tokens, hs, rfl⟩ := Edge.compose?_eq_some.mp hc
  exact (he.append tokens).trans (hs ▸ hn)

-- What holds of the references and of the edges that compose from them holds of the closure. The
-- induction is on the paths that are followed: their edges are found, and what they may take are
-- references.
theorem closure_induct {motive : Edge → Prop} (hb : ∀ e ∈ schema.references, motive e)
    (hc : ∀ e next composite, motive e → motive next → e.compose? next = some composite →
      motive composite) : ∀ e ∈ schema.closure, motive e := by
  have hf (found : List Edge) (pending : List Path) (hf : ∀ e ∈ found, motive e)
      (hp : ∀ path ∈ pending, motive path.1 ∧ ∀ next ∈ path.2, motive next) :
      ∀ e ∈ Path.follow found pending, motive e := by
    induction found, pending using Path.follow.induct with
    | case1 found =>
      rw [Path.follow]
      exact hf
    | case2 found e unused pending hr ih =>
      rw [Path.follow, if_pos hr]
      exact ih hf fun path hm => hp path (List.mem_cons_of_mem _ hm)
    | case3 found e unused pending hr ih =>
      rw [Path.follow, if_neg hr]
      obtain ⟨h₁, h₂, _⟩ := Path.extensions_spec e unused found unused
      obtain ⟨he, hu⟩ := hp (e, unused) List.mem_cons_self
      have hx {next composite : Edge} (hn : next ∈ unused) (h : e.compose? next = some composite) :
          motive composite :=
        hc e next composite he (hu next hn) h
      refine ih (fun x hm => ?_) (fun path hm => ?_)
      case refine_1 =>
        cases (h₁ x).mp hm
        case inl hm => exact hf x hm
        case inr hm =>
          obtain ⟨next, hn, h⟩ := hm
          exact hx hn h
      case refine_2 =>
        cases List.mem_append.mp hm
        case inr hm => exact hp path (List.mem_cons_of_mem _ hm)
        case inl hm =>
          obtain ⟨next, hn, h, hrest⟩ := h₂ path hm
          exact ⟨hx hn h, fun other ho => hu other (List.mem_of_mem_erase (hrest ▸ ho))⟩
  refine hf _ _ (fun e he => hb e (Edge.mem_sort.mp he)) fun path hm => ?_
  obtain ⟨e, he, rfl⟩ := List.mem_map.mp hm
  exact ⟨hb e (List.mem_reverse.mp he), fun next hn => hb next (List.mem_of_mem_erase hn)⟩

theorem alike_of_mem_closure (hw : schema.WellFormed) (hl : schema.LoneReferences) :
    ∀ e ∈ schema.closure, schema.Alike e.source e.target :=
  closure_induct (fun _ he => alike_of_mem_references hw hl he) fun _ _ _ he hn hc => he.compose hn hc

theorem alike_of_mem_ofEdges (hw : schema.WellFormed) (hl : schema.LoneReferences)
    (h : (p, q) ∈ (ReferenceMap.ofEdges schema.closure).entries) : schema.Alike p q := by
  obtain ⟨place, node, outer, inner, rfl, rfl, hp, he, _⟩ := ReferenceMap.exists_of_mem_ofEdges h
  have hn : schema.Alike (node.append outer) (node.append inner) := alike_of_mem_closure hw hl _ he
  have hp : schema.Alike place node := by
    cases hp
    case inl hp =>
      obtain ⟨rfl, rfl⟩ := hp
      exact .refl schema .root
    case inr hp => exact alike_of_mem_closure hw hl _ hp.right
  exact ((hp.append outer).trans hn).trans (hp.append inner).symm

-- A pointer denotes what the pointer denotes that the recursive references shorten it to.
theorem denotes_shorten_iff (hw : schema.WellFormed) (hl : schema.LoneReferences) (p r : Pointer) :
    schema.Denotes p r ↔ schema.Denotes
      ((ReferenceMap.ofEdges (ReferenceGraph.ofSchema schema).closure).shorten .empty p) r := by
  refine Alike.denotes_iff ?_
  refine ReferenceMap.shorten_induct (motive := schema.Alike p) ?_ (.refl schema p)
  intro source target tokens he _ hp
  exact hp.trans ((alike_of_mem_ofEdges hw hl he).append tokens)

def hasLoneReferences (schema : Json) : Bool :=
  (schema.nodes .root).all fun (_, node) =>
    node.reference?.isNone || node.asObject?.any (·.length == 1)

theorem loneReferences_of_hasLoneReferences (h : schema.hasLoneReferences = true) :
    schema.LoneReferences := by
  intro p node text hm hr
  obtain ⟨fields, rfl, hf⟩ := object_of_reference? hr
  have hone := List.all_eq_true.mp h (p, .object fields) hm
  obtain ⟨⟨key, value⟩, rfl⟩ : ∃ field, fields = [field] :=
    List.length_eq_one_iff.mp (by simpa [hr, asObject?] using hone)
  simp only [Fields.get?, Option.ite_none_right_eq_some, Option.some.injEq] at hf
  rw [hf.left, hf.right]

def linkedList : Json :=
  .object [
    ("definitions", .object [
      ("list", .object [
        ("properties", .object [("rest", .object [("$ref", .string "#/definitions/list")])])])]),
    ("properties", .object [("first", .object [("$ref", .string "#/definitions/list")])])]

-- The rest of the rest is shortened to the property, which refers to the definition.
theorem denotes_linkedList :
    linkedList.WellFormed ∧ linkedList.LoneReferences ∧
      linkedList.Denotes ⟨["properties", "first", "properties", "rest", "properties", "rest"]⟩
        ⟨["definitions", "list"]⟩ := by
  have hw : linkedList.WellFormed := by decide
  have hl : linkedList.LoneReferences := loneReferences_of_hasLoneReferences (by decide +kernel)
  refine ⟨hw, hl, (denotes_shorten_iff hw hl _ _).mpr ?_⟩
  have hs : (ReferenceMap.ofEdges (ReferenceGraph.ofSchema linkedList).closure).shorten .empty
      ⟨["properties", "first", "properties", "rest", "properties", "rest"]⟩ =
        ⟨["properties", "first"]⟩ := by
    decide +kernel
  have hp : Pointer.parse? "#/definitions/list" = some ⟨["definitions", "list"]⟩ := by
    decide +kernel
  have hd : linkedList.Leads .root ["definitions", "list"] ⟨["definitions", "list"]⟩ :=
    .step (mem_nodes_of_get? rfl) rfl (.step (mem_nodes_of_get? rfl) rfl (.stop (mem_nodes_of_get? rfl) rfl))
  rw [hs]
  exact .step (mem_nodes_of_get? rfl) rfl <| .step (mem_nodes_of_get? rfl) rfl <|
    .jump (mem_nodes_of_get? rfl) rfl hp hd hd.settled

end Json

end JsonSchema
