import JsonSchema.Proofs.Compiled.References
import JsonSchema.Proofs.Expansion.Unfolding

namespace JsonSchema.CompiledSchema

open Visit (Reached Toured)

variable {schema : Json} {options : Options} {compiled : CompiledSchema} {u v w : Visit}
  {p q : Pointer} {tokens : List String}

theorem gathered_sourceOf (hs : schema.PureReferences) (hw : schema.WellFormed) :
    (sourceOf schema).1.Gathered :=
  ⟨hs, hw, rfl, rfl⟩

theorem targetAt?_eq (j : Json) (p : Pointer) :
    j.targetAt? p = (referenceAt? j p).bind Pointer.parse? := by
  rw [Json.targetAt?, referenceAt?, Option.bind_assoc]

theorem exists_compile (hs : schema.PureReferences) (hw : schema.WellFormed) (ho : schema.isObject)
    (hc : options.combineAllOf = false) (hr : options.relocateArrayRequired = false) :
    ∃ compiled, compile options schema = .ok compiled ∧
      Expands (sourceOf schema).1 Visit.start (expanded options schema) := by
  obtain ⟨r, hr, e, rfl, he⟩ := Expansion.expand_root_expands (gathered_sourceOf hs hw) hc hr
  obtain ⟨compiled, hcompile, hexpanded⟩ := exists_compile_of_expand ho hr
  exact ⟨compiled, hcompile, hexpanded ▸ he⟩

section Positions

variable (hs : schema.PureReferences) (hw : schema.WellFormed)
  (hc : compile options schema = .ok compiled)
  (he : Expands (sourceOf schema).1 Visit.start (expanded options schema))

theorem exists_settled_of_child {s : Expansion.Source} {token : String} (h : Reached s v)
    (hp : v.path = p.child token) : ∃ u, Reached s u ∧ u.Settled s ∧ u.path = p := by
  refine Reached.induct (motive := fun v => v.path = p.child token → ∃ u, Reached s u ∧
    u.Settled s ∧ u.path = p) ?start ?move h hp
  case start =>
    intro hp
    simp [Visit.start, Pointer.root, Pointer.child] at hp
  case move =>
    intro v m w hv ih hm _ hp
    cases m with
    | none =>
      obtain ⟨_, _, hpath, _⟩ := Visit.jump?_eq_some hm
      exact ih (hpath ▸ hp)
    | some other =>
      obtain ⟨hn, _, rfl⟩ := Visit.step?_eq_some hm
      refine ⟨v, hv, hn, ?_⟩
      have hp : v.path.tokens ++ [other] = p.tokens ++ [token] := congrArg Pointer.tokens hp
      cases p
      exact congrArg Pointer.mk (List.append_inj' hp rfl).left

include hs hw hc he

theorem outline_of_settled (h : Reached (sourceOf schema).1 v) (hv : v.Settled (sourceOf schema).1) :
    ∃ found made, schema.get? v.node = some found ∧ compiled.schema.get? v.path = some made ∧
      made.outline = found.outline ∧ made.reference? = none := by
  have hnone {u : Visit} (hu : Reached (sourceOf schema).1 u) (hus : u.Settled (sourceOf schema).1) :
      referenceAt? (expanded options schema) u.path = none := by
    obtain ⟨e, hg, hexpands⟩ := hu.exists_expands he
    obtain ⟨_, _, _, hn⟩ := hexpands.of_settled hs hus
    simp [referenceAt?, hg, hn]
  have hredirect {u : Visit} (hu : Reached (sourceOf schema).1 u)
      (hus : u.Settled (sourceOf schema).1) : ¬ Redirects options schema u.path := by
    rintro ⟨_, _, ht, _⟩
    simp [hnone hu hus] at ht
  obtain ⟨e, hg, hexpands⟩ := h.exists_expands he
  obtain ⟨found, hf, ho, _⟩ := hexpands.of_settled hs hv
  have hout := (outline_compiled hw hc).right v.path fun place hp hpath => by
    obtain ⟨u, hu, hus, rfl⟩ := exists_settled_of_child h hpath
    exact hredirect hu hus hp
  rw [hg, Option.map_some, Option.map_eq_some_iff] at hout
  obtain ⟨made, hmade, hout⟩ := hout
  have href := (referenceAt?_compiled hw hc v.path).right (hredirect h hv)
  rw [hnone h hv, referenceAt?, hmade, Option.bind_some] at href
  exact ⟨found, made, hf, hmade, hout.trans ho, href⟩

theorem settles_of_settled (h : Reached (sourceOf schema).1 v) (hv : v.Settled (sourceOf schema).1) :
    compiled.schema.Settles v.path v.path := by
  obtain ⟨_, made, _, hm, _, hn⟩ := outline_of_settled hs hw hc he h hv
  exact .here hm hn

omit hs in
theorem targetAt?_of_blocked (h : Reached (sourceOf schema).1 v) (hb : v.Blocked (sourceOf schema).1)
    (hq : schema.targetAt? v.node = some q) :
    compiled.schema.targetAt? v.path = some q ∨
      (sourceOf schema).1.shorten v.path ≠ v.path ∧
        compiled.schema.targetAt? v.path = some ((sourceOf schema).1.shorten v.path) := by
  obtain ⟨e, hg, hexpands⟩ := h.exists_expands he
  have hnode : schema.get? v.node = some e := hexpands.of_blocked hb
  have hq' : (referenceAt? (expanded options schema) v.path).bind Pointer.parse? = some q := by
    rw [← hq, targetAt?_eq, referenceAt?, referenceAt?, hg, hnode]
  obtain ⟨hyes, hno⟩ := referenceAt?_compiled hw hc v.path
  rw [targetAt?_eq]
  by_cases hr : Redirects options schema v.path
  case neg => exact .inl (by rw [hno hr, hq'])
  case pos =>
    rw [hyes hr, Option.bind_some, Pointer.parse?_fragment]
    obtain ⟨_, _, _, _, _, hne⟩ := hr
    exact .inr ⟨hne, rfl⟩

omit hs hw hc he in
theorem exists_final {n : Nat} (h : Reached (sourceOf schema).1 v) (hn : schema.Rank n v.node) :
    ∃ u m, Reached (sourceOf schema).1 u ∧ u.path = v.path ∧ schema.Rank m u.node ∧ m ≤ n ∧
      (u.Settled (sourceOf schema).1 ∨ u.Blocked (sourceOf schema).1) := by
  induction n generalizing v with
  | zero =>
    cases hn
    case zero ht => exact ⟨v, 0, h, rfl, .zero ht, Nat.le_refl 0, .inl ht⟩
  | succ n ih =>
    by_cases hb : v.Blocked (sourceOf schema).1
    case pos => exact ⟨v, n + 1, h, rfl, hn, Nat.le_refl _, .inr hb⟩
    case neg =>
      cases hn
      case succ q hq ht =>
        obtain ⟨w, hw⟩ : ∃ w, v.jump? (sourceOf schema).1 = some w := by
          simp [Visit.jump?, show (sourceOf schema).1.schema.targetAt? v.node = some q from ht]
        obtain ⟨target, ht', hp, hnode, _⟩ := Visit.jump?_eq_some hw
        obtain rfl : q = target := Option.some.inj (ht.symm.trans ht')
        obtain ⟨u, m, hu, hup, hm, hle, hfinal⟩ := ih (h.move (m := none) hw fun _ => hb) (hnode ▸ hq)
        exact ⟨u, m, hu, hup.trans hp, hm, Nat.le_succ_of_le hle, hfinal⟩

-- From a target, references lead to where they lead in the schema. The induction is on how many that are:
-- if one is left in the compiled schema, then fewer follow after it.
theorem exists_settles_of_isTarget {n : Nat} (hp : schema.IsTarget p) (hn : schema.Rank n p) :
    ∃ w, Reached (sourceOf schema).1 w ∧ w.Settled (sourceOf schema).1 ∧
      compiled.schema.Settles p w.path ∧ schema.Settles p w.node := by
  have hg := gathered_sourceOf hs hw
  induction n using Nat.strongRecOn generalizing p with
  | ind n ih =>
    obtain ⟨u, m, hu, hup, hrank, hle, hfinal⟩ := exists_final (Visit.reached_direct hs hp) hn
    obtain rfl : u.path = p := hup
    have hwalks {q : Pointer} (hq : schema.Settles u.node q) : schema.Settles u.path q :=
      (Expansion.Source.walks_isTarget_iff (s := (sourceOf schema).1) hs hp).mp
        (hu.toured.walks hs q hq)
    cases hfinal
    case inl hset =>
      exact ⟨u, hu, hset, settles_of_settled hs hw hc he hu hset,
        hwalks (hu.toured.settles_of_settled hs hset)⟩
    case inr hb =>
      obtain ⟨_, q, hq, _⟩ := id hb
      cases targetAt?_of_blocked hw hc he hu hb hq
      case inl ht =>
        obtain ⟨k, rfl, hk⟩ := hrank.of_jump hq
        obtain ⟨w, hw', hws, hpath, hnode⟩ := ih k (by omega) (hs.isTarget hq) hk
        exact ⟨w, hw', hws, .jump ht hpath, hwalks (.jump hq hnode)⟩
      case inr ht =>
        obtain ⟨hne, ht⟩ := ht
        obtain ⟨_, hset, _, r, hr⟩ := (hg.shorten_of_isTarget hp).resolve_left hne
        have hdirect := Visit.reached_direct (s := (sourceOf schema).1) hs (hs.isTarget hr)
        have hsettled := settles_of_settled hs hw hc he hdirect hset.targetAt?_eq_none
        exact ⟨_, hdirect, hset.targetAt?_eq_none, .jump ht hsettled, hset⟩

-- From each position, references lead to another one with the same node. If the first one leads to the
-- shortest pointer, then what follows from there leads to targets.
theorem exists_settles (h : Reached (sourceOf schema).1 v) :
    ∃ w, Reached (sourceOf schema).1 w ∧ w.Settled (sourceOf schema).1 ∧
      compiled.schema.Settles v.path w.path ∧ schema.Walks .root v.path.tokens w.node := by
  have hg := gathered_sourceOf hs hw
  have hfinal {v : Visit} (h : Reached (sourceOf schema).1 v) : ∃ u, Reached (sourceOf schema).1 u ∧
      u.path = v.path ∧ (u.Settled (sourceOf schema).1 ∨ u.Blocked (sourceOf schema).1) := by
    obtain ⟨q, hq⟩ := h.toured.exists_settles hs
    obtain ⟨n, hn⟩ := hq.exists_rank
    obtain ⟨u, _, hu, hup, _, _, hf⟩ := exists_final h hn
    exact ⟨u, hu, hup, hf⟩
  have hfollow {u : Visit} {q : Pointer} (hu : Reached (sourceOf schema).1 u)
      (hq : schema.targetAt? u.node = some q) (ht : compiled.schema.targetAt? u.path = some q) :
      ∃ w, Reached (sourceOf schema).1 w ∧ w.Settled (sourceOf schema).1 ∧
        compiled.schema.Settles u.path w.path ∧ schema.Walks .root u.path.tokens w.node := by
    obtain ⟨found, hf, _⟩ := hs.isTarget hq
    obtain ⟨_, hr⟩ := hs.settles q found hf
    obtain ⟨n, hn⟩ := hr.exists_rank
    obtain ⟨w, hw', hws, hpath, hnode⟩ := exists_settles_of_isTarget hs hw hc he (hs.isTarget hq) hn
    exact ⟨w, hw', hws, .jump ht hpath, hu.toured.walks hs _ (.jump hq hnode)⟩
  obtain ⟨u, hu, hup, hcase⟩ := hfinal h
  rw [← hup]
  cases hcase
  case inl hset =>
    exact ⟨u, hu, hset, settles_of_settled hs hw hc he hu hset, hu.toured.walks_of_settled hg hset⟩
  case inr hb =>
    obtain ⟨_, q, hq, _⟩ := id hb
    cases targetAt?_of_blocked hw hc he hu hb hq
    case inl ht => exact hfollow hu hq ht
    case inr ht =>
      obtain ⟨_, ht⟩ := ht
      obtain ⟨x, hx, hxp⟩ := hu.shorten hg
      obtain ⟨y, hy, hyp, hcase⟩ := hfinal hx
      rw [← hxp, ← hyp] at ht
      have hwalks {r : Pointer} (hr : schema.Walks .root y.path.tokens r) :
          schema.Walks .root u.path.tokens r := by
        rw [hyp, hxp] at hr
        exact (hg.walks_shorten ⟨u, hu.toured, rfl⟩).mpr hr
      cases hcase
      case inl hset =>
        exact ⟨y, hy, hset, .jump ht (settles_of_settled hs hw hc he hy hset),
          hwalks (hy.toured.walks_of_settled hg hset)⟩
      case inr hb =>
        obtain ⟨_, q, hq, _⟩ := id hb
        have hshort : (sourceOf schema).1.shorten y.path = y.path := by
          rw [hyp, hxp]
          exact ReferenceMap.shorten_eq_self (ReferenceMap.normal_shorten _ _ _)
        have hyt := (targetAt?_of_blocked hw hc he hy hb hq).resolve_right fun h => h.left hshort
        obtain ⟨w, hw', hws, hpath, hwalk⟩ := hfollow hy hq hyt
        exact ⟨w, hw', hws, .jump ht hpath, hwalks hwalk⟩

theorem exists_step {token : String} (hv : Reached (sourceOf schema).1 v)
    (hvs : v.Settled (sourceOf schema).1) (hg : (schema.get? (v.node.child token)).isSome) :
    ∃ w, Reached (sourceOf schema).1 w ∧ w.Settled (sourceOf schema).1 ∧
      schema.Settles (v.node.child token) w.node ∧
      compiled.schema.Settles (v.path.child token) w.path := by
  obtain ⟨u, hu⟩ : ∃ u, v.step? (sourceOf schema).1 token = some u := ⟨_, if_pos ⟨hvs, hg⟩⟩
  have hur : Reached (sourceOf schema).1 u := hv.move (m := some token) hu (by simp)
  obtain ⟨w, hw', hws, hpath, hwalk⟩ := exists_settles hs hw hc he hur
  obtain ⟨q, hq⟩ := hur.toured.exists_settles hs
  obtain rfl := hwalk.unique (hur.toured.walks hs q hq)
  obtain ⟨_, _, rfl⟩ := Visit.step?_eq_some hu
  exact ⟨w, hw', hws, hq, hpath⟩

theorem exists_walks_compiled (hv : Reached (sourceOf schema).1 v)
    (hvs : v.Settled (sourceOf schema).1) (h : schema.Walks v.node tokens p) :
    ∃ w, Reached (sourceOf schema).1 w ∧ w.Settled (sourceOf schema).1 ∧ w.node = p ∧
      compiled.schema.Walks v.path tokens w.path := by
  induction tokens generalizing v with
  | nil =>
    have hp := Json.Settles.eq_of_targetAt?_eq_none h hvs
    exact ⟨v, hv, hvs, hp, settles_of_settled hs hw hc he hv hvs⟩
  | cons token rest ih =>
    obtain ⟨m, hm, h⟩ := h
    obtain rfl := hm.eq_of_targetAt?_eq_none hvs
    obtain ⟨q, hq⟩ := Json.exists_settles_of_walks h
    obtain ⟨u, hu, hus, hnode, hpath⟩ := exists_step hs hw hc he hv hvs hq.isSome_get?
    obtain ⟨w, hw', hws, hwn, hwalk⟩ := ih hu hus ((Json.walks_of_settles hnode).mpr h)
    exact ⟨w, hw', hws, hwn, v.path, settles_of_settled hs hw hc he hv hvs,
      (Json.walks_of_settles hpath).mp hwalk⟩

theorem exists_walks_schema (hv : Reached (sourceOf schema).1 v)
    (hvs : v.Settled (sourceOf schema).1) (h : compiled.schema.Walks v.path tokens q) :
    ∃ p, schema.Walks v.node tokens p := by
  induction tokens generalizing v with
  | nil =>
    have hself := hv.toured.settles_of_settled hs hvs
    exact ⟨v.node, hself⟩
  | cons token rest ih =>
    obtain ⟨m, hm, h⟩ := h
    obtain rfl := (settles_of_settled hs hw hc he hv hvs).unique hm
    obtain ⟨r, hr⟩ := Json.exists_settles_of_walks h
    have hg : (schema.get? (v.node.child token)).isSome := by
      obtain ⟨found, made, hf, hmade, ho, _⟩ := outline_of_settled hs hw hc he hv hvs
      have hstep := hr.isSome_get?
      rw [Json.get?_child, hmade, Option.bind_some, Json.isSome_step?_of_outline_eq ho] at hstep
      rwa [Json.get?_child, hf]
    obtain ⟨u, hu, hus, hnode, hpath⟩ := exists_step hs hw hc he hv hvs hg
    obtain ⟨p, hp⟩ := ih hu hus ((Json.walks_of_settles hpath).mpr h)
    exact ⟨p, v.node, hv.toured.settles_of_settled hs hvs, (Json.walks_of_settles hnode).mp hp⟩

end Positions

-- The references that are left lead to positions of the expansion, from where walks lead to the same nodes as
-- from their targets in the schema.
theorem unfolding_compile (hs : schema.PureReferences) (hw : schema.WellFormed)
    (ho : schema.isObject) (hc : options.combineAllOf = false)
    (hr : options.relocateArrayRequired = false) :
    ∃ compiled, compile options schema = .ok compiled ∧ ∀ tokens : List String,
      ((∃ p, schema.Walks .root tokens p) ↔ ∃ q, compiled.schema.Walks .root tokens q) ∧
      ∀ p q, schema.Walks .root tokens p → compiled.schema.Walks .root tokens q →
        ∃ found made, schema.get? p = some found ∧ compiled.schema.get? q = some made ∧
          made.outline = found.outline := by
  obtain ⟨compiled, hcompile, he⟩ := exists_compile hs hw ho hc hr
  have hstart : Reached (sourceOf schema).1 Visit.start := Visit.reached_start
  have hroot : Visit.start.Settled (sourceOf schema).1 := hs.targetAt?_root
  refine ⟨compiled, hcompile, fun tokens => ⟨⟨?_, ?_⟩, fun p q hp hq => ?_⟩⟩
  case refine_1 =>
    rintro ⟨p, hp⟩
    obtain ⟨w, _, _, _, h⟩ := exists_walks_compiled hs hw hcompile he hstart hroot hp
    exact ⟨w.path, h⟩
  case refine_2 => exact fun ⟨q, hq⟩ => exists_walks_schema hs hw hcompile he hstart hroot hq
  case refine_3 =>
    obtain ⟨w, hr, hws, rfl, h⟩ := exists_walks_compiled hs hw hcompile he hstart hroot hp
    obtain rfl := h.unique hq
    obtain ⟨found, made, hf, hm, ho, _⟩ := outline_of_settled hs hw hcompile he hr hws
    exact ⟨found, made, hf, hm, ho⟩

theorem unfolding_compile_tree :
    tree.PureReferences ∧ tree.WellFormed ∧ tree.isObject ∧
      ∃ compiled q, compile ⟨.merge, false, false⟩ tree = .ok compiled ∧
        compiled.schema.Walks .root ["properties", "root", "properties", "child"] q := by
  have hs : tree.PureReferences :=
    Json.pureReferences_of_hasPureReferences (by decide +kernel)
  have hw : tree.WellFormed := by decide
  have ht : tree.targetAt? ⟨["properties", "root"]⟩ = some ⟨["definitions", "tree"]⟩ := by decide +kernel
  have hc : tree.targetAt? ⟨["definitions", "tree", "properties", "child"]⟩ =
      some ⟨["definitions", "tree"]⟩ := by
    decide +kernel
  have hwalk : tree.Walks .root ["properties", "root", "properties", "child"]
      ⟨["definitions", "tree"]⟩ :=
    ⟨_, .here rfl rfl, _, .here rfl rfl, _, .jump ht (.here rfl rfl), _, .here rfl rfl,
      .jump hc (.here rfl rfl)⟩
  obtain ⟨compiled, hcompile, h⟩ := unfolding_compile hs hw rfl
    (show (⟨.merge, false, false⟩ : Options).combineAllOf = false from rfl) rfl
  obtain ⟨q, hq⟩ := (h _).left.mp ⟨_, hwalk⟩
  exact ⟨hs, hw, rfl, compiled, q, hcompile, hq⟩

end JsonSchema.CompiledSchema
