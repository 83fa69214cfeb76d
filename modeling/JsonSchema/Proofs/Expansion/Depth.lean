import JsonSchema.Proofs.Expansion.Positions
import JsonSchema.Proofs.Expansion.Texts

namespace JsonSchema.Expansion

-- The parts of a node request that a target is expanded. What stands for a text under `$ref` is rebuilt
-- before the text is read.
inductive Requests (options : Options) (used : List Pointer)
    (expand : Pointer → Diagnosed (Option Json)) : Json → Pointer → Pointer → Prop
  | item {items i j place target} :
    items[i]? = some j → Requests options used expand j (place.child (Pointer.ofIndex i)) target →
      Requests options used expand (.array items) place target
  | field {fields k j place target} :
    (k, j) ∈ fields → Requests options used expand j (place.child k) target →
      Requests options used expand (.object fields) place target
  | self {fields mapped place target} :
    (Json.mapPostFields (rebuild options used expand) place fields).result = .ok mapped →
      referenceOf used place mapped = .target target →
      Requests options used expand (.object fields) place target

-- An expansion of a target: how deep it may go, and what is being expanded around it.
structure Call where
  depth  : Nat
  used   : List Pointer
  target : Pointer

def Call.Makes (s : Source) (options : Options) (c d : Call) : Prop :=
  ∃ node, s.find? c.target = some node ∧ c.depth = d.depth + 1 ∧
    d.used = c.used ++ s.pointersOf c.target ∧
    Requests options d.used (expandAlong s options d.depth d.used) node c.target d.target

-- Expansions within an expansion, each within the one before.
inductive Nested (s : Source) (options : Options) : Call → List Call → Prop
  | nil (c : Call) : Nested s options c []
  | cons {c d calls} : c.Makes s options d → Nested s options d calls → Nested s options c (d :: calls)

variable {s : Source} {options : Options} {used : List Pointer} {place target : Pointer} {j : Json}
  {c d : Call} {calls : List Call}

namespace Requests

variable {expand : Pointer → Diagnosed (Option Json)}

-- Requests are made from the inside out, so each is one of the node's.
theorem not_leadsBack (h : Requests options used expand j place target) :
    ∀ q ∈ used, q.isWithin target = false := by
  induction h with
  | item _ _ ih  => exact ih
  | field _ _ ih => exact ih
  | self _ hr =>
    obtain ⟨_, _, _, hl⟩ := referenceOf_eq_target_iff.mp hr
    simp only [leadsBack, Bool.or_eq_false_iff, List.any_eq_false, Bool.not_eq_true] at hl
    exact hl.right

theorem names (hexp : ShowsTargets s options expand) (h : Requests options used expand j place target)
    (hj : s.Has j) : s.Names options target := by
  induction h with
  | item hi _ ih  => exact ih (hj.of_occurs (.item (List.mem_of_getElem? hi) .self))
  | field hm _ ih => exact ih (hj.of_occurs (.field hm .self))
  | @self fields mapped place target hm hr =>
    obtain ⟨text, hg, hp, _⟩ := referenceOf_eq_target_iff.mp hr
    obtain ⟨value, hv, hs⟩ := (mapPostFields_shows hexp mapped hm).get? hg
    exact ⟨fields, value, text, hj, hv, hs.standsFor, hp⟩

end Requests

namespace Call.Makes

theorem names (h : c.Makes s options d) : s.Names options d.target := by
  obtain ⟨node, hf, _, _, hr⟩ := h
  exact hr.names (expandAlong_shows s options d.depth d.used) (Source.has_of_find? hf)

theorem not_leadsBack (h : c.Makes s options d) : ∀ q ∈ d.used, q.isWithin d.target = false := by
  obtain ⟨_, _, _, _, hr⟩ := h
  exact hr.not_leadsBack

end Call.Makes

namespace Nested

theorem exists_makes (h : Nested s options c calls) (hd : d ∈ calls) : ∃ b, Call.Makes s options b d := by
  induction h with
  | nil => simp at hd
  | cons hm _ ih =>
    cases List.mem_cons.mp hd
    case inl he => exact ⟨_, he ▸ hm⟩
    case inr hd => exact ih hd

theorem used_subset (h : Nested s options c calls) (hd : d ∈ calls) :
    c.used ++ s.pointersOf c.target ⊆ d.used := by
  induction h with
  | nil => simp at hd
  | cons hm _ ih =>
    obtain ⟨_, _, _, hu, _⟩ := hm
    cases List.mem_cons.mp hd
    case inl he => exact he ▸ hu ▸ List.Subset.refl _
    case inr hd => exact hu ▸ fun q hq => ih hd (List.mem_append_left _ hq)

theorem pairwise (h : Nested s options c calls) :
    (c :: calls).Pairwise fun c d => ∀ q ∈ s.pointersOf c.target, q.isWithin d.target = false := by
  induction h with
  | nil => exact List.pairwise_singleton ..
  | cons hm hn ih =>
    have hn := Nested.cons hm hn
    refine List.pairwise_cons.mpr ⟨fun d hd q hq => ?_, ih⟩
    obtain ⟨_, hmakes⟩ := hn.exists_makes hd
    exact hmakes.not_leadsBack q (hn.used_subset hd (List.mem_append_right _ hq))

theorem nodup (h : Nested s options c calls) : (c.target :: calls.map (·.target)).Nodup := by
  refine List.pairwise_map.mpr (h.pairwise.imp fun {c d} hl he => ?_)
  have := hl c.target (Visit.self_mem_pointersOf s c.target)
  rw [← he, Pointer.isWithin_refl] at this
  cases this

theorem length_le (h : Nested s options c calls) {named : List Pointer}
    (hn : ∀ p, s.Names options p → p ∈ named) : calls.length ≤ named.length := by
  have hs : calls.map (·.target) ⊆ named := by
    intro p hp
    obtain ⟨d, hd, rfl⟩ := List.mem_map.mp hp
    obtain ⟨_, hmakes⟩ := h.exists_makes hd
    exact hn _ hmakes.names
  simpa using (List.nodup_cons.mp h.nodup).right.length_le_of_subset hs

theorem depth_le (h : Nested s options c calls) (hd : d ∈ calls) :
    c.depth ≤ d.depth + calls.length := by
  induction h with
  | nil => simp at hd
  | cons hm _ ih =>
    obtain ⟨_, _, hc, _, _⟩ := hm
    rw [List.length_cons]
    cases List.mem_cons.mp hd
    case inl he => subst he; omega
    case inr hd => have := ih hd; omega

end Nested

def Call.Ample (s : Source) (options : Options) (c : Call) : Prop :=
  ∀ calls, Nested s options c calls → calls.length < c.depth

namespace Call

theorem ample_of_depthBound_le (h : depthBound s ≤ c.depth) : c.Ample s options := by
  intro calls hn
  have := hn.length_le fun p (hp : s.Names options p) => hp.mem_pointers
  have := s.length_pointers
  omega

theorem Ample.of_makes (h : c.Ample s options) (hm : c.Makes s options d) : d.Ample s options := by
  intro calls hn
  have := h _ (.cons hm hn)
  obtain ⟨_, _, hc, _, _⟩ := hm
  rw [List.length_cons] at this
  omega

theorem Ample.exists_depth (h : c.Ample s options) : ∃ depth, c.depth = depth + 1 :=
  Nat.exists_eq_add_one.mpr (h [] (.nil c))

end Call

section Congruence

variable {first second : Pointer → Diagnosed (Option Json)}

theorem rebuild_congr {fields : Fields}
    (h : ∀ target, referenceOf used place fields = .target target → first target = second target) :
    rebuild options used first (.object fields) place =
      rebuild options used second (.object fields) place := by
  simp only [rebuild]
  split
  case h_1 target ht => rw [h target ht]
  case h_2 => rfl
  case h_3 => rfl

theorem mapPost_congr
    (h : ∀ target, Requests options used first j place target → first target = second target) :
    j.mapPost (rebuild options used first) place = j.mapPost (rebuild options used second) place := by
  induction j using Json.induct generalizing place
  case null     => rfl
  case bool b   => rfl
  case number n => rfl
  case string t => rfl
  case array items ih =>
    have hm : Json.mapPostItems (rebuild options used first) place 0 items =
        Json.mapPostItems (rebuild options used second) place 0 items := by
      refine Json.mapPostItems_congr 0 fun i j hj => ?_
      rw [Nat.zero_add]
      exact ih j (List.mem_of_getElem? hj) fun target ht => h target (.item hj ht)
    simp only [Json.mapPost, hm]
    rfl
  case object fields ih =>
    have hm : Json.mapPostFields (rebuild options used first) place fields =
        Json.mapPostFields (rebuild options used second) place fields :=
      Json.mapPostFields_congr fun k j hj => ih k j hj fun target ht => h target (.field hj ht)
    simp only [Json.mapPost, ← hm]
    exact Diagnosed.bind_congr fun mapped hr => rebuild_congr fun target ht => h target (.self hr ht)

end Congruence

theorem expandAlong_of_find? {node : Json} {depth : Nat} (h : s.find? target = some node) :
    expandAlong s options (depth + 1) used target =
      node.mapPost (rebuild options (used ++ s.pointersOf target)
        (expandAlong s options depth (used ++ s.pointersOf target))) target >>= (pure <| some ·) := by
  simp only [expandAlong, h]

theorem expandAlong_succ {depth : Nat} (h : (Call.mk depth used target).Ample s options) :
    expandAlong s options (depth + 1) used target = expandAlong s options depth used target := by
  induction depth generalizing used target with
  | zero =>
    obtain ⟨_, hd⟩ := h.exists_depth
    cases hd
  | succ depth ih =>
    cases hf : s.find? target with
    | none => simp only [expandAlong, hf]
    | some node =>
      have hm {next : Pointer} (hn : Requests options (used ++ s.pointersOf target)
          (expandAlong s options depth (used ++ s.pointersOf target)) node target next) :
          (Call.mk (depth + 1) used target).Makes s options ⟨depth, used ++ s.pointersOf target, next⟩ :=
        ⟨node, hf, rfl, rfl, hn⟩
      rw [expandAlong_of_find? hf, expandAlong_of_find? hf,
        ← mapPost_congr fun next hn => (ih (h.of_makes (hm hn))).symm]

theorem expandAlong_eq_expand {depth : Nat} (h : depthBound s ≤ depth) (p : Pointer) :
    expandAlong s options depth [] p = expand s options p := by
  induction h with
  | refl       => rfl
  | step hm ih => rw [expandAlong_succ (Call.ample_of_depthBound_le hm), ih]

-- Expansions within each other have different targets, and none leads back to an earlier one. So there are
-- no more of them than there are pointers for references to name, and fuel for as many is never used up.
theorem expansion_terminates (s : Source) (options : Options) (p : Pointer) :
    (∀ depth calls, Nested s options ⟨depth, [], p⟩ calls →
      (p :: calls.map (·.target)).Nodup ∧
      ((⟨depth, [], p⟩ :: calls).Pairwise fun c d =>
        ∀ q ∈ s.pointersOf c.target, q.isWithin d.target = false) ∧
      (∀ named : List Pointer, (∀ q, s.Names options q → q ∈ named) →
        calls.length + 1 ≤ named.length + 1) ∧
      (depthBound s ≤ depth → ∀ d ∈ calls, 0 < d.depth)) ∧
    (∀ q, s.Names options q → q ∈ s.pointers) ∧
    ∀ depth, depthBound s ≤ depth → expandAlong s options depth [] p = expand s options p := by
  refine ⟨fun depth calls hn => ⟨hn.nodup, hn.pairwise, fun named hs => ?_, fun hd d hm => ?_⟩, ?_, ?_⟩
  case refine_1 => exact Nat.succ_le_succ (hn.length_le hs)
  case refine_2 =>
    have hl := Call.ample_of_depthBound_le hd calls hn
    have := hn.depth_le hm
    omega
  case refine_3 => exact fun q hq => hq.mem_pointers
  case refine_4 => exact fun depth hd => expandAlong_eq_expand hd p

def ladder : Source where
  schema := .object [
    ("first", .object [("$ref", .string "#/second")]),
    ("second", .object [("$ref", .string "#/third")]),
    ("third", .object [("type", .string "string")])]
  library := PointerTable.empty
  recursive := PointerTable.empty

def ladderCalls : List Call :=
  [⟨5, [.root], ⟨["second"]⟩⟩, ⟨4, [.root, ⟨["second"]⟩], ⟨["third"]⟩⟩]

theorem nested_ladder : Nested ladder {} ⟨6, [], .root⟩ ladderCalls := by
  refine .cons ⟨_, rfl, rfl, rfl, .field List.mem_cons_self (.self rfl ?first)⟩
    (.cons ⟨_, rfl, rfl, ?used, .self rfl ?second⟩ (.nil _))
  case used   => decide +kernel
  case first  => exact referenceOf_eq_target_iff.mpr ⟨_, rfl, by decide +kernel, by decide +kernel⟩
  case second => exact referenceOf_eq_target_iff.mpr ⟨_, rfl, by decide +kernel, by decide +kernel⟩

theorem terminates_ladder :
    Nested ladder {} ⟨6, [], .root⟩ ladderCalls ∧
      (Pointer.root :: ladderCalls.map (·.target)).Nodup ∧
      ladderCalls.length + 1 ≤ ladder.pointers.length + 1 ∧
      (∀ d ∈ ladderCalls, 0 < d.depth) ∧
      expandAlong ladder {} 6 [] .root = expand ladder {} .root := by
  obtain ⟨hc, hp, he⟩ := expansion_terminates ladder {} .root
  obtain ⟨hd, _, hl, hf⟩ := hc 6 ladderCalls nested_ladder
  exact ⟨nested_ladder, hd, hl _ hp, hf (by decide +kernel), he 6 (by decide +kernel)⟩

-- The text of the only reference is in an `allOf`, so no node makes a reference before it is folded.
def wrapped : Source where
  schema := .object [
    ("a", .object [("type", .string "string")]),
    ("b", .object [("$ref", .object [("allOf", .array [.string "#/a"])])])]
  library := PointerTable.empty
  recursive := PointerTable.empty

theorem deeper_than_references :
    (∀ node ∈ wrapped.schema.nodes .root, node.2.reference? = none) ∧
      wrapped.library.entries = [] ∧
      ∃ calls, Nested wrapped {} ⟨depthBound wrapped, [], .root⟩ calls ∧ calls.length = 1 := by
  refine ⟨by decide, rfl, [⟨depthBound wrapped - 1, [.root], ⟨["a"]⟩⟩], ?_, rfl⟩
  have hm : (Json.mapPostFields
      (rebuild {} [.root] (expandAlong wrapped {} (depthBound wrapped - 1) [.root])) ⟨["b"]⟩
      [("$ref", .object [("allOf", .array [.string "#/a"])])]).result = .ok [("$ref", .string "#/a")] := rfl
  have hr : referenceOf [.root] ⟨["b"]⟩ [("$ref", .string "#/a")] = .target ⟨["a"]⟩ :=
    referenceOf_eq_target_iff.mpr ⟨_, rfl, by decide +kernel, by decide +kernel⟩
  exact .cons ⟨_, rfl, by decide +kernel, rfl, .field (List.mem_cons_of_mem _ List.mem_cons_self)
    (.self hm hr)⟩ (.nil _)

end JsonSchema.Expansion
