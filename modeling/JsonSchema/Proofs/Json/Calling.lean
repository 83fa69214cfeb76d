import JsonSchema.Json.Traversal

namespace JsonSchema.Json

variable {α β σ ε ε' : Type}

-- The state outlives a failure.
abbrev Visitor (σ ε : Type) :=
  Json → Pointer → ExceptT ε (StateM σ) Json

structure Call (σ : Type) where
  node  : Json
  place : Pointer
  state : σ

structure Record (σ ε α : Type) where
  result : Except ε α
  state  : σ
  visits : List (Call σ)

namespace Visitor

def answer (f : Visitor σ ε) (c : Call σ) : Except ε Json × σ :=
  (f c.node c.place).run.run c.state

-- Also a call that fails is written down.
def recorded (f : Visitor σ ε) : Visitor (σ × List (Call σ)) ε :=
  fun node place => ExceptT.mk fun (s, visits) =>
    let (answer, t) := f.answer ⟨node, place, s⟩
    (answer, t, visits ++ [⟨node, place, s⟩])

theorem answer_recorded (f : Visitor σ ε) (node : Json) (place : Pointer) (s : σ) (visits : List (Call σ)) :
    f.recorded.answer ⟨node, place, s, visits⟩ =
      let (answer, t) := f.answer ⟨node, place, s⟩
      (answer, t, visits ++ [⟨node, place, s⟩]) :=
  rfl

-- Wherever `f` does not fail, `g` makes the same of a node.
def Extends (g : Visitor σ ε') (f : Visitor σ ε) : Prop :=
  ∀ c v t, f.answer c = (.ok v, t) → g.answer c = (.ok v, t)

end Visitor

-- A walk that rebuilds a document does nothing but call its visitor, and what it visits next depends on what
-- the visitor made of the nodes so far. So it is a tree of calls, the same tree for all visitors.
inductive Calling (α : Type)
  | done (a : α)
  | call (node : Json) (place : Pointer) (next : Json → Calling α)

namespace Calling

def bind : Calling α → (α → Calling β) → Calling β
  | done a,               k => k a
  | call node place next, k => call node place fun v => (next v).bind k

instance : Monad Calling where
  pure := done
  bind := bind

theorem bind_done (x : Calling α) : x.bind done = x := by
  induction x with
  | done                 => rfl
  | call node place _ ih => exact congrArg (call node place) (funext ih)

theorem bind_bind {γ : Type} (x : Calling α) (k : α → Calling β) (l : β → Calling γ) :
    (x.bind k).bind l = x.bind fun a => (k a).bind l := by
  induction x with
  | done                 => rfl
  | call node place _ ih => exact congrArg (call node place) (funext ih)

instance : LawfulMonad Calling :=
  LawfulMonad.mk' Calling bind_done (fun _ _ => rfl) bind_bind

def ask (node : Json) (place : Pointer) : Calling Json :=
  call node place done

section Run

variable {m : Type → Type} [Monad m] (f : Json → Pointer → m Json)

def run : Calling α → m α
  | done a               => pure a
  | call node place next => f node place >>= fun v => (next v).run

@[simp]
theorem run_pure (a : α) : (pure a : Calling α).run f = pure a :=
  rfl

variable [LawfulMonad m]

@[simp]
theorem run_ask (node : Json) (place : Pointer) : (ask node place).run f = f node place :=
  bind_pure _

@[simp]
theorem run_bind (x : Calling α) (k : α → Calling β) :
    (x >>= k).run f = x.run f >>= fun a => (k a).run f := by
  induction x with
  | done a => exact (pure_bind a fun a => (k a).run f).symm
  | call node place next ih =>
    rw [run, bind_assoc]
    exact bind_congr ih

@[simp]
theorem run_map (g : α → β) (x : Calling α) : (g <$> x).run f = g <$> x.run f := by
  rw [← bind_pure_comp, ← bind_pure_comp, run_bind]
  rfl

end Run

variable {f : Visitor σ ε} {g : Visitor σ ε'}

def record (f : Visitor σ ε) : Calling α → σ → Record σ ε α
  | done a, s => ⟨.ok a, s, []⟩
  | call node place next, s =>
    match f.answer ⟨node, place, s⟩ with
    | (.ok v, t)    =>
      let rest := (next v).record f t
      { rest with visits := ⟨node, place, s⟩ :: rest.visits }
    | (.error e, t) => ⟨.error e, t, [⟨node, place, s⟩]⟩

theorem record_of_ok {node : Json} {place : Pointer} {next : Json → Calling α} {v : Json} {s t : σ}
    (h : f.answer ⟨node, place, s⟩ = (.ok v, t)) :
    (call node place next).record f s =
      { (next v).record f t with visits := ⟨node, place, s⟩ :: ((next v).record f t).visits } := by
  simp only [record, h]

theorem record_of_error {node : Json} {place : Pointer} {next : Json → Calling α} {e : ε} {s t : σ}
    (h : f.answer ⟨node, place, s⟩ = (.error e, t)) :
    (call node place next).record f s = ⟨.error e, t, [⟨node, place, s⟩]⟩ := by
  simp only [record, h]

theorem run_call (node : Json) (place : Pointer) (next : Json → Calling α) (s : σ) :
    ((call node place next).run f).run.run s =
      match f.answer ⟨node, place, s⟩ with
      | (.ok v, t)    => ((next v).run f).run.run t
      | (.error e, t) => (.error e, t) := by
  simp only [run, Visitor.answer, ExceptT.run_bind, StateT.run_bind]
  obtain ⟨_ | _, _⟩ := (f node place).run.run s
  case error => rfl
  case ok    => rfl

theorem run_recorded (f : Visitor σ ε) (x : Calling α) (s : σ) (visits : List (Call σ)) :
    (x.run f.recorded).run.run (s, visits) =
      ((x.record f s).result, (x.record f s).state, visits ++ (x.record f s).visits) := by
  induction x generalizing s visits with
  | done a =>
    rw [record, List.append_nil]
    rfl
  | call node place next ih =>
    rw [run_call, Visitor.answer_recorded]
    match h : f.answer ⟨node, place, s⟩ with
    | (.ok v, t)    => simp only [ih, record_of_ok h, List.append_assoc, List.singleton_append]
    | (.error e, t) => simp only [record_of_error h]

theorem run_eq (f : Visitor σ ε) (x : Calling α) (s : σ) :
    (x.run f).run.run s = ((x.record f s).result, (x.record f s).state) := by
  induction x generalizing s with
  | done a => rfl
  | call node place next ih =>
    rw [run_call]
    match h : f.answer ⟨node, place, s⟩ with
    | (.ok v, t)    => simp only [ih, record_of_ok h]
    | (.error e, t) => simp only [record_of_error h]

theorem exists_last_of_error {x : Calling α} {s : σ} {e : ε} (h : (x.record f s).result = .error e) :
    ∃ front last, (x.record f s).visits = front ++ [last] ∧
      f.answer last = (.error e, (x.record f s).state) ∧ ∀ c ∈ front, ∃ v t, f.answer c = (.ok v, t) := by
  induction x generalizing s with
  | done a => cases h
  | call node place next ih =>
    match ha : f.answer ⟨node, place, s⟩ with
    | (.ok v, t) =>
      rw [record_of_ok ha] at h ⊢
      obtain ⟨front, last, hv, hl, hf⟩ := ih v h
      refine ⟨⟨node, place, s⟩ :: front, last, congrArg _ hv, hl, ?_⟩
      exact List.forall_mem_cons.mpr ⟨⟨v, t, ha⟩, hf⟩
    | (.error e', t) =>
      rw [record_of_error ha] at h ⊢
      cases h
      exact ⟨[], _, rfl, ha, by simp⟩

-- A visitor can make anything of a node.
inductive Reaches : Calling α → List Pointer → α → Prop
  | done (a : α) : Reaches (done a) [] a
  | call {node place next v places} {a : α} (h : Reaches (next v) places a) :
    Reaches (call node place next) (place :: places) a

theorem reaches_record {x : Calling α} {s : σ} {a : α} (h : (x.record f s).result = .ok a) :
    x.Reaches ((x.record f s).visits.map (·.place)) a := by
  induction x generalizing s with
  | done _ => cases h; exact .done _
  | call node place next ih =>
    match ha : f.answer ⟨node, place, s⟩ with
    | (.ok v, t)    => rw [record_of_ok ha] at h ⊢; exact .call (ih v h)
    | (.error e, t) => rw [record_of_error ha] at h; cases h

theorem exists_reaches (x : Calling α) : ∃ places a, x.Reaches places a := by
  induction x with
  | done a => exact ⟨[], a, .done a⟩
  | call node place next ih =>
    obtain ⟨places, a, h⟩ := ih node
    exact ⟨place :: places, a, .call h⟩

theorem exists_reaches_record (f : Visitor σ ε) (x : Calling α) (s : σ) :
    ∃ rest a, x.Reaches ((x.record f s).visits.map (·.place) ++ rest) a := by
  induction x generalizing s with
  | done a => exact ⟨[], a, .done a⟩
  | call node place next ih =>
    match ha : f.answer ⟨node, place, s⟩ with
    | (.ok v, t) =>
      obtain ⟨rest, a, h⟩ := ih v t
      exact ⟨rest, a, record_of_ok ha ▸ .call h⟩
    | (.error e, t) =>
      obtain ⟨rest, a, h⟩ := exists_reaches (next node)
      exact ⟨rest, a, record_of_error ha ▸ .call h⟩

theorem Reaches.of_pure {a b : α} {places : List Pointer} (h : (pure a : Calling α).Reaches places b) :
    places = [] ∧ a = b := by
  cases h
  exact ⟨rfl, rfl⟩

theorem Reaches.of_bind {x : Calling α} {k : α → Calling β} {places : List Pointer} {b : β}
    (h : (x >>= k).Reaches places b) :
    ∃ front back a, places = front ++ back ∧ x.Reaches front a ∧ (k a).Reaches back b := by
  induction x generalizing places with
  | done a => exact ⟨[], places, a, rfl, .done a, h⟩
  | call node place next ih =>
    cases h with
    | call h =>
      obtain ⟨front, back, a, rfl, hx, hk⟩ := ih _ h
      exact ⟨place :: front, back, a, rfl, .call hx, hk⟩

theorem Reaches.of_map {g : α → β} {x : Calling α} {places : List Pointer} {b : β}
    (h : (g <$> x).Reaches places b) : ∃ a, x.Reaches places a ∧ g a = b := by
  obtain ⟨places, _, a, rfl, hx, ha⟩ := h.of_bind
  obtain ⟨rfl, rfl⟩ := ha.of_pure
  exact ⟨a, (List.append_nil places).symm ▸ hx, rfl⟩

-- The calls of the first tree, as far as the limit goes.
inductive Continues : Calling (Option α) → Calling (Option α) → Prop
  | limit (y : Calling (Option α)) : Continues (done none) y
  | done (a : α) : Continues (done (some a)) (done (some a))
  | call {node place next after} (h : ∀ v, Continues (next v) (after v)) :
    Continues (call node place next) (call node place after)

theorem Continues.refl (x : Calling (Option α)) : x.Continues x := by
  induction x with
  | done a =>
    cases a with
    | none   => exact .limit _
    | some a => exact .done a
  | call _ _ _ ih => exact .call ih

theorem Continues.bind {x y : Calling (Option α)} {k l : Option α → Calling (Option β)} (h : x.Continues y)
    (hn : k none = pure none) (hs : ∀ a, (k (some a)).Continues (l (some a))) :
    (x >>= k).Continues (y >>= l) := by
  induction h with
  | limit y =>
    rw [show (Calling.done none >>= k) = .done none from hn]
    exact .limit _
  | done a    => exact hs a
  | call _ ih => exact .call ih

theorem Continues.map {x y : Calling (Option α)} (g : α → β) (h : x.Continues y) :
    (Option.map g <$> x).Continues (Option.map g <$> y) :=
  h.bind rfl fun a => .done (g a)

theorem Continues.record_eq {x y : Calling (Option α)} {s : σ} (h : x.Continues y)
    (hn : (x.record f s).result ≠ .ok none) : y.record f s = x.record f s := by
  induction h generalizing s with
  | limit y => exact absurd rfl hn
  | done a  => rfl
  | @call node place next after h ih =>
    match ha : f.answer ⟨node, place, s⟩ with
    | (.ok v, t)    => rw [record_of_ok ha] at hn ⊢; rw [record_of_ok ha, ih v hn]
    | (.error e, t) => rw [record_of_error ha, record_of_error ha]

theorem Continues.visits_prefix_of_extends {x y : Calling (Option α)} {s : σ} (h : x.Continues y)
    (hg : g.Extends f) :
    (x.record f s).visits <+: (y.record g s).visits := by
  induction h generalizing s with
  | limit y => exact List.nil_prefix
  | done a  => exact List.prefix_refl _
  | @call node place next after h ih =>
    match ha : f.answer ⟨node, place, s⟩ with
    | (.ok v, t) =>
      rw [record_of_ok ha, record_of_ok (hg _ v t ha), List.cons_prefix_cons]
      exact ⟨rfl, ih v⟩
    | (.error e, t) =>
      rw [record_of_error ha, record]
      split <;> simp

end Calling

end JsonSchema.Json
