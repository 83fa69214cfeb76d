import JsonSchema.Json.Traversal
import JsonSchema.Pointer.Text

namespace JsonSchema

structure Edge where
  source : Pointer
  target : Pointer
  deriving DecidableEq, Inhabited

namespace Edge

-- The target is the source, or contains it.
def isRecursive (e : Edge) : Bool := e.source.isWithin e.target

-- The second reference as it is seen through the first.
def compose? (e next : Edge) : Option Edge :=
  (next.source.rebase? e.target e.source).map fun source => ⟨source, next.target⟩

def compare (e next : Edge) : Ordering :=
  (e.source.compare next.source).then (e.target.compare next.target)

def insertSorted (e : Edge) : List Edge → List Edge
  | [] => [e]
  | next :: rest =>
    match e.compare next with
    | .lt => e :: next :: rest
    | .eq => next :: rest
    | .gt => next :: insertSorted e rest

def sort (edges : List Edge) : List Edge := edges.foldl (fun sorted e => insertSorted e sorted) []

end Edge

structure ReferenceGraph where
  edges     : List Edge
  -- References that are no pointers, with their places.
  malformed : List (Pointer × String)
  deriving Inhabited

def Json.reference? (j : Json) : Option String :=
  (j.field? "$ref").bind asString?

namespace ReferenceGraph

def empty : ReferenceGraph := ⟨[], []⟩

def ofNodes : List (Pointer × Json) → ReferenceGraph
  | [] => empty
  | (p, j) :: rest =>
    let graph := ofNodes rest
    match j.reference? with
    | none => graph
    | some reference =>
      match Pointer.parse? reference with
      | some target => { graph with edges := ⟨p, target⟩ :: graph.edges }
      | none => { graph with malformed := (p, reference) :: graph.malformed }

def ofSchema (schema : Json) : ReferenceGraph := ofNodes (schema.nodes Pointer.root)

end ReferenceGraph

-- An edge with the references that its path does not take.
abbrev Path := Edge × List Edge

namespace Path

-- One more than the number of paths that extend a path by some of `r` references.
def weight : Nat → Nat
  | 0 => 1
  | r + 1 => (r + 1) * weight r + 1

def totalWeight : List Path → Nat
  | [] => 0
  | path :: paths => weight path.2.length + totalWeight paths

theorem totalWeight_append (ps qs : List Path) :
    totalWeight (ps ++ qs) = totalWeight ps + totalWeight qs := by
  induction ps with
  | nil => simp [totalWeight]
  | cons p ps ih => simp [totalWeight, ih, Nat.add_assoc]

-- The paths that extend the one to `e` by one of the references `candidates`, the last one first,
-- unless their edge is found already; and the edges that are found then.
def extensions (e : Edge) (unused : List Edge) :
    (found : List Edge) → (candidates : List Edge) → List Edge × List Path
  | found, [] => (found, [])
  | found, next :: rest =>
    match e.compose? next with
    | none => extensions e unused found rest
    | some composite =>
      if composite ∈ found then extensions e unused found rest
      else
        let (found, paths) := extensions e unused (composite.insertSorted found) rest
        (found, paths ++ [(composite, unused.erase next)])

theorem totalWeight_extensions_le (e : Edge) (unused found candidates : List Edge)
    (h : ∀ next ∈ candidates, next ∈ unused) :
    totalWeight (extensions e unused found candidates).2 ≤
      candidates.length * weight (unused.length - 1) := by
  induction candidates generalizing found with
  | nil => simp [extensions, totalWeight]
  | cons next rest ih =>
    have hr : ∀ next ∈ rest, next ∈ unused := fun n hn => h n (List.mem_cons_of_mem _ hn)
    have hl : (rest.length + 1) * weight (unused.length - 1) =
        rest.length * weight (unused.length - 1) + weight (unused.length - 1) := Nat.succ_mul ..
    simp only [extensions, List.length_cons]
    split
    case h_1 => have := ih found hr; omega
    case h_2 composite _ =>
      split
      case isTrue => have := ih found hr; omega
      case isFalse =>
        have := ih (composite.insertSorted found) hr
        have he : (unused.erase next).length = unused.length - 1 :=
          List.length_erase_of_mem (h next List.mem_cons_self)
        simp only [totalWeight_append, totalWeight, he]
        omega

theorem totalWeight_extensions_lt (e : Edge) (unused found : List Edge) :
    totalWeight (extensions e unused found unused).2 < weight unused.length := by
  have h := totalWeight_extensions_le e unused found unused fun _ hn => hn
  cases hu : unused.length with
  | zero => simp [hu] at h; simp [weight, h]
  | succ r => simp [hu] at h; simp only [weight]; omega

-- Follows the pending paths, the first one first, and collects the edges that they find.
def follow (found : List Edge) : (pending : List Path) → List Edge
  | [] => found
  | (e, unused) :: pending =>
    if e.isRecursive then follow found pending
    else
      follow (extensions e unused found unused).1 ((extensions e unused found unused).2 ++ pending)
termination_by pending => totalWeight pending
decreasing_by
  · simp only [totalWeight]
    have : 0 < weight unused.length := by cases unused.length <;> simp [weight]
    omega
  · have := totalWeight_extensions_lt e unused found
    simp only [totalWeight_append, totalWeight]
    omega

end Path

namespace ReferenceGraph

def paths (graph : ReferenceGraph) : List Path :=
  graph.edges.reverse.map fun e => (e, graph.edges.erase e)

-- The references and the edges that compose from them, in the order of edges.
def closure (graph : ReferenceGraph) : List Edge := Path.follow (Edge.sort graph.edges) graph.paths

end ReferenceGraph

end JsonSchema
