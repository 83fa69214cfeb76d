import JsonSchema.Pointer.Table

namespace JsonSchema

namespace Pointer

theorem depth_toGenericFrom (arrays : ArrayMap) (place : Pointer) (tokens : List String) :
    (toGenericFrom arrays place tokens).depth = place.depth + tokens.length := by
  induction tokens generalizing place with
  | nil => rfl
  | cons token rest ih =>
    rw [toGenericFrom, ih]
    simp [depth, child]
    omega

theorem depth_toGeneric (p : Pointer) (arrays : ArrayMap) :
    (p.toGeneric arrays).depth = p.depth := by
  rw [toGeneric, depth_toGenericFrom]
  simp [root, depth]

theorem depth_lt_of_isInside {source target : Pointer} (h : source.isInside target = true) :
    target.depth < source.depth := by
  simp [isInside] at h
  exact h.2

theorem depth_rebase {p source target q : Pointer} (h : p.rebase? source target = some q) :
    q.depth + source.depth = p.depth + target.depth := by
  simp only [rebase?, after?] at h
  split at h
  case isTrue hp =>
    have hl := (List.isPrefixOf_iff_prefix.mp hp).length_le
    simp only [Option.map_some, Option.some.injEq] at h
    subst h
    simp only [depth, append, List.length_append, List.length_drop] at *
    omega
  case isFalse => simp at h

end Pointer

namespace ReferenceMap

-- Replaces the beginning `source` by `target` as long as the pointer starts with it.
def collapse (arrays : ArrayMap) (source target p : Pointer) : Pointer :=
  if _hi : source.isInside target then
    match _hp : p.rebase? source target with
    | some q => collapse arrays source target (q.toGeneric arrays)
    | none => p
  else
    p
termination_by p.depth
decreasing_by
  have h₁ := Pointer.depth_lt_of_isInside _hi
  have h₂ := Pointer.depth_rebase _hp
  rw [Pointer.depth_toGeneric]
  omega

def pass (references : ReferenceMap) (arrays : ArrayMap) (p : Pointer) : Pointer :=
  references.entries.foldl (fun q (source, target) => collapse arrays source target q) p

-- Repeats passes until one takes no step away.
def settle (references : ReferenceMap) (arrays : ArrayMap) (p : Pointer) : Pointer :=
  if (pass references arrays p).depth < p.depth then
    settle references arrays (pass references arrays p)
  else
    p
termination_by p.depth

-- The shortest pointer that the references make equivalent to `p`, in generic form.
def shorten (references : ReferenceMap) (arrays : ArrayMap) (p : Pointer) : Pointer :=
  settle references arrays (p.toGeneric arrays)

end ReferenceMap

end JsonSchema
