import Mathlib.Data.List.Basic

/-!
# Resources that are opened and given back

A table of the resources that are open, each with what is known of it.  A resource that is
used or given back while it is not open is a misuse, and the table remembers it.  A client
that opens one resource at a time is followed through two tables: the empty one and that of
one resource.

## Main definitions

* `Leases κ α` — the open resources, and whether one was misused.
* `Leases.acquire`, `Leases.use`, `Leases.release` — what a client can do.
* `Leases.sole` — one resource is open.
-/

namespace Lib

universe u v

/-- The open resources with what is known of each, and whether one was misused. -/
structure Leases (κ : Type u) (α : Type v) where
  held : List (κ × α)
  misused : Bool

namespace Leases

variable {κ : Type u} {α : Type v}

/-- Nothing is open. -/
def empty : Leases κ α := ⟨[], false⟩

/-- One resource is open. -/
def sole (k : κ) (a : α) : Leases κ α := ⟨[(k, a)], false⟩

/-- A resource is opened. -/
def acquire (l : Leases κ α) (k : κ) (a : α) : Leases κ α := { l with held := (k, a) :: l.held }

@[simp] theorem acquire_empty (k : κ) (a : α) : (empty : Leases κ α).acquire k a = sole k a := rfl

variable [DecidableEq κ]

/-- What is known of an open resource. -/
def get (l : Leases κ α) (k : κ) : Option α := l.held.lookup k

/-- A resource is used. -/
def use (l : Leases κ α) (k : κ) (f : α → α) : Leases κ α :=
  match l.get k with
  | none => { l with misused := true }
  | some _ => { l with held := l.held.map fun x => if x.1 = k then (x.1, f x.2) else x }

/-- A resource is given back. -/
def release (l : Leases κ α) (k : κ) : Leases κ α :=
  match l.get k with
  | none => { l with misused := true }
  | some _ => { l with held := l.held.filter fun x => x.1 ≠ k }

@[simp] theorem get_sole (k : κ) (a : α) : (sole k a).get k = some a := by
  simp [get, sole]

@[simp] theorem use_sole (k : κ) (a : α) (f : α → α) : (sole k a).use k f = sole k (f a) := by
  rw [use, get_sole]
  simp [sole]

@[simp] theorem release_sole (k : κ) (a : α) : (sole k a).release k = empty := by
  rw [release, get_sole]
  simp [sole, empty]

end Leases
end Lib
