import Mathlib.Data.List.Basic
import Mathlib.Logic.Function.Basic

/-!
# Memory without bounds

What a program finds at an offset from a pointer, whether or not the offset is inside the
block it points to.  A store or a `memmove` here never fails; that an access stays inside the
block is something to prove about the program, not a condition on its memory.

## Main definitions

* `Memory α` — what is at each offset.
* `Memory.read`, `Memory.store`, `Memory.memmove` — the accesses.
* `Memory.ofVector` — a block, and what is behind it.
-/

namespace Lib

universe u

/-- What is at each offset. -/
abbrev Memory (α : Type u) := ℕ → α

namespace Memory

variable {α : Type u} {n : ℕ}

/-- The `len` elements from offset `i` on. -/
def read (m : Memory α) (i len : ℕ) : List α := (List.range len).map fun k => m (i + k)

/-- One element is written. -/
def store (m : Memory α) (i : ℕ) (a : α) : Memory α := Function.update m i a

/-- `memmove(dst, src, len)`: the ranges may overlap. -/
def memmove (m : Memory α) (dst src len : ℕ) : Memory α := fun i =>
  if dst ≤ i ∧ i < dst + len then m (src + (i - dst)) else m i

/-- A block of `n` elements with `beyond` behind it. -/
def ofVector (v : Vector α n) (beyond : Memory α) : Memory α := fun i =>
  if h : i < n then v[i] else beyond i

@[simp] theorem length_read (m : Memory α) (i len : ℕ) : (m.read i len).length = len := by
  simp [read]

@[simp] theorem getElem?_read (m : Memory α) (i len k : ℕ) :
    (m.read i len)[k]? = if k < len then some (m (i + k)) else none := by
  by_cases h : k < len <;> simp [read, h]

/-- Reading after a store at the end of what is read. -/
theorem read_store (m : Memory α) (i len : ℕ) (a : α) :
    (m.store (i + len) a).read i (len + 1) = m.read i len ++ [a] := by
  apply List.ext_getElem?
  intro k
  rw [getElem?_read, List.getElem?_append, length_read, getElem?_read]
  rcases Nat.lt_trichotomy k len with h | rfl | h
  · simp [store, h, Nat.lt_succ_of_lt h, Nat.ne_of_lt h]
  · simp [store]
  · rw [if_neg (by omega), if_neg (by omega), List.getElem?_eq_none]
    simp
    omega

/-- What is before a store stays. -/
theorem read_store_of_le (m : Memory α) {i len j : ℕ} (a : α) (h : i + len ≤ j) :
    (m.store j a).read i len = m.read i len := by
  apply List.ext_getElem?
  intro k
  rw [getElem?_read, getElem?_read]
  by_cases hk : k < len
  · rw [if_pos hk, if_pos hk, store, Function.update_of_ne (by omega)]
  · rw [if_neg hk, if_neg hk]

/-- What was moved is found where it was moved to. -/
theorem read_memmove (m : Memory α) (dst src len : ℕ) :
    (m.memmove dst src len).read dst len = m.read src len := by
  apply List.ext_getElem?
  intro k
  rw [getElem?_read, getElem?_read]
  by_cases hk : k < len
  · simp [memmove, hk]
  · rw [if_neg hk, if_neg hk]

/-- Reading from the second element on. -/
theorem read_succ (m : Memory α) (i len : ℕ) : m.read (i + 1) len = (m.read i (len + 1)).tail := by
  apply List.ext_getElem?
  intro k
  rw [List.getElem?_tail, getElem?_read, getElem?_read]
  simp [Nat.add_assoc, Nat.add_comm 1]

/-! ## Blocks -/

theorem ofVector_of_lt (v : Vector α n) (beyond : Memory α) {i : ℕ} (h : i < n) :
    ofVector v beyond i = v[i] := dif_pos h

theorem ofVector_of_le (v : Vector α n) (beyond : Memory α) {i : ℕ} (h : n ≤ i) :
    ofVector v beyond i = beyond i := dif_neg (Nat.not_lt.mpr h)

/-- A store inside the block changes the block and nothing behind it. -/
theorem store_ofVector (v : Vector α n) (beyond : Memory α) {i : ℕ} (h : i < n) (a : α) :
    (ofVector v beyond).store i a = ofVector (v.set i a h) beyond := by
  funext j
  by_cases hj : j < n
  · by_cases hij : j = i
    · subst hij
      simp [store, ofVector, hj]
    · simp [store, ofVector, hj, hij, Ne.symm hij]
  · have hij : j ≠ i := by omega
    simp [store, ofVector, hj, hij]

/-- A read inside the block. -/
theorem read_ofVector (v : Vector α n) (beyond : Memory α) {len : ℕ} (h : len ≤ n) :
    (ofVector v beyond).read 0 len = v.toList.take len := by
  apply List.ext_getElem?
  intro k
  rw [getElem?_read, List.getElem?_take]
  by_cases hk : k < len
  · simp [hk, ofVector, show k < n by omega]
  · simp [hk]

end Memory
end Lib
