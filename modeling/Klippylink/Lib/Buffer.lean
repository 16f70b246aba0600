import Mathlib.Data.List.Basic

/-!
# Buffers that are written in place

A buffer of `n` bytes is kept whole while pieces of it are written over.  What a write
leaves alone, and what the buffer begins with after it, is all that a reader of the
buffer's front needs.

## Main definitions

* `memcpyAt` — a copy into the buffer at an offset.
-/

namespace Lib

universe u
variable {α : Type u} {n : ℕ}

/-- `memcpy(buf + offset, data, length)`. -/
def memcpyAt (buf : Vector α n) (offset : ℕ) (data : List α) (h : offset + data.length ≤ n) :
    Vector α n :=
  ⟨(buf.toList.take offset ++ data ++ buf.toList.drop (offset + data.length)).toArray, by
    simp only [List.size_toArray, List.length_append, List.length_take, List.length_drop,
      Vector.length_toList]
    omega⟩

/-- The buffer up to the end of what was written. -/
theorem take_memcpyAt (buf : Vector α n) (offset : ℕ) (data : List α)
    (h : offset + data.length ≤ n) :
    (memcpyAt buf offset data h).toList.take (offset + data.length) =
      buf.toList.take offset ++ data := by
  have hlen : (buf.toList.take offset ++ data).length = offset + data.length := by
    rw [List.length_append, List.length_take, Vector.length_toList]
    omega
  rw [← hlen]
  exact List.take_left

/-- What is before the write stays. -/
theorem take_memcpyAt_of_le (buf : Vector α n) {k offset : ℕ} (data : List α)
    (h : offset + data.length ≤ n) (hk : k ≤ offset) :
    (memcpyAt buf offset data h).toList.take k = buf.toList.take k := by
  have hfront := congrArg (List.take k) (take_memcpyAt buf offset data h)
  have hlen : k ≤ (buf.toList.take offset).length := by
    rw [List.length_take, Vector.length_toList]
    omega
  rwa [List.take_take, Nat.min_eq_left (by omega), List.take_append_of_le_length hlen,
    List.take_take, Nat.min_eq_left hk] at hfront

end Lib
