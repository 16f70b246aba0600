import Klippylink.Lib.Bytes
import Mathlib.Data.List.TakeWhile

/-!
# C strings in fixed character arrays

A `CStr n` is what a `char[n]` holds when it is used as a string: fewer than `n`
bytes, none of them NUL.  `CStr.copy` is `strlcpy`.

## Main definitions

* `CStr n` — the contents of a string in a `char[n]`.
* `CStr.copy` — the string that a copy into a `char[n]` leaves.
* `CStr.field` — all `n` bytes of a zeroed `char[n]` that the string was copied into.
-/

namespace Lib

/-- The string held by a `char[n]`: fewer than `n` bytes, none of them NUL. -/
structure CStr (n : ℕ) where
  /-- The bytes before the terminator. -/
  bytes : List UInt8
  /-- Room is left for the terminator. -/
  fits : bytes.length < n
  /-- The terminator comes after them. -/
  noNul : 0 ∉ bytes
  deriving DecidableEq

namespace CStr

variable {n : ℕ}

/-- The C string at the start of some bytes: what comes before the first NUL. -/
def cstring (src : List UInt8) : List UInt8 := src.takeWhile (· ≠ 0)

theorem zero_notMem_cstring (src : List UInt8) : 0 ∉ cstring src := by
  intro h
  have := List.mem_takeWhile_imp h
  simp at this

theorem zero_notMem_nil : (0 : UInt8) ∉ [] := List.not_mem_nil

/-- An array of zeros. -/
def empty (hn : 0 < n) : CStr n := ⟨[], hn, zero_notMem_nil⟩

/-- `strlcpy` into a `char[n]`: the source string, cut to leave room for the
terminator. -/
def copy (hn : 0 < n) (src : List UInt8) : CStr n where
  bytes := (cstring src).take (n - 1)
  fits := by
    rw [List.length_take]
    omega
  noNul h := zero_notMem_cstring src (List.mem_of_mem_take h)

/-- Bytes without a NUL are a C string as they are. -/
theorem cstring_eq {src : List UInt8} (h : 0 ∉ src) : cstring src = src := by
  rw [cstring, List.takeWhile_eq_self_iff]
  intro b hb
  have hne : b ≠ 0 := fun hzero => h (hzero ▸ hb)
  simpa using hne

/-- A copy of bytes without a NUL is their beginning. -/
theorem bytes_copy (hn : 0 < n) {src : List UInt8} (h : 0 ∉ src) :
    (copy hn src).bytes = src.take (n - 1) :=
  congrArg (List.take (n - 1)) (cstring_eq h)

/-- A string from an array that is no larger is copied as it is. -/
theorem bytes_copy_of_le {m : ℕ} (hn : 0 < n) (s : CStr m) (h : m ≤ n) :
    (copy hn s.bytes).bytes = s.bytes := by
  have := s.fits
  rw [bytes_copy hn s.noNul, List.take_of_length_le (by omega)]

/-- A string is the copy of itself. -/
theorem copy_bytes (hn : 0 < n) (s : CStr n) : copy hn s.bytes = s := by
  have hbytes := bytes_copy_of_le hn s (Nat.le_refl n)
  cases s
  exact (mk.injEq ..).mpr hbytes

/-- Every byte of a zeroed `char[n]` that the string was copied into. -/
def field (s : CStr n) : Vector UInt8 n :=
  ⟨(s.bytes ++ List.replicate (n - s.bytes.length) 0).toArray, by
    have := s.fits
    rw [List.size_toArray, List.length_append, List.length_replicate]
    omega⟩

theorem toList_field (s : CStr n) :
    s.field.toList = s.bytes ++ List.replicate (n - s.bytes.length) 0 := rfl

/-- Behind a string there are zeros, so what it is can be read off the field. -/
theorem takeWhile_append_zeros {bs : List UInt8} (h : 0 ∉ bs) (k : ℕ) :
    (bs ++ List.replicate k 0).takeWhile (· ≠ 0) = bs := by
  induction bs with
  | nil => cases k <;> simp [List.replicate_succ]
  | cons b bs ih =>
      have hb : b ≠ 0 := fun hzero => h (hzero ▸ List.mem_cons_self)
      rw [List.cons_append, List.takeWhile_cons_of_pos (by simpa using hb),
        ih fun hmem => h (List.mem_cons_of_mem b hmem)]

/-- **A field holds some bytes followed by zeros** exactly when they are the string
that was copied into it. -/
theorem field_eq_iff (s : CStr n) {bs : List UInt8} (h : 0 ∉ bs) :
    s.field.toList = bs ++ List.replicate (n - bs.length) 0 ↔ s.bytes = bs := by
  rw [toList_field]
  constructor
  · intro heq
    have hread := congrArg (List.takeWhile (· ≠ 0)) heq
    rwa [takeWhile_append_zeros s.noNul, takeWhile_append_zeros h] at hread
  · rintro rfl
    rfl

end CStr
end Lib
