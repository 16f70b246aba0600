import Mathlib.Data.Nat.Digits.Defs
import Mathlib.Data.List.Basic

/-!
# Numerals

A number is written with the digits of a base, and a text is read as far as it has digits.  What
is written is read as the number, also behind zeros; numbers that are written one after another,
each with the same number of digits, are read as one number that has them in its places.

## Main definitions

* `digitValue`, `digits`, `readNat` — reading.
* `padZeros` — writing with a least number of digits; core's `Nat.toDigits` writes the digits.
* `readNat_toDigits` — a number that is written is read.
-/

namespace Lib

/-- The number that a character stands for, if it is a letter or a figure. -/
def charValue (c : Char) : Option ℕ :=
  if '0' ≤ c ∧ c ≤ '9' then some (c.toNat - '0'.toNat)
  else if 'a' ≤ c ∧ c ≤ 'z' then some (c.toNat - 'a'.toNat + 10)
  else if 'A' ≤ c ∧ c ≤ 'Z' then some (c.toNat - 'A'.toNat + 10)
  else none

/-- The value of a digit. -/
def digitValue (b : ℕ) (c : Char) : Option ℕ := (charValue c).filter (· < b)

/-- The digits at the front of a text. -/
def digits (b : ℕ) : List Char → List ℕ
  | [] => []
  | c :: cs =>
      match digitValue b c with
      | none => []
      | some d => d :: digits b cs

/-- The number that digits stand for, the first of them in the highest place. -/
def valueOf (b : ℕ) (ds : List ℕ) : ℕ := Nat.ofDigits b ds.reverse

/-- The number at the front of a text. -/
def readNat (b : ℕ) (cs : List Char) : Option ℕ :=
  match digits b cs with
  | [] => none
  | d :: ds => some (valueOf b (d :: ds))

/-- Zeros in front, up to this length. -/
def padZeros (k : ℕ) (cs : List Char) : List Char := List.replicate (k - cs.length) '0' ++ cs

/-- Every character is a digit. -/
def AllDigits (b : ℕ) (cs : List Char) : Prop := ∀ c ∈ cs, ∃ d, digitValue b c = some d

variable {b : ℕ}

/-! ## Reading -/

theorem digits_append {xs : List Char} (h : AllDigits b xs) (ys : List Char) :
    digits b (xs ++ ys) = digits b xs ++ digits b ys := by
  induction xs with
  | nil => rfl
  | cons c xs ih =>
      obtain ⟨d, hd⟩ := h c List.mem_cons_self
      simp [digits, hd, ih fun c hc => h c (List.mem_cons_of_mem _ hc)]

theorem length_digits {xs : List Char} (h : AllDigits b xs) : (digits b xs).length = xs.length := by
  induction xs with
  | nil => rfl
  | cons c xs ih =>
      obtain ⟨d, hd⟩ := h c List.mem_cons_self
      simp [digits, hd, ih fun c hc => h c (List.mem_cons_of_mem _ hc)]

/-- The digits of two texts are the places of one number. -/
theorem valueOf_append (xs ys : List ℕ) :
    valueOf b (xs ++ ys) = valueOf b xs * b ^ ys.length + valueOf b ys := by
  rw [valueOf, List.reverse_append, Nat.ofDigits_append, List.length_reverse]
  simp only [valueOf]
  ring

/-- A text of digits is read whole. -/
theorem readNat_eq {xs : List Char} (h : AllDigits b xs) (hne : xs ≠ []) :
    readNat b xs = some (valueOf b (digits b xs)) := by
  have hlen := length_digits h
  rw [readNat]
  cases hdigits : digits b xs with
  | nil =>
      rw [hdigits] at hlen
      exact absurd (List.length_eq_zero_iff.mp hlen.symm) hne
  | cons d ds => rfl

theorem AllDigits.append {xs ys : List Char} (hx : AllDigits b xs) (hy : AllDigits b ys) :
    AllDigits b (xs ++ ys) := by
  intro c hc
  rcases List.mem_append.mp hc with hc | hc
  · exact hx c hc
  · exact hy c hc

/-! ## Writing -/

theorem digitValue_digitChar {d : ℕ} (h : d < b) (hb : b ≤ 16) :
    digitValue b d.digitChar = some d := by
  have hchar : ∀ k : Fin 16, charValue (Nat.digitChar k) = some (k : ℕ) := by decide
  rw [digitValue, hchar ⟨d, by omega⟩]
  simp [h]

theorem allDigits_zero (hb : 0 < b) (k : ℕ) : AllDigits b (List.replicate k '0') := by
  intro c hc
  rw [(List.mem_replicate.mp hc).2]
  exact ⟨0, by simp [digitValue, charValue, hb]⟩

/-- What is written is the digits of the base. -/
theorem exists_digitChar (hone : 1 < b) {n : ℕ} {c : Char} (h : c ∈ Nat.toDigits b n) :
    ∃ d < b, c = d.digitChar := by
  induction n using Nat.base_induction b hone with
  | single m hm =>
      rw [Nat.toDigits_of_lt_base hm, List.mem_singleton] at h
      exact ⟨m, hm, h⟩
  | digit m k hk hm ih =>
      rw [← Nat.toDigits_append_toDigits hone hm hk, Nat.toDigits_of_lt_base hk, List.mem_append,
        List.mem_singleton] at h
      rcases h with h | h
      · exact ih h
      · exact ⟨k, hk, h⟩

theorem allDigits_toDigits (hone : 1 < b) (hb : b ≤ 16) (n : ℕ) :
    AllDigits b (Nat.toDigits b n) := by
  intro c hc
  obtain ⟨d, hd, rfl⟩ := exists_digitChar hone hc
  exact ⟨d, digitValue_digitChar hd hb⟩

/-- The digits of a number have its value. -/
theorem valueOf_toDigits (hone : 1 < b) (hb : b ≤ 16) (n : ℕ) :
    valueOf b (digits b (Nat.toDigits b n)) = n := by
  have hsingle : ∀ m < b, digits b (Nat.toDigits b m) = [m] := by
    intro m hm
    rw [Nat.toDigits_of_lt_base hm]
    simp [digits, digitValue_digitChar hm hb]
  induction n using Nat.base_induction b hone with
  | single m hm =>
      rw [hsingle m hm]
      simp [valueOf]
  | digit m k hk hm ih =>
      rw [← Nat.toDigits_append_toDigits hone hm hk, digits_append (allDigits_toDigits hone hb m),
        valueOf_append, ih, hsingle k hk]
      simp [valueOf, Nat.mul_comm]

/-- **A number that is written is read.** -/
theorem readNat_toDigits (hone : 1 < b) (hb : b ≤ 16) (n : ℕ) :
    readNat b (Nat.toDigits b n) = some n := by
  rw [readNat_eq (allDigits_toDigits hone hb n) Nat.toDigits_ne_nil, valueOf_toDigits hone hb]

/-! ### Zeros in front -/

theorem allDigits_padZeros (hb : 0 < b) {cs : List Char} (h : AllDigits b cs) (k : ℕ) :
    AllDigits b (padZeros k cs) := (allDigits_zero hb _).append h

theorem valueOf_zeros (hb : 0 < b) (k : ℕ) :
    valueOf b (digits b (List.replicate k '0')) = 0 := by
  induction k with
  | zero => simp [digits, valueOf]
  | succ k ih =>
      have hzero : digitValue b '0' = some 0 := by simp [digitValue, charValue, hb]
      rw [List.replicate_succ, digits, hzero]
      show valueOf b ([0] ++ digits b (List.replicate k '0')) = 0
      rw [valueOf_append, ih]
      simp [valueOf]

theorem valueOf_padZeros (hb : 0 < b) (k : ℕ) (cs : List Char) :
    valueOf b (digits b (padZeros k cs)) = valueOf b (digits b cs) := by
  rw [padZeros, digits_append (allDigits_zero hb _), valueOf_append, valueOf_zeros hb,
    Nat.zero_mul, Nat.zero_add]

/-- A number that has no more digits is written with as many as this. -/
theorem length_padZeros_toDigits (hone : 1 < b) {n k : ℕ} (hk : 0 < k) (h : n < b ^ k) :
    (padZeros k (Nat.toDigits b n)).length = k := by
  have hle := (Nat.length_toDigits_le_iff hone hk).mpr h
  rw [padZeros, List.length_append, List.length_replicate]
  omega

end Lib
