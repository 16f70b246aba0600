import Mathlib.Data.List.Basic
import Mathlib.Logic.Function.Iterate

/-!
# Checksums that can be taken piece by piece

A checksum is given as `crc acc bytes`: the value after `bytes` when it was `acc`
before them.  It is chainable when feeding two pieces one after the other is
feeding their concatenation; a loop over the blocks of a stream then computes the
checksum of the whole stream, whatever the block sizes are.

`crc32` is the CRC-32 of Ethernet and zip (reflected polynomial `0xEDB88320`,
initial value and final xor all ones), one bit at a time.

## Main definitions

* `Chainable crc` — the law of piecewise checksums.
* `crc32` — CRC-32, with a running value.
* `blocks k xs` — `xs` cut into blocks of `k`, the last one possibly shorter.
-/

namespace Lib

universe u v
variable {κ : Type u} {α : Type v}

/-- Nothing leaves the value as it is, and two pieces in a row are their
concatenation. -/
structure Chainable (crc : κ → List α → κ) : Prop where
  nil : ∀ acc, crc acc [] = acc
  append : ∀ acc xs ys, crc acc (xs ++ ys) = crc (crc acc xs) ys

/-! ## CRC-32 -/

/-- One bit of the division by the reflected polynomial. -/
def crc32Bit (r : UInt32) : UInt32 :=
  if r &&& 1 = 1 then (r >>> 1) ^^^ 0xEDB88320 else r >>> 1

/-- The remainder after one more byte. -/
def crc32Byte (r : UInt32) (b : UInt8) : UInt32 :=
  crc32Bit^[8] (r ^^^ b.toUInt32)

/-- CRC-32 of `xs`, continuing from the value `acc` of what came before. -/
def crc32 (acc : UInt32) (xs : List UInt8) : UInt32 :=
  xs.foldl crc32Byte (acc ^^^ 0xFFFFFFFF) ^^^ 0xFFFFFFFF

theorem xor_ones_twice (r : UInt32) : r ^^^ 0xFFFFFFFF ^^^ 0xFFFFFFFF = r := by
  rw [UInt32.xor_assoc, UInt32.xor_self, UInt32.xor_zero]

/-- The final xor of one piece and the initial xor of the next cancel. -/
theorem chainable_crc32 : Chainable crc32 where
  nil acc := xor_ones_twice acc
  append acc xs ys := by
    simp only [crc32, List.foldl_append]
    rw [xor_ones_twice]

example : crc32 0 [0x31, 0x32, 0x33, 0x34, 0x35, 0x36, 0x37, 0x38, 0x39] = 0xCBF43926 := by
  decide +kernel

/-! ## Blocks -/

/-- `xs` in blocks of `k`; the fuel bounds the number of blocks. -/
def blocksGo (k : ℕ) : ℕ → List α → List (List α)
  | 0, _ => []
  | _ + 1, [] => []
  | fuel + 1, x :: xs => (x :: xs).take k :: blocksGo k fuel ((x :: xs).drop k)

/-- `xs` cut into blocks of `k`, the last one possibly shorter. -/
def blocks (k : ℕ) (xs : List α) : List (List α) := blocksGo k xs.length xs

theorem flatten_blocksGo {k : ℕ} (hk : 0 < k) :
    ∀ (fuel : ℕ) (xs : List α), xs.length ≤ fuel → (blocksGo k fuel xs).flatten = xs := by
  intro fuel
  induction fuel with
  | zero =>
      intro xs h
      have hnil : xs = [] := List.length_eq_zero_iff.mp (by omega)
      simp [blocksGo, hnil]
  | succ fuel ih =>
      intro xs h
      cases xs with
      | nil => rfl
      | cons x xs =>
          have hdrop : ((x :: xs).drop k).length ≤ fuel := by
            rw [List.length_drop]
            omega
          rw [blocksGo, List.flatten_cons, ih _ hdrop, List.take_append_drop]

/-- No symbol is lost or repeated by cutting. -/
theorem flatten_blocks {k : ℕ} (hk : 0 < k) (xs : List α) : (blocks k xs).flatten = xs :=
  flatten_blocksGo hk xs.length xs (Nat.le_refl _)

/-- Fuel beyond the number of symbols makes no difference. -/
theorem blocksGo_eq {k : ℕ} (hk : 0 < k) :
    ∀ (fuel : ℕ) (xs : List α), xs.length ≤ fuel → blocksGo k fuel xs = blocks k xs := by
  intro fuel
  induction fuel using Nat.strongRecOn with
  | ind fuel ih =>
      intro xs h
      cases xs with
      | nil => cases fuel <;> rfl
      | cons x xs =>
          rw [List.length_cons] at h
          obtain ⟨fuel, rfl⟩ : ∃ m, fuel = m + 1 := ⟨fuel - 1, by omega⟩
          have hdrop : ((x :: xs).drop k).length ≤ xs.length := by
            rw [List.length_drop, List.length_cons]
            omega
          rw [blocks, List.length_cons, blocksGo, blocksGo, ih fuel (by omega) _ (by omega),
            ih xs.length (by omega) _ hdrop]

@[simp] theorem blocks_nil (k : ℕ) : blocks k ([] : List α) = [] := rfl

/-- The first block, and the blocks of what is behind it. -/
theorem blocks_eq_cons {k : ℕ} (hk : 0 < k) {xs : List α} (h : xs ≠ []) :
    blocks k xs = xs.take k :: blocks k (xs.drop k) := by
  cases xs with
  | nil => exact absurd rfl h
  | cons x xs =>
      have hdrop : ((x :: xs).drop k).length ≤ xs.length := by
        rw [List.length_drop, List.length_cons]
        omega
      rw [blocks, List.length_cons, blocksGo, blocksGo_eq hk _ _ hdrop]

theorem mem_blocksGo {k : ℕ} (hk : 0 < k) :
    ∀ (fuel : ℕ) (xs b : List α), b ∈ blocksGo k fuel xs → 0 < b.length ∧ b.length ≤ k := by
  intro fuel
  induction fuel with
  | zero => intro xs b hb; simp [blocksGo] at hb
  | succ fuel ih =>
      intro xs b hb
      cases xs with
      | nil => simp [blocksGo] at hb
      | cons x xs =>
          rw [blocksGo, List.mem_cons] at hb
          rcases hb with rfl | hb
          · rw [List.length_take, List.length_cons]
            omega
          · exact ih _ _ hb

/-- Every block holds at least one symbol and at most `k`. -/
theorem mem_blocks {k : ℕ} (hk : 0 < k) {xs b : List α} (hb : b ∈ blocks k xs) :
    0 < b.length ∧ b.length ≤ k :=
  mem_blocksGo hk xs.length xs b hb

end Lib
