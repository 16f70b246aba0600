import Mathlib.Data.List.Basic

/-!
# Bytes on a wire

Little-endian words of two and four bytes, and the bytes of an ASCII text.

## Main definitions

* `le16`, `ofLe16`, `le32`, `ofLe32` — words to and from their bytes, low byte first.
* `ascii` — the bytes of a text.
-/

namespace Lib

/-- The two bytes of a 16-bit word, low byte first. -/
def le16 (x : UInt16) : List UInt8 := [UInt8.ofNat x.toNat, UInt8.ofNat (x.toNat / 256)]

/-- The 16-bit word whose low byte is `a` and whose high byte is `b`. -/
def ofLe16 (a b : UInt8) : UInt16 := UInt16.ofNat (a.toNat + 256 * b.toNat)

/-- The four bytes of a 32-bit word, low byte first. -/
def le32 (x : UInt32) : List UInt8 :=
  [UInt8.ofNat x.toNat, UInt8.ofNat (x.toNat / 256),
    UInt8.ofNat (x.toNat / 65536), UInt8.ofNat (x.toNat / 16777216)]

/-- The 32-bit word with these bytes, low byte first. -/
def ofLe32 (a b c d : UInt8) : UInt32 :=
  UInt32.ofNat (a.toNat + 256 * b.toNat + 65536 * c.toNat + 16777216 * d.toNat)

/-- The bytes of an ASCII text. -/
def ascii (s : String) : List UInt8 := s.toList.map fun c => UInt8.ofNat c.toNat

/-- A number that fits a byte is not changed by it. -/
theorem toNat_byte {n : ℕ} (h : n ≤ 255) : (UInt8.ofNat n).toNat = n := by
  rw [UInt8.toNat_ofNat']
  omega

theorem ofLe16_inj {a b c d : UInt8} : ofLe16 a b = ofLe16 c d ↔ a = c ∧ b = d := by
  have ha := a.toNat_lt
  have hb := b.toNat_lt
  have hc := c.toNat_lt
  have hd := d.toNat_lt
  constructor
  · intro h
    have hnat := congrArg UInt16.toNat h
    simp only [ofLe16, UInt16.toNat_ofNat'] at hnat
    exact ⟨UInt8.toNat_inj.mp (by omega), UInt8.toNat_inj.mp (by omega)⟩
  · rintro ⟨rfl, rfl⟩
    rfl

@[simp] theorem length_le32 (x : UInt32) : (le32 x).length = 4 := rfl

theorem length_flatMap_le32 (xs : List UInt32) : (xs.flatMap le32).length = 4 * xs.length := by
  induction xs with
  | nil => rfl
  | cons x xs ih =>
      rw [List.flatMap_cons, List.length_append, ih, length_le32, List.length_cons]
      omega

/-- A 32-bit word survives being written and read back. -/
theorem ofLe32_le32 (x : UInt32) :
    ofLe32 (UInt8.ofNat x.toNat) (UInt8.ofNat (x.toNat / 256))
      (UInt8.ofNat (x.toNat / 65536)) (UInt8.ofNat (x.toNat / 16777216)) = x := by
  have hx := x.toNat_lt
  apply UInt32.toNat_inj.mp
  simp only [ofLe32, UInt32.toNat_ofNat', UInt8.toNat_ofNat']
  omega

end Lib
