import Klippylink.Lib.Bytes

/-!
# Records with a length, a type and a value

A record is a byte with the number of bytes after it, a byte with its type, and the value.  A
sequence of records has no mark at its end: it is well formed when the lengths lead from one
record to the next and exactly to the end.

## Main definitions

* `Record` — a type, and a value that a length byte can announce.
* `Record.encode`, `Record.decode` — a sequence of records as bytes, and back.
* `Record.first` — the value of the first record of a type, found by a walk over the lengths.
-/

namespace Lib

/-- A type and a value; the length byte counts both. -/
structure Record where
  type : UInt8
  value : List UInt8
  fits : value.length ≤ 254

namespace Record

/-- The bytes of a record. -/
def bytes (r : Record) : List UInt8 := UInt8.ofNat (1 + r.value.length) :: r.type :: r.value

/-- The bytes of a sequence of records. -/
def encode (rs : List Record) : List UInt8 := rs.flatMap bytes

theorem length_take_le (len : UInt8) (rest : List UInt8) :
    (rest.take (len.toNat - 1)).length ≤ 254 := by
  have hlt := len.toNat_lt
  rw [List.length_take]
  omega

/-- Record after record; every record takes two bytes or more, so the fuel of `decode` is
enough. -/
def decodeGo : ℕ → List UInt8 → Option (List Record)
  | fuel + 1, len :: type :: rest =>
      if 0 < len.toNat ∧ len.toNat - 1 ≤ rest.length then
        (decodeGo fuel (rest.drop (len.toNat - 1))).map
          (⟨type, rest.take (len.toNat - 1), length_take_le len rest⟩ :: ·)
      else none
  | _, [] => some []
  | _, _ => none

/-- The records, when the lengths lead exactly to the end. -/
def decode (bs : List UInt8) : Option (List Record) := decodeGo bs.length bs

/-- The walk of `first`. -/
def firstGo (type : UInt8) : ℕ → List UInt8 → Option (List UInt8)
  | fuel + 1, len :: t :: rest =>
      if 0 < len.toNat ∧ len.toNat - 1 ≤ rest.length then
        if t = type then some (rest.take (len.toNat - 1))
        else firstGo type fuel (rest.drop (len.toNat - 1))
      else none
  | _, _ => none

/-- The value of the first record of a type. -/
def first (type : UInt8) (bs : List UInt8) : Option (List UInt8) := firstGo type bs.length bs

@[simp] theorem encode_nil : encode [] = [] := rfl

theorem encode_cons (r : Record) (rs : List Record) : encode (r :: rs) = r.bytes ++ encode rs := rfl

@[simp] theorem length_bytes (r : Record) : r.bytes.length = 2 + r.value.length := by
  rw [bytes, List.length_cons, List.length_cons]
  omega

/-- The length byte of a record. -/
theorem toNat_length (r : Record) :
    (UInt8.ofNat (1 + r.value.length)).toNat = 1 + r.value.length := by
  have hfits := r.fits
  rw [UInt8.toNat_ofNat']
  omega

/-- The length byte announces the value and no more. -/
theorem announces (r : Record) (rest : List UInt8) :
    (0 < (UInt8.ofNat (1 + r.value.length)).toNat ∧
      (UInt8.ofNat (1 + r.value.length)).toNat - 1 ≤ (r.value ++ rest).length) ∧
      (r.value ++ rest).take ((UInt8.ofNat (1 + r.value.length)).toNat - 1) = r.value ∧
      (r.value ++ rest).drop ((UInt8.ofNat (1 + r.value.length)).toNat - 1) = rest := by
  rw [toNat_length, Nat.add_sub_cancel_left]
  refine ⟨⟨by omega, ?_⟩, List.take_left, List.drop_left⟩
  rw [List.length_append]
  omega

/-- **What is encoded is decoded.** -/
theorem decode_encode (rs : List Record) : decode (encode rs) = some rs := by
  have hgo : ∀ (rs : List Record) (fuel : ℕ), (encode rs).length ≤ fuel →
      decodeGo fuel (encode rs) = some rs := by
    intro rs
    induction rs with
    | nil =>
        intro fuel _
        cases fuel <;> rfl
    | cons r rs ih =>
        intro fuel hfuel
        rw [encode_cons, List.length_append, length_bytes] at hfuel
        obtain ⟨fuel, rfl⟩ : ∃ k, fuel = k + 1 := ⟨fuel - 1, by omega⟩
        obtain ⟨hlength, htake, hdrop⟩ := announces r (encode rs)
        simp only [encode_cons, bytes, List.cons_append, decodeGo, if_pos hlength, htake, hdrop]
        rw [ih fuel (by omega)]
        rfl
  exact hgo rs _ (Nat.le_refl _)

/-- **The walk finds the first record of a type**, whatever comes behind the records. -/
theorem first_encode {rs : List Record} {type : UInt8} {r : Record}
    (h : rs.find? (fun r => r.type = type) = some r) (rest : List UInt8) :
    first type (encode rs ++ rest) = some r.value := by
  have hgo : ∀ (rs : List Record) (fuel : ℕ), rs.find? (fun r => r.type = type) = some r →
      (encode rs ++ rest).length ≤ fuel → firstGo type fuel (encode rs ++ rest) = some r.value := by
    intro rs
    induction rs with
    | nil =>
        intro fuel hfind
        cases hfind
    | cons r' rs ih =>
        intro fuel hfind hfuel
        rw [encode_cons, List.append_assoc, List.length_append, length_bytes] at hfuel
        obtain ⟨fuel, rfl⟩ : ∃ k, fuel = k + 1 := ⟨fuel - 1, by omega⟩
        obtain ⟨hlength, htake, hdrop⟩ := announces r' (encode rs ++ rest)
        simp only [encode_cons, bytes, List.cons_append, List.append_assoc, firstGo,
          if_pos hlength, htake, hdrop]
        by_cases htype : r'.type = type
        · simp only [List.find?_cons, htype, decide_true, Option.some.injEq] at hfind
          rw [if_pos htype, hfind]
        · simp only [List.find?_cons, htype, decide_false] at hfind
          rw [if_neg htype]
          exact ih fuel hfind (by omega)
  exact hgo rs _ h (Nat.le_refl _)

end Record
end Lib
