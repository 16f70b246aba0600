import Klippylink.Protocol.Packet

/-!
# The packet codec, over every string of bytes

What `KlipPacket.encode` writes and which strings `KlipPacket.decode` takes.  The decoded
command is an enumeration member where its byte has one and the integer elsewhere; the two
compare equal in Python, and `PyPacket.value` is what the comparison looks at.

## Main definitions

* `CommandValue`, `PyPacket` — the command and the packet as Python holds them.
* `PyPacket.encode`, `PyPacket.decode` — the codec on them.
* `decode_eq_some`, `decode_eq_none` — the packets `decode` finds, and when it finds none.
-/

namespace Klippylink

open Lib

/-! ## The decoder -/

namespace KlipPacket

/-- The header is looked at once there are four bytes. -/
theorem decode_cons (m0 m1 cmd length : UInt8) (rest : List UInt8) :
    decode (m0 :: m1 :: cmd :: length :: rest) =
      if [m0, m1] = le16 klipprotoMagic ∧ length.toNat ≤ rest.length then
        some ⟨cmd, rest.take length.toNat⟩
      else none := by
  have hmagic : [m0, m1] = le16 klipprotoMagic ↔ ofLe16 m0 m1 = klipprotoMagic := by
    rw [magic_iff]
    simp [le16, klipprotoMagic]
  by_cases h : ofLe16 m0 m1 = klipprotoMagic
  · by_cases hlen : length.toNat ≤ rest.length
    · have htake : ¬ (rest.take length.toNat).length < length.toNat := by
        rw [List.length_take]
        omega
      simp only [decode, hmagic, h, hlen, htake, ne_eq, not_true_eq_false, if_false, and_self,
        if_true]
    · have htake : (rest.take length.toNat).length < length.toNat := by
        rw [List.length_take]
        omega
      simp only [decode, hmagic, h, hlen, htake, ne_eq, not_true_eq_false, if_false, and_false,
        if_true]
  · simp only [decode, hmagic, h, ne_eq, not_false_eq_true, if_true, false_and, if_false]

theorem decode_short {d : List UInt8} (h : d.length < 4) : decode d = none := by
  match d, h with
  | [], _ => rfl
  | [_], _ => rfl
  | [_, _], _ => rfl
  | [_, _, _], _ => rfl

/-- Four bytes are a header. -/
theorem exists_cons_of_length {d : List UInt8} (h : ¬ d.length < 4) :
    ∃ m0 m1 cmd length rest, d = m0 :: m1 :: cmd :: length :: rest := by
  match d, h with
  | [], h => exact absurd (by decide) h
  | [_], h => exact absurd (by simp) h
  | [_, _], h => exact absurd (by simp) h
  | [_, _, _], h => exact absurd (by simp) h
  | m0 :: m1 :: cmd :: length :: rest, _ => exact ⟨m0, m1, cmd, length, rest, rfl⟩

/-- **A packet that is found is written at the front of the string.** -/
theorem decode_eq_some {d : List UInt8} {p : KlipPacket} (h : decode d = some p) :
    p.payload.length ≤ 255 ∧ klipPacket p.command p.payload <+: d := by
  by_cases hlen : d.length < 4
  · rw [decode_short hlen] at h
    cases h
  · obtain ⟨m0, m1, cmd, length, rest, rfl⟩ := exists_cons_of_length hlen
    rw [decode_cons] at h
    split at h
    · next hcond =>
        obtain ⟨hmagic, hrest⟩ := hcond
        cases h
        have htake : (rest.take length.toNat).length = length.toNat :=
          List.length_take_of_le hrest
        have hbyte := length.toNat_lt
        refine ⟨by rw [htake]; omega, rest.drop length.toNat, ?_⟩
        rw [klipPacket, klipHeader, htake, UInt8.ofNat_toNat, ← hmagic]
        simp only [List.cons_append, List.nil_append, List.take_append_drop]
    · cases h

/-- **When no packet is found.** -/
theorem decode_eq_none {d : List UInt8} :
    decode d = none ↔
      d.length < 4 ∨ d.take 2 ≠ le16 klipprotoMagic ∨ d.length - 4 < (d.getD 3 0).toNat := by
  by_cases hlen : d.length < 4
  · simp only [decode_short hlen, hlen, true_or]
  · obtain ⟨m0, m1, cmd, length, rest, rfl⟩ := exists_cons_of_length hlen
    rw [decode_cons]
    by_cases hmagic : [m0, m1] = le16 klipprotoMagic
    · by_cases hrest : length.toNat ≤ rest.length
      · simp [hmagic, hrest]
      · simp [hmagic, hrest, Nat.lt_of_not_le hrest]
    · simp [hmagic]

end KlipPacket

/-! ## Packets as Python holds them -/

/-- The command of a packet: a member of the enumeration, or an integer. -/
inductive CommandValue
  | member (c : KlipCommand)
  | int (b : UInt8)
  deriving DecidableEq

namespace CommandValue

/-- `int(command)`. -/
def toByte : CommandValue → UInt8
  | member c => c.code
  | int b => b

/-- `KlipCommand(cmd)`, and `cmd` itself where that raises `ValueError`. -/
def ofByte (cmd : UInt8) : CommandValue :=
  match KlipCommand.ofCode cmd with
  | some c => member c
  | none => int cmd

@[simp] theorem toByte_ofByte (cmd : UInt8) : (ofByte cmd).toByte = cmd := by
  rw [ofByte]
  cases h : KlipCommand.ofCode cmd with
  | none => rfl
  | some c =>
      have hcode := List.find?_some h
      exact of_decide_eq_true hcode

end CommandValue

/-- A packet with the command as Python holds it. -/
structure PyPacket where
  command : CommandValue
  payload : List UInt8
  deriving DecidableEq

namespace PyPacket

/-- What `==` on packets compares. -/
def value (p : PyPacket) : KlipPacket := ⟨p.command.toByte, p.payload⟩

/-- `KlipPacket.encode`. -/
def encode (p : PyPacket) : Option (List UInt8) :=
  if p.payload.length ≤ 255 then some (klipPacket p.command.toByte p.payload) else none

/-- `KlipPacket.decode`, with its `try`. -/
def decode : List UInt8 → Option PyPacket
  | m0 :: m1 :: cmd :: length :: rest =>
      if ofLe16 m0 m1 ≠ klipprotoMagic then none
      else
        let payload := rest.take length.toNat
        if payload.length < length.toNat then none else some ⟨.ofByte cmd, payload⟩
  | _ => none

/-- The encoder looks at nothing but the value. -/
theorem encode_value (p : PyPacket) : p.value.encode = p.encode := rfl

theorem encode_eq {p : PyPacket} (h : p.payload.length ≤ 255) :
    p.encode = some (klipPacket p.command.toByte p.payload) := by
  rw [← encode_value]
  exact KlipPacket.encode_eq h

/-- The two decoders differ in the command they hold, and it has the same byte. -/
theorem decode_eq_map (d : List UInt8) :
    decode d = (KlipPacket.decode d).map fun p => ⟨.ofByte p.command, p.payload⟩ := by
  by_cases hlen : d.length < 4
  · match d, hlen with
    | [], _ => rfl
    | [_], _ => rfl
    | [_, _], _ => rfl
    | [_, _, _], _ => rfl
  · obtain ⟨m0, m1, cmd, length, rest, rfl⟩ := KlipPacket.exists_cons_of_length hlen
    simp only [decode, KlipPacket.decode]
    split
    · rfl
    · split <;> rfl

theorem value_of_decode {d : List UInt8} {p : PyPacket} (h : decode d = some p) :
    KlipPacket.decode d = some p.value := by
  rw [decode_eq_map, Option.map_eq_some_iff] at h
  obtain ⟨q, hq, rfl⟩ := h
  rw [hq, value, CommandValue.toByte_ofByte]

end PyPacket

/-! ## The codec -/

/-- **The packet codec.**  What is encoded is decoded, whatever follows it; what is decoded
was encoded at the front of the string; and exactly the strings without a whole packet at
their front are rejected.  Packets are equal when their command bytes and payloads are; the
command that `decode` gives is the member of that byte where there is one. -/
theorem klipPacket_codec :
    (∀ p : PyPacket, p.payload.length ≤ 255 → ∀ t, ∃ data q, p.encode = some data ∧
        PyPacket.decode (data ++ t) = some q ∧ q.value = p.value ∧
        q.command = .ofByte p.command.toByte) ∧
      (∀ d p, PyPacket.decode d = some p → ∃ data, p.encode = some data ∧ data <+: d) ∧
      ∀ d, PyPacket.decode d = none ↔
        d.length < 4 ∨ d.take 2 ≠ le16 klipprotoMagic ∨ d.length - 4 < (d.getD 3 0).toNat := by
  refine ⟨?_, ?_, ?_⟩
  · intro p hp t
    have hdecode := KlipPacket.decode_klipPacket p.command.toByte p.payload t hp
    refine ⟨_, ⟨.ofByte p.command.toByte, p.payload⟩, PyPacket.encode_eq hp, ?_, ?_, rfl⟩
    · rw [PyPacket.decode_eq_map, hdecode]
      rfl
    · rw [PyPacket.value, CommandValue.toByte_ofByte]
      rfl
  · intro d p hp
    obtain ⟨hlen, hpre⟩ := KlipPacket.decode_eq_some (PyPacket.value_of_decode hp)
    exact ⟨_, PyPacket.encode_eq hlen, hpre⟩
  · intro d
    rw [PyPacket.decode_eq_map, Option.map_eq_none_iff, KlipPacket.decode_eq_none]

/-- A command outside the enumeration, and bytes behind the packet. -/
theorem klipPacket_codec_unknown : ∃ data q,
    PyPacket.encode ⟨.int 0x77, [1, 2]⟩ = some data ∧
      PyPacket.decode (data ++ [9, 9]) = some q ∧ q.value = ⟨0x77, [1, 2]⟩ ∧
      q.command = .ofByte 0x77 :=
  klipPacket_codec.1 ⟨.int 0x77, [1, 2]⟩ (by decide) [9, 9]

end Klippylink
