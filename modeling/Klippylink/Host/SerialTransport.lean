import Klippylink.Protocol.Packet
import Mathlib.Data.Int.Notation

/-!
# The host's end of the serial link

`SerialTransport` writes framed packets to the port and reads framed packets from
it.  Reading keeps what has arrived in a buffer; `_process_buffer` takes frames
from its front, and drops one byte where no frame starts.

## Main definitions

* `SerialTransport` — whether the port is open, and `_buffer`.
* `SerialTransport.sendPacket` — the bytes `send_packet` writes.
* `SerialTransport.processBuffer`, `SerialTransport.poll` — reading.
-/

namespace Klippylink

open Lib

/-- `FRAMED_HEADER_SIZE`: node id, magic, command and length. -/
def framedHeaderSize : ℕ := 5

/-- What `send_packet` raises. -/
inductive SendError
  /-- `RuntimeError("Serial port not open")`. -/
  | portNotOpen
  /-- `struct.error`, from `encode`. -/
  | structError
  deriving DecidableEq

/-- The state of the transport. -/
structure SerialTransport where
  isOpen : Bool
  buffer : List UInt8
  deriving DecidableEq

namespace SerialTransport

/-- `send_packet`: the bytes written to the port. -/
def sendPacket (t : SerialTransport) (nodeId : ℤ) (packet : KlipPacket) :
    Except SendError (List UInt8) :=
  if t.isOpen then
    match packet.encode with
    | none => .error .structError
    | some bytes => .ok (UInt8.ofNat (nodeId % 256).toNat :: bytes)
  else .error .portNotOpen

/-- The loop of `_process_buffer`: the buffer it leaves and the packets handed to
`on_packet`, in order.  Every iteration takes at least one byte, so the fuel of
`processBuffer` is enough. -/
def processBufferGo : ℕ → List UInt8 → List UInt8 × List Frame
  | fuel + 1, nodeId :: m0 :: m1 :: cmd :: length :: rest =>
      let buffer := nodeId :: m0 :: m1 :: cmd :: length :: rest
      if ofLe16 m0 m1 ≠ klipprotoMagic then
        -- not a frame start: the node id byte goes
        processBufferGo fuel (m0 :: m1 :: cmd :: length :: rest)
      else
        let frameLen := framedHeaderSize + length.toNat
        if buffer.length < frameLen then (buffer, [])
        else
          let klipFrame := (buffer.take frameLen).drop 1
          let next := processBufferGo fuel (buffer.drop frameLen)
          match KlipPacket.decode klipFrame with
          | none => next
          | some packet => (next.1, ⟨nodeId, packet⟩ :: next.2)
  | _, buffer => (buffer, [])

/-- `_process_buffer`. -/
def processBuffer (buffer : List UInt8) : List UInt8 × List Frame :=
  processBufferGo buffer.length buffer

/-- `poll`, when the port has `data` to read: the packets handed to `on_packet`. -/
def poll (t : SerialTransport) (data : List UInt8) :
    SerialTransport × List Frame :=
  if t.isOpen ∧ data ≠ [] then
    let r := processBuffer (t.buffer ++ data)
    ({ t with buffer := r.1 }, r.2)
  else (t, [])

end SerialTransport

/-! ## Writing -/

/-- A packet whose length fits its byte is written as its frame. -/
theorem SerialTransport.sendPacket_eq {t : SerialTransport} (ht : t.isOpen = true) (nodeId : UInt8)
    {packet : KlipPacket} (h : packet.payload.length ≤ 255) :
    t.sendPacket nodeId.toNat packet = .ok (Frame.bytes ⟨nodeId, packet⟩) := by
  have hnode : UInt8.ofNat ((nodeId.toNat : ℤ) % 256).toNat = nodeId := by
    apply UInt8.toNat_inj.mp
    have := nodeId.toNat_lt
    rw [UInt8.toNat_ofNat']
    omega
  simp [sendPacket, ht, KlipPacket.encode_eq h, hnode, Frame.bytes]

/-! ## Reading -/

open SerialTransport

/-- A frame at the front of the buffer is taken and handed out. -/
theorem processBufferGo_frame (fuel : ℕ) (f : Frame) (rest : List UInt8)
    (h : f.packet.payload.length ≤ 255) :
    processBufferGo (fuel + 1) (f.bytes ++ rest) =
      let next := processBufferGo fuel rest
      (next.1, f :: next.2) := by
  have hmagic : ofLe16 0x4C 0x4B = klipprotoMagic := rfl
  have hdec := KlipPacket.decode_klipPacket f.packet.command f.packet.payload [] h
  rw [List.append_nil, klipPacket_eq] at hdec
  simp only [Frame.bytes_eq, List.cons_append, processBufferGo, hmagic, ne_eq, not_true_eq_false,
    if_false, toNat_byte h, framedHeaderSize, List.length_cons, List.length_append]
  rw [if_neg (by omega), Nat.add_comm 5]
  simp only [List.take_succ_cons, List.drop_succ_cons, List.drop_zero, List.take_left,
    List.drop_left]
  rw [hdec]

/-- Part of a frame is left in the buffer. -/
theorem processBufferGo_part (fuel : ℕ) {fs : List Frame} {part : List UInt8}
    (hfs : ∀ f ∈ fs, f.packet.payload.length ≤ 255) (hpart : FramePart fs part) :
    processBufferGo fuel part = (part, []) := by
  rcases hpart with rfl | ⟨f, hf, later, hbytes, hlater⟩
  · cases fuel <;> rfl
  have h := hfs f hf
  have hlen := congrArg List.length hbytes
  have hpos := List.length_pos_iff.mpr hlater
  rw [List.length_append, Frame.length_bytes] at hlen
  match fuel, part with
  | 0, _ => rfl
  | _ + 1, [] => rfl
  | _ + 1, [_] => rfl
  | _ + 1, [_, _] => rfl
  | _ + 1, [_, _, _] => rfl
  | _ + 1, [_, _, _, _] => rfl
  | fuel + 1, nid :: m0 :: m1 :: cmd :: length :: part =>
      rw [Frame.bytes_eq] at hbytes
      simp only [List.cons_append, List.cons.injEq] at hbytes
      obtain ⟨rfl, rfl, rfl, rfl, rfl, -⟩ := hbytes
      have hmagic : ofLe16 0x4C 0x4B = klipprotoMagic := rfl
      simp only [List.length_cons] at hlen
      simp only [processBufferGo, hmagic, ne_eq, not_true_eq_false, if_false, toNat_byte h,
        framedHeaderSize, List.length_cons]
      rw [if_pos (by omega)]

/-- Whole frames are handed out in order, and part of one is left. -/
theorem processBufferGo_frames {fs : List Frame} {part : List UInt8}
    (hfs : ∀ f ∈ fs, f.packet.payload.length ≤ 255) (hpart : FramePart fs part) :
    ∀ (done : List Frame) (fuel : ℕ), (∀ f ∈ done, f.packet.payload.length ≤ 255) →
      (frameStream done ++ part).length ≤ fuel →
      processBufferGo fuel (frameStream done ++ part) = (part, done) := by
  intro done
  induction done with
  | nil => intro fuel _ _; exact processBufferGo_part fuel hfs hpart
  | cons f done ih =>
      intro fuel hdone hfuel
      obtain ⟨hf, hdone⟩ := List.forall_mem_cons.mp hdone
      rw [frameStream_cons, List.append_assoc, List.length_append, Frame.length_bytes] at hfuel
      obtain ⟨fuel, rfl⟩ : ∃ k, fuel = k + 1 := ⟨fuel - 1, by omega⟩
      rw [frameStream_cons, List.append_assoc, processBufferGo_frame fuel f _ hf,
        ih fuel hdone (by omega)]

/-- **Reading part of a stream of frames.**  The frames that are complete are
handed out in order, and the buffer keeps the beginning of the next one. -/
theorem processBuffer_frames {fs : List Frame} {data later : List UInt8}
    (hfs : ∀ f ∈ fs, f.packet.payload.length ≤ 255) (hdata : data ++ later = frameStream fs) :
    ∃ done rest, fs = done ++ rest ∧ (processBuffer data).2 = done ∧
      (processBuffer data).1 ++ later = frameStream rest ∧ (later = [] → rest = []) := by
  obtain ⟨done, rest, part, rfl, rfl, hrest, hpart, hend⟩ := exists_frames_part hdata
  have hlegal := List.forall_mem_append.mp hfs
  have hout := processBufferGo_frames hlegal.2 hpart done _ hlegal.1 (Nat.le_refl _)
  refine ⟨done, rest, rfl, ?_, ?_, hend⟩
  · rw [processBuffer, hout]
  · rw [processBuffer, hout]
    exact hrest

end Klippylink
