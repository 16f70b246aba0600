import Klippylink.Host.Handlers

/-!
# The host's payloads

The builders and decoders of `klip_protocol.py`, with the packets of the two zone handlers.
`pack` takes integers of any size and raises for those that do not fit their field; a builder
that raises makes no packet.  A `float` is a value of a type that is a parameter, and on the
wire its four bytes.

## Main definitions

* `makeNeopixelSet`, `makeEndstopQuery`, `makeOtaBegin` — builders.
* `decodeEndstopState`, `decodeOtaStatus`, `decodeHeaterState` — decoders.
* `HostRequest`, `HostRequest.packet` — a request, and the packet built for it.
-/

namespace Klippylink

open Lib

/-- A word of `pack("<I", ...)`; `none` where it raises. -/
def packWord (n : ℤ) : Option UInt32 :=
  if 0 ≤ n ∧ n < UInt32.size then some (UInt32.ofNat n.toNat) else none

theorem packWord_eq_some {n : ℤ} {x : UInt32} (h : packWord n = some x) : n = x.toNat := by
  rw [packWord] at h
  split at h
  · next hn =>
      cases h
      have hlt : n.toNat < UInt32.size := by omega
      rw [UInt32.toNat_ofNat', Nat.mod_eq_of_lt hlt]
      omega
  · cases h

/-! ## Builders -/

/-- A packet whose payload is `pack("B...B", ...)`. -/
def makeBytes (command : KlipCommand) (ns : List ℤ) : Option KlipPacket :=
  (ns.mapM packByte).map (KlipPacket.mk command.code)

/-- `make_neopixel_set`. -/
def makeNeopixelSet (ledIdx r g b : ℤ) : Option KlipPacket :=
  makeBytes .neopixelSet [ledIdx, r, g, b]

/-- `make_neopixel_set_all`. -/
def makeNeopixelSetAll (r g b : ℤ) : Option KlipPacket := makeBytes .neopixelSetAll [r, g, b]

/-- `make_neopixel_set_range`. -/
def makeNeopixelSetRange (start count r g b : ℤ) : Option KlipPacket :=
  makeBytes .neopixelSetRange [start, count, r, g, b]

/-- `make_endstop_query`. -/
def makeEndstopQuery (endstopIdx : ℤ) : Option KlipPacket := makeBytes .endstopQuery [endstopIdx]

/-- The packet of `set_led_zone`. -/
def makeLedZoneSet (body : LedZoneBody) : Option KlipPacket :=
  (Handler.setLedZone body).packet.toOption

/-- The packet of `clear_led_zone`. -/
def makeLedZoneClr (zoneId : ℤ) : Option KlipPacket :=
  (Handler.clearLedZone zoneId).packet.toOption

/-- `make_ota_begin`. -/
def makeOtaBegin (size crc32 : ℤ) : Option KlipPacket :=
  ([size, crc32].mapM packWord).map fun words =>
    ⟨KlipCommand.otaBegin.code, words.flatMap le32⟩

/-- The requests of the host that carry values to the node. -/
inductive HostRequest (F : Type)
  | neopixelSet (ledIdx r g b : ℤ)
  | neopixelSetAll (r g b : ℤ)
  | neopixelSetRange (start count r g b : ℤ)
  | ledZoneSet (body : LedZoneBody)
  | ledZoneClr (zoneId : ℤ)
  | endstopQuery (endstopIdx : ℤ)
  | otaBegin (size crc32 : ℤ)
  | heaterSet (targetTemp kp ki kd : F)

/-- The packet that is built for a request. -/
def HostRequest.packet {F : Type} (packFloat : F → Option UInt32) :
    HostRequest F → Option KlipPacket
  | neopixelSet ledIdx r g b => makeNeopixelSet ledIdx r g b
  | neopixelSetAll r g b => makeNeopixelSetAll r g b
  | neopixelSetRange start count r g b => makeNeopixelSetRange start count r g b
  | ledZoneSet body => makeLedZoneSet body
  | ledZoneClr zoneId => makeLedZoneClr zoneId
  | endstopQuery endstopIdx => makeEndstopQuery endstopIdx
  | otaBegin size crc32 => makeOtaBegin size crc32
  | heaterSet targetTemp kp ki kd => makeHeaterSet packFloat targetTemp kp ki kd

/-! ## Decoders -/

/-- `decode_endstop_state`. -/
def decodeEndstopState : List UInt8 → Option (UInt8 × Bool)
  | idx :: triggered :: _ => some (idx, triggered ≠ 0)
  | _ => none

/-- `decode_ota_status`. -/
def decodeOtaStatus : List UInt8 → Option UInt8
  | status :: _ => some status
  | [] => none

/-- `decode_heater_state`; the temperatures are the bits of their floats. -/
def decodeHeaterState : List UInt8 → Option (UInt32 × UInt32 × UInt8)
  | c0 :: c1 :: c2 :: c3 :: t0 :: t1 :: t2 :: t3 :: duty :: _ =>
      some (ofLe32 c0 c1 c2 c3, ofLe32 t0 t1 t2 t3, duty)
  | _ => none

/-- Two words and a byte are read as they were written. -/
theorem decodeHeaterState_le32 (current target : UInt32) (duty : UInt8) :
    decodeHeaterState (le32 current ++ le32 target ++ [duty]) = some (current, target, duty) := by
  have hcurrent := ofLe32_le32 current
  have htarget := ofLe32_le32 target
  simp only [decodeHeaterState, le32, List.cons_append, List.nil_append, hcurrent, htarget]

end Klippylink
