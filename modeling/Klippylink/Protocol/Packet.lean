import Klippylink.Lib.Bytes

/-!
# The packet format

The packet of `klip_protocol.h` and `klip_protocol.py`: a two-byte magic, a
command byte, a length byte and that many payload bytes.  The host encodes and
decodes packets as values; the firmware reads the header fields in place, out of
whatever buffer the bytes arrived in.

A command is kept as its byte.  `KlipCommand` names the known ones; in Python an
`IntEnum` member and its integer compare equal, so the byte stands for both.

## Main definitions

* `KlipCommand` — the known commands and their codes.
* `KlipPacket`, `KlipPacket.encode`, `KlipPacket.decode` — the host's codec.
* `klipPacket` — the bytes of a packet with a given command and payload.
* `Frame`, `Frame.bytes`, `frameStream` — a packet with its node id, on the serial
  link.
* `FramePart` — the beginning of a frame.
-/

namespace Klippylink

open Lib

/-! ## Constants -/

/-- `KLIPPROTO_MAGIC`, `MAGIC`. -/
def klipprotoMagic : UInt16 := 0x4B4C

/-- `KLIP_HEADER_SIZE`: magic, command and length. -/
def klipHeaderSize : ℕ := 4

/-- `KLIP_MAX_PAYLOAD_SIZE`. -/
def klipMaxPayloadSize : ℕ := 244

/-- `KLIP_MAX_PACKET_SIZE`. -/
def klipMaxPacketSize : ℕ := klipHeaderSize + klipMaxPayloadSize

/-- `KLIP_OTA_OK`. -/
def klipOtaOk : UInt8 := 0x00

/-- `KLIP_OTA_ERROR`. -/
def klipOtaError : UInt8 := 0x01

/-- `KLIP_OTA_IN_PROGRESS`. -/
def klipOtaInProgress : UInt8 := 0x02

/-- The commands of `klip_command_t`. -/
inductive KlipCommand
  | ping
  | pong
  | setMotorSpeed
  | readSensor
  | sensorResponse
  | setConfig
  | getStatus
  | statusResponse
  | neopixelSet
  | neopixelSetAll
  | neopixelSetRange
  | ledZoneSet
  | ledZoneClr
  | endstopQuery
  | endstopState
  | endstopSubscribe
  | deviceInfoReq
  | deviceInfoResp
  | otaBegin
  | otaData
  | otaEnd
  | otaStatus
  | radioGet
  | radioSet
  | wifiEnable
  | wifiStatus
  | heaterSet
  | heaterState
  | heartbeat
  | error
  deriving DecidableEq

namespace KlipCommand

/-- Every command, in the order of their bytes. -/
def all : List KlipCommand :=
  [ping, pong, setMotorSpeed, readSensor, sensorResponse, setConfig, getStatus, statusResponse,
    neopixelSet, neopixelSetAll, neopixelSetRange, ledZoneSet, ledZoneClr, endstopQuery,
    endstopState, endstopSubscribe, deviceInfoReq, deviceInfoResp, otaBegin, otaData, otaEnd,
    otaStatus, radioGet, radioSet, wifiEnable, wifiStatus, heaterSet, heaterState, heartbeat,
    error]

/-- The byte of a command.  `radioGet` and `radioSet` exist on the host only. -/
def code : KlipCommand → UInt8
  | ping => 0x01
  | pong => 0x02
  | setMotorSpeed => 0x10
  | readSensor => 0x20
  | sensorResponse => 0x21
  | setConfig => 0x30
  | getStatus => 0x40
  | statusResponse => 0x41
  | neopixelSet => 0x50
  | neopixelSetAll => 0x51
  | neopixelSetRange => 0x52
  | ledZoneSet => 0x53
  | ledZoneClr => 0x54
  | endstopQuery => 0x60
  | endstopState => 0x61
  | endstopSubscribe => 0x62
  | deviceInfoReq => 0x70
  | deviceInfoResp => 0x71
  | otaBegin => 0x80
  | otaData => 0x81
  | otaEnd => 0x82
  | otaStatus => 0x83
  | radioGet => 0x90
  | radioSet => 0x91
  | wifiEnable => 0xA0
  | wifiStatus => 0xA1
  | heaterSet => 0xB0
  | heaterState => 0xB1
  | heartbeat => 0xC0
  | error => 0xFF

/-- The command with this byte, if there is one. -/
def ofCode (b : UInt8) : Option KlipCommand :=
  all.find? fun c => c.code = b

/-- Distinct commands have distinct bytes. -/
theorem code_injective : Function.Injective code := by
  intro a b
  cases a <;> cases b <;> first | exact fun _ => rfl | exact fun h => absurd h (by decide)

/-- The byte of a command is read back as the command. -/
@[simp] theorem ofCode_code (c : KlipCommand) : ofCode c.code = some c := by
  cases c <;> rfl

@[simp] theorem code_inj {a b : KlipCommand} : a.code = b.code ↔ a = b :=
  code_injective.eq_iff

end KlipCommand

/-! ## The bytes of a packet -/

/-- The four header bytes. -/
def klipHeader (command length : UInt8) : List UInt8 :=
  le16 klipprotoMagic ++ [command, length]

/-- The bytes of a packet: header, then payload. -/
def klipPacket (command : UInt8) (payload : List UInt8) : List UInt8 :=
  klipHeader command (UInt8.ofNat payload.length) ++ payload

theorem klipPacket_eq (command : UInt8) (payload : List UInt8) :
    klipPacket command payload =
      0x4C :: 0x4B :: command :: UInt8.ofNat payload.length :: payload := rfl

@[simp] theorem length_klipPacket (command : UInt8) (payload : List UInt8) :
    (klipPacket command payload).length = 4 + payload.length := by
  simp only [klipPacket_eq, List.length_cons]
  omega

/-- A packet of four bytes. -/
def bareHeader (command : KlipCommand) : List UInt8 := klipPacket command.code []

/-- The magic, read from its two bytes. -/
theorem magic_iff {a b : UInt8} : ofLe16 a b = klipprotoMagic ↔ a = 0x4C ∧ b = 0x4B := by
  have hmagic : klipprotoMagic = ofLe16 0x4C 0x4B := rfl
  rw [hmagic, ofLe16_inj]

/-! ## The host's codec -/

/-- A packet on the host. -/
structure KlipPacket where
  command : UInt8
  payload : List UInt8
  deriving DecidableEq

namespace KlipPacket

/-- `KlipPacket.encode`; `none` where `struct.pack` raises, because the length
does not fit its byte. -/
def encode (p : KlipPacket) : Option (List UInt8) :=
  if p.payload.length ≤ 255 then some (klipPacket p.command p.payload) else none

/-- `KlipPacket.decode`.  The payload slice is short when the data are. -/
def decode : List UInt8 → Option KlipPacket
  | m0 :: m1 :: cmd :: length :: rest =>
      if ofLe16 m0 m1 ≠ klipprotoMagic then none
      else
        let payload := rest.take length.toNat
        if payload.length < length.toNat then none else some ⟨cmd, payload⟩
  | _ => none

/-- What `encode` writes, `decode` reads back, whatever follows it. -/
theorem decode_klipPacket (command : UInt8) (payload rest : List UInt8)
    (h : payload.length ≤ 255) :
    decode (klipPacket command payload ++ rest) = some ⟨command, payload⟩ := by
  have hmagic : ofLe16 0x4C 0x4B = klipprotoMagic := rfl
  simp [klipPacket_eq, decode, toNat_byte h, hmagic]

/-- The bytes of a packet whose length fits its byte. -/
theorem encode_eq {p : KlipPacket} (h : p.payload.length ≤ 255) :
    p.encode = some (klipPacket p.command p.payload) := by
  rw [encode, if_pos h]

end KlipPacket

/-! ## Frames -/

/-- What the serial link carries, either way: a node id and a packet. -/
structure Frame where
  nodeId : UInt8
  packet : KlipPacket
  deriving DecidableEq

/-- The bytes of a frame. -/
def Frame.bytes (f : Frame) : List UInt8 :=
  f.nodeId :: klipPacket f.packet.command f.packet.payload

/-- The bytes of frames one after another. -/
def frameStream (fs : List Frame) : List UInt8 := (fs.map Frame.bytes).flatten

@[simp] theorem frameStream_nil : frameStream [] = [] := rfl

@[simp] theorem frameStream_cons (f : Frame) (fs : List Frame) :
    frameStream (f :: fs) = f.bytes ++ frameStream fs := rfl

@[simp] theorem frameStream_append (fs gs : List Frame) :
    frameStream (fs ++ gs) = frameStream fs ++ frameStream gs := by
  simp [frameStream]

@[simp] theorem Frame.length_bytes (f : Frame) : f.bytes.length = 5 + f.packet.payload.length := by
  rw [Frame.bytes, List.length_cons, length_klipPacket]
  omega

theorem Frame.bytes_eq (f : Frame) :
    f.bytes = f.nodeId :: 0x4C :: 0x4B :: f.packet.command ::
      UInt8.ofNat f.packet.payload.length :: f.packet.payload := rfl

theorem Frame.bytes_ne_nil (f : Frame) : f.bytes ≠ [] := by
  rw [Frame.bytes_eq]
  exact List.cons_ne_nil _ _

theorem frameStream_eq_nil {fs : List Frame} (h : frameStream fs = []) : fs = [] := by
  cases fs with
  | nil => rfl
  | cons f fs => exact absurd (List.append_eq_nil_iff.mp h).1 f.bytes_ne_nil

/-- The beginning of one of the frames, but not all of it. -/
def FramePart (fs : List Frame) (part : List UInt8) : Prop :=
  part = [] ∨ ∃ f ∈ fs, ∃ more, part ++ more = f.bytes ∧ more ≠ []

/-- **The beginning of a stream of frames** is some whole frames and part of the
next one. -/
theorem exists_frames_part {fs : List Frame} :
    ∀ {data later : List UInt8}, data ++ later = frameStream fs →
      ∃ done rest part, fs = done ++ rest ∧ data = frameStream done ++ part ∧
        part ++ later = frameStream rest ∧ FramePart rest part ∧ (later = [] → rest = []) := by
  induction fs with
  | nil =>
      intro data later h
      obtain ⟨rfl, rfl⟩ := List.append_eq_nil_iff.mp h
      exact ⟨[], [], [], rfl, rfl, rfl, .inl rfl, fun _ => rfl⟩
  | cons f fs ih =>
      intro data later h
      rw [frameStream_cons, List.append_eq_append_iff] at h
      rcases h with ⟨more, hmore, hlater⟩ | ⟨data', rfl, hrest⟩
      · by_cases hnil : more = []
        · -- the data end where the frame does
          subst hnil
          rw [List.append_nil] at hmore
          rw [List.nil_append] at hlater
          refine ⟨[f], fs, [], rfl, ?_, hlater, .inl rfl, fun hempty => ?_⟩
          · simp [hmore]
          · rw [hempty] at hlater
            exact frameStream_eq_nil hlater.symm
        · refine ⟨[], f :: fs, data, rfl, rfl, ?_, ?_, fun hempty => ?_⟩
          · rw [hlater, ← List.append_assoc, ← hmore, frameStream_cons]
          · exact .inr ⟨f, List.mem_cons_self, more, hmore.symm, hnil⟩
          · rw [hempty] at hlater
            exact absurd (List.append_eq_nil_iff.mp hlater.symm).1 hnil
      · obtain ⟨done, rest, part, rfl, rfl, hpart, hcut, hend⟩ := ih hrest.symm
        refine ⟨f :: done, rest, part, rfl, ?_, hpart, hcut, hend⟩
        rw [frameStream_cons, List.append_assoc]

end Klippylink
