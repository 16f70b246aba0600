import Klippylink.Node.GattServer
import Mathlib.Data.List.GetD

/-!
# The node and its flash through one update

The flash keeps what the updater writes after a begin, and the partition selected
for booting.  While every call of ESP-IDF succeeds and the partition reads back what
was written, the three kinds of packets of an update take the node from listening to
receiving, through every chunk, and to a committed image.

## Main definitions

* `Flash`, `NodeDevice` — the flash, and the node with it.
* `NodeDevice.write` — a write to the command characteristic.
* `Outcomes.Good` — every call succeeds.
* `Listening`, `Receiving`, `Committed` — before, during and after an update.
-/

namespace Klippylink

open Lib

/-- The partition that was begun last, the bytes written to it since, and the
partition selected for booting. -/
structure Flash where
  part : Option Partition
  written : List UInt8
  boot : Option Partition
  deriving DecidableEq

/-- The flash after a call of the updater. -/
def Flash.after (f : Flash) : EspCall → Flash
  | .otaBegin part => { f with part := some part, written := [] }
  | .otaWrite _ data => { f with written := f.written ++ data }
  | c => { f with boot := c.selects f.boot }

/-- The flash after a call of the node. -/
def Flash.perform (f : Flash) : NodeCall → Flash
  | .updater c => f.after c
  | _ => f

/-- The value that a call notifies. -/
def NodeCall.indicated : NodeCall → Option (List UInt8)
  | .sendIndicate _ value => some value
  | _ => none

/-- The node, its flash, and every value it has notified. -/
structure NodeDevice where
  server : GattServer
  flash : Flash
  notified : List (List UInt8)

/-- A write to the command characteristic, and the values notified on it. -/
def NodeDevice.write (build : NodeBuild) (d : NodeDevice) (w : Written) (out : Outcomes) :
    NodeDevice × List (List UInt8) :=
  let r := d.server.writeEvt build w out
  let values := r.2.filterMap NodeCall.indicated
  (⟨r.1, r.2.foldl Flash.perform d.flash, d.notified ++ values⟩, values)

/-- Nothing is asked of the drivers or the flash. -/
def noOutcomes : Outcomes :=
  ⟨fun _ => false, ⟨none, espOk, 0⟩, espOk, ⟨false, fun _ => 0, espOk, espOk⟩⟩

/-- Every call of ESP-IDF and `malloc` succeeds, and the partition reads back what
was written. -/
structure Outcomes.Good (out : Outcomes) (flash : Flash) : Prop where
  part : out.begin.part.isSome = true
  begin : out.begin.ret = espOk
  write : out.writeRet = espOk
  malloc : out.finish.mallocOk = true
  finish : out.finish.endRet = espOk
  setBoot : out.finish.setBootRet = espOk
  read : (List.range flash.written.length).map out.finish.read = flash.written

instance (out : Outcomes) (flash : Flash) : Decidable (out.Good flash) :=
  decidable_of_iff (out.begin.part.isSome = true ∧ out.begin.ret = espOk ∧
      out.writeRet = espOk ∧ out.finish.mallocOk = true ∧ out.finish.endRet = espOk ∧
      out.finish.setBootRet = espOk ∧
      (List.range flash.written.length).map out.finish.read = flash.written)
    ⟨fun ⟨h₁, h₂, h₃, h₄, h₅, h₆, h₇⟩ => ⟨h₁, h₂, h₃, h₄, h₅, h₆, h₇⟩,
      fun h => ⟨h.part, h.begin, h.write, h.malloc, h.finish, h.setBoot, h.read⟩⟩

/-! ### The packets of an update -/

/-- OTA_BEGIN. -/
def beginPacket (size crc : UInt32) : KlipPacket :=
  ⟨KlipCommand.otaBegin.code, le32 size ++ le32 crc⟩

/-- OTA_DATA. -/
def dataPacket (chunk : List UInt8) : KlipPacket := ⟨KlipCommand.otaData.code, chunk⟩

/-- OTA_END. -/
def endPacket : KlipPacket := ⟨KlipCommand.otaEnd.code, []⟩

/-- OTA_STATUS. -/
def statusPacket (status : UInt8) : KlipPacket := ⟨KlipCommand.otaStatus.code, [status]⟩

/-- A packet on the air. -/
def KlipPacket.bytes (p : KlipPacket) : List UInt8 := klipPacket p.command p.payload

/-- A packet as it is written, with whatever is behind it. -/
abbrev KlipPacket.written (p : KlipPacket) (beyond : ℕ → UInt8) : Written := ⟨p.bytes, beyond⟩

/-- The header of a packet as it is written. -/
theorem header_written (p : KlipPacket) (c : KlipCommand) (hc : p.command = c.code)
    (beyond : ℕ → UInt8) :
    ofLe16 ((p.written beyond).byte 0) ((p.written beyond).byte 1) = klipprotoMagic ∧
      KlipCommand.ofCode ((p.written beyond).byte 2) = some c ∧
      (p.written beyond).byte 3 = UInt8.ofNat p.payload.length := by
  have hcommand : (p.written beyond).byte 2 = p.command := rfl
  have hmagic : ofLe16 0x4C 0x4B = klipprotoMagic := rfl
  rw [hcommand, hc]
  exact ⟨hmagic, KlipCommand.ofCode_code c, rfl⟩

/-- The header of a packet with this command and payload, as the switch sees it. -/
theorem header_payload (beyond : ℕ → UInt8) (command : KlipCommand) (payload : List UInt8)
    (h : payload.length ≤ 255) :
    ofLe16 ((KlipPacket.written ⟨command.code, payload⟩ beyond).byte 0)
        ((KlipPacket.written ⟨command.code, payload⟩ beyond).byte 1) = klipprotoMagic ∧
      KlipCommand.ofCode ((KlipPacket.written ⟨command.code, payload⟩ beyond).byte 2) =
        some command ∧
      ((KlipPacket.written ⟨command.code, payload⟩ beyond).byte 3).toNat = payload.length := by
  obtain ⟨hmagic, hcommand, hbyte⟩ := header_written ⟨command.code, payload⟩ command rfl beyond
  exact ⟨hmagic, hcommand, by rw [hbyte, toNat_byte h]⟩

theorem byte_written (p : KlipPacket) (beyond : ℕ → UInt8) (i : ℕ) :
    (p.written beyond).byte (4 + i) = p.payload.getD i (beyond (4 + i)) := by
  simp only [Written.byte, KlipPacket.bytes, klipPacket_eq, Nat.add_comm 4 i]
  rfl

/-- A word in the payload is read as it was written. -/
theorem word_written {p : KlipPacket} {x : UInt32} (beyond : ℕ → UInt8) (front rest : List UInt8)
    (h : p.payload = front ++ (le32 x ++ rest)) :
    (p.written beyond).word (4 + front.length) = x := by
  have hbyte : ∀ k, (p.written beyond).byte (4 + front.length + k) =
      (le32 x ++ rest).getD k (beyond (4 + (front.length + k))) := by
    intro k
    rw [Nat.add_assoc, byte_written, h, List.getD_append_right _ _ _ _ (Nat.le_add_right _ _),
      Nat.add_sub_cancel_left]
  have h0 := hbyte 0
  rw [Nat.add_zero] at h0
  rw [Written.word, h0, hbyte 1, hbyte 2, hbyte 3]
  simp only [le32, List.cons_append, List.getD_cons_zero, List.getD_cons_succ]
  exact ofLe32_le32 x

/-- A part of the payload is read as it was written. -/
theorem bytes_written_middle {p : KlipPacket} (beyond : ℕ → UInt8) (front middle rest : List UInt8)
    (h : p.payload = front ++ (middle ++ rest)) :
    (p.written beyond).bytes (4 + front.length) middle.length = middle := by
  apply List.ext_getElem
  · simp [Written.bytes]
  · intro i hi hi'
    simp only [Written.bytes, List.getElem_map, List.getElem_range]
    rw [Nat.add_assoc, byte_written, h, List.getD_append_right _ _ _ _ (Nat.le_add_right _ _),
      Nat.add_sub_cancel_left, List.getD_append _ _ _ _ hi', List.getD_eq_getElem?_getD,
      List.getElem?_eq_getElem hi', Option.getD_some]

/-- The payload of a packet is read as it was written. -/
theorem bytes_written (p : KlipPacket) (beyond : ℕ → UInt8) :
    (p.written beyond).bytes 4 p.payload.length = p.payload :=
  bytes_written_middle beyond [] p.payload [] (List.append_nil p.payload).symm

/-- One byte of a payload is read as it was written. -/
theorem byte_written_middle {p : KlipPacket} (beyond : ℕ → UInt8) (front rest : List UInt8)
    (b : UInt8) (h : p.payload = front ++ (b :: rest)) :
    (p.written beyond).byte (4 + front.length) = b := by
  rw [byte_written, h, List.getD_append_right _ _ _ _ (Nat.le_refl _), Nat.sub_self]
  rfl

section Dispatch

variable (build : NodeBuild) (s : GattServer) (beyond : ℕ → UInt8) (out : Outcomes)

/-- A packet goes to the switch. -/
theorem writeEvt_packet (p : KlipPacket) :
    s.writeEvt build (p.written beyond) out = s.dispatchPacket build (p.written beyond) out := by
  have hlen : klipHeaderSize ≤ (p.written beyond).value.length := by
    simp only [KlipPacket.bytes, length_klipPacket]
    exact Nat.le_add_right 4 _
  rw [GattServer.writeEvt, if_pos hlen]

theorem writeEvt_beginPacket (size crc : UInt32) :
    s.writeEvt build ((beginPacket size crc).written beyond) out =
      s.afterOta (otaBegin s.ota size crc true out.begin) := by
  obtain ⟨hmagic, hcommand, hbyte⟩ := header_written (beginPacket size crc) .otaBegin rfl beyond
  have hlength : (UInt8.ofNat (beginPacket size crc).payload.length).toNat = 8 := rfl
  have hword4 : ((beginPacket size crc).written beyond).word 4 = size :=
    word_written beyond [] (le32 crc) rfl
  have hword8 : ((beginPacket size crc).written beyond).word 8 = crc :=
    word_written beyond (le32 size) [] (by simp [beginPacket])
  rw [writeEvt_packet, GattServer.dispatchPacket, hmagic, hcommand, hbyte, hlength, hword4, hword8]
  simp only [ne_eq, not_true_eq_false, if_false, Nat.le_refl, if_true]

theorem writeEvt_dataPacket {chunk : List UInt8} (h : chunk.length ≤ 255) :
    s.writeEvt build ((dataPacket chunk).written beyond) out =
      s.afterOta (otaWrite s.ota chunk out.writeRet) := by
  obtain ⟨hmagic, hcommand, hbyte⟩ := header_written (dataPacket chunk) .otaData rfl beyond
  have hlength : (UInt8.ofNat (dataPacket chunk).payload.length).toNat =
    (dataPacket chunk).payload.length := toNat_byte h
  rw [writeEvt_packet, GattServer.dispatchPacket, hmagic, hcommand, hbyte, hlength]
  simp only [ne_eq, not_true_eq_false, if_false, bytes_written]
  rfl

theorem writeEvt_endPacket :
    s.writeEvt build (endPacket.written beyond) out =
      s.afterOta (otaEnd build.crc s.ota out.finish) := by
  obtain ⟨hmagic, hcommand, -⟩ := header_written endPacket .otaEnd rfl beyond
  rw [writeEvt_packet, GattServer.dispatchPacket, hmagic, hcommand]
  simp only [ne_eq, not_true_eq_false, if_false]

end Dispatch

/-! ### The node through an update -/

/-- Connected, with notifications enabled. -/
structure Listening (s : GattServer) : Prop where
  connected : s.connId ≠ 0xFFFF
  enabled : s.notifyEnabled = true

/-- The node has begun the update `x` and reported that. -/
structure Receiving (d : NodeDevice) (x : Session) : Prop where
  listening : Listening d.server
  cb : d.server.ota.cb = true
  part : d.flash.part.isSome = true
  samePart : d.server.ota.part = d.flash.part
  tracks : d.server.ota.Tracks (some x)
  written : d.flash.written = x.accepted
  notified : d.notified = [(statusPacket klipOtaInProgress).bytes]

/-- The node has written the image, selected its partition for booting and reported
success. -/
structure Committed (d : NodeDevice) (image : List UInt8) : Prop where
  written : d.flash.written = image
  part : d.flash.part.isSome = true
  boot : d.flash.boot = d.flash.part
  notified : d.notified =
    [(statusPacket klipOtaInProgress).bytes, (statusPacket klipOtaOk).bytes]

theorem Listening.notify {s : GattServer} (h : Listening s) (data : List UInt8) :
    s.notify data = [.sendIndicate s.connId data] := by
  rw [GattServer.notify, if_neg]
  rintro (hconn | henabled)
  · exact h.connected hconn
  · rw [h.enabled] at henabled
    cases henabled

/-- The value that a call of the updater has notified. -/
def EspCall.reported : EspCall → Option (List UInt8)
  | .statusCb status => some (statusPacket status).bytes
  | _ => none

section Carry

variable {s : GattServer} (h : Listening s)
include h

theorem Listening.carry_statusCb (status : UInt8) :
    s.carry (.statusCb status) = [.sendIndicate s.connId (statusPacket status).bytes] :=
  h.notify _

theorem Listening.foldl_carry (calls : List EspCall) (f : Flash) :
    (calls.flatMap s.carry).foldl Flash.perform f = calls.foldl Flash.after f := by
  induction calls generalizing f with
  | nil => rfl
  | cons c calls ih =>
      rw [List.flatMap_cons, List.foldl_append, ih, List.foldl_cons]
      cases c with
      | statusCb status => rw [h.carry_statusCb]; rfl
      | _ => rfl

theorem Listening.filterMap_carry (calls : List EspCall) :
    (calls.flatMap s.carry).filterMap NodeCall.indicated = calls.filterMap EspCall.reported := by
  rw [List.filterMap_flatMap]
  induction calls with
  | nil => rfl
  | cons c calls ih =>
      rw [List.flatMap_cons, ih]
      cases c with
      | statusCb status => rw [h.carry_statusCb]; rfl
      | _ => rfl

end Carry

variable {build : NodeBuild} {out : Outcomes} {d : NodeDevice}

/-- A write that the updater carries out, while notifications are enabled. -/
theorem Listening.write (h : Listening d.server) {w : Written} {r : OtaReturn}
    (hr : d.server.writeEvt build w out = d.server.afterOta r) :
    d.write build w out =
      (⟨if .restart ∈ r.calls then GattServer.start else { d.server with ota := r.state },
        r.calls.foldl Flash.after d.flash, d.notified ++ r.calls.filterMap EspCall.reported⟩,
        r.calls.filterMap EspCall.reported) := by
  simp only [NodeDevice.write, hr, GattServer.afterOta, h.foldl_carry, h.filterMap_carry]

/-- A begin that succeeds. -/
theorem otaBegin_good (s : OtaState) (size crc : UInt32) {out : BeginOutcome} {part : Partition}
    (hpart : out.part = some part) (hret : out.ret = espOk) :
    otaBegin s size crc true out =
      ⟨⟨out.handle, some part, crc, 0, size, true, true⟩,
        (otaAbort s).2 ++ [.otaBegin part, .statusCb klipOtaInProgress], espOk⟩ := by
  simp only [otaBegin, hpart, hret, ne_eq, not_true_eq_false, if_false]
  rfl

/-- **OTA_BEGIN** starts an update, whatever was active before. -/
theorem Listening.begin (h : Listening d.server) (hnone : d.notified = [])
    (hgood : out.Good d.flash) (size crc : UInt32) (beyond : ℕ → UInt8) :
    ∃ d', d.write build ((beginPacket size crc).written beyond) out =
        (d', [(statusPacket klipOtaInProgress).bytes]) ∧ Receiving d' ⟨size, crc, []⟩ := by
  obtain ⟨part, hpart⟩ := Option.isSome_iff_exists.mp hgood.part
  have hr := writeEvt_beginPacket build d.server beyond out size crc
  rw [otaBegin_good _ _ _ hpart hgood.begin] at hr
  rcases otaAbort_calls d.server.ota with hcalls | hcalls
  all_goals
    rw [hcalls] at hr
    refine ⟨_, h.write hr, ?_⟩
    rw [if_neg (by simp), hnone]
    exact ⟨⟨h.connected, h.enabled⟩, rfl, rfl, rfl, ⟨rfl, rfl, rfl, rfl⟩, rfl, rfl⟩

/-- **OTA_DATA** is written after what the update has. -/
theorem Receiving.data {x : Session} (h : Receiving d x) (hgood : out.Good d.flash)
    {chunk : List UInt8} (hchunk : chunk.length ≤ 255) (beyond : ℕ → UInt8) :
    ∃ d', d.write build ((dataPacket chunk).written beyond) out = (d', []) ∧
      Receiving d' { x with accepted := x.accepted ++ chunk } := by
  have hr := writeEvt_dataPacket build d.server beyond out hchunk
  have hactive : d.server.ota.active = true := h.tracks.1
  have hret : otaWrite d.server.ota chunk out.writeRet =
      ⟨{ d.server.ota with
        receivedBytes := d.server.ota.receivedBytes + UInt32.ofNat chunk.length },
        [.otaWrite d.server.ota.handle chunk], espOk⟩ := by
    rw [hgood.write, otaWrite, if_pos hactive, if_neg (by simp)]
  have htracks := OtaState.Tracks.perform h.tracks build.crc (.write chunk out.writeRet)
  simp only [OtaCall.perform, hret, Session.next, if_true, Option.map_some] at htracks
  rw [hret] at hr
  refine ⟨_, h.listening.write hr, ?_⟩
  rw [if_neg (by simp)]
  refine ⟨⟨h.listening.connected, h.listening.enabled⟩, h.cb, h.part, h.samePart, htracks, ?_, ?_⟩
  · simp only [List.foldl_cons, List.foldl_nil, Flash.after, h.written]
  · simp only [h.notified]
    rfl

/-- **OTA_END** commits an image whose checksum is the one announced. -/
theorem Receiving.finish (hcrc : Chainable build.crc) {x : Session} (h : Receiving d x)
    (hgood : out.Good d.flash) (hlen : x.accepted.length < UInt32.size)
    (himage : build.crc 0 x.accepted = x.crc32) (beyond : ℕ → UInt8) :
    ∃ d', d.write build (endPacket.written beyond) out =
        (d', [(statusPacket klipOtaOk).bytes]) ∧ Committed d' x.accepted := by
  have hr := writeEvt_endPacket build d.server beyond out
  obtain ⟨hactive, hexpected, -, hreceived⟩ := h.tracks
  have hcount : d.server.ota.receivedBytes.toNat = x.accepted.length := by
    rw [hreceived, UInt32.toNat_ofNat', Nat.mod_eq_of_lt hlen]
  have hread := hgood.read
  rw [h.written] at hread
  have hpass : ¬ (d.server.ota.expectedCrc ≠ 0 ∧
      readBackCrc build.crc d.server.ota.receivedBytes out.finish ≠ d.server.ota.expectedCrc) := by
    rw [readBackCrc_eq hcrc _ hgood.malloc, hcount, hread, hexpected, himage]
    exact fun hne => hne.2 rfl
  have hret : otaEnd build.crc d.server.ota out.finish =
      ⟨OtaState.start, [.otaEnd d.server.ota.handle, .setBootPartition d.server.ota.part espOk,
        .statusCb klipOtaOk, .restart], espOk⟩ := by
    rw [otaEnd, if_pos hactive, if_neg hpass, hgood.finish, hgood.setBoot, if_neg (by simp),
      if_neg (by simp), OtaState.report, if_pos h.cb]
    rfl
  rw [hret] at hr
  refine ⟨_, h.listening.write hr, h.written, h.part, h.samePart, ?_⟩
  · simp only [h.notified]
    rfl

end Klippylink
