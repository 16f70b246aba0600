import Klippylink.Bridge.Zones
import Klippylink.Host.Builders
import Klippylink.Node.EmergencyOff

/-!
# Payloads, from the host's fields to the node's and back

Every payload is laid out twice: as a `pack` string in Python and as a packed struct in C.
A request that the host builds is carried out with the values the host was given, each in
the parameter it was meant for, and the values that the node reports are decoded as they
were.

## Main definitions

* `GattServer.heaterNotify` — what the heater task reports.
* `HandedOver` — the node has carried out a request with the host's values.
* `request_handedOver` — every request.
* `payloads_agree` — every request, and every report.
-/

namespace Klippylink

open Lib

/-- What `heater_task` reports. -/
def GattServer.heaterNotify (s : GattServer) (current target : UInt32) (duty : UInt8) :
    List NodeCall :=
  s.notify (klipPacket KlipCommand.heaterState.code (le32 current ++ le32 target ++ [duty]))

/-- The node has carried out a request: the server after it and the calls are those for the
values that the host was given. -/
inductive HandedOver {F : Type} (packFloat : F → Option UInt32) (build : NodeBuild)
    (s : GattServer) (out : Outcomes) : HostRequest F → GattServer × List NodeCall → Prop
  | neopixelSet (ledIdx r g b : UInt8) :
      HandedOver packFloat build s out (.neopixelSet ledIdx.toNat r.toNat g.toNat b.toNat)
        (s, [.neopixelSet 0 ledIdx r g b])
  | neopixelSetAll (r g b : UInt8) :
      HandedOver packFloat build s out (.neopixelSetAll r.toNat g.toNat b.toNat)
        (s, [.neopixelSetAll 0 r g b])
  | neopixelSetRange (start count r g b : UInt8) :
      HandedOver packFloat build s out
        (.neopixelSetRange start.toNat count.toNat r.toNat g.toNat b.toNat)
        (s, [.neopixelSetRange 0 start count r g b])
  | ledZoneSet {body : LedZoneBody} {zoneId : UInt8} {cfg : LedZoneCfg} :
      Packs body zoneId cfg →
      HandedOver packFloat build s out (.ledZoneSet body) (s, [.ledEffectsSetZone zoneId cfg])
  | ledZoneClr (zoneId : UInt8) :
      HandedOver packFloat build s out (.ledZoneClr zoneId.toNat)
        (s, [.ledEffectsClearZone zoneId])
  /-- The endstop is read by its index, and reported with it. -/
  | endstopQuery (idx : UInt8) :
      HandedOver packFloat build s out (.endstopQuery idx.toNat)
        (s, s.endstopChangeCb idx (out.endstopRead idx))
  | otaBegin (size crc32 : UInt32) :
      HandedOver packFloat build s out (.otaBegin size.toNat crc32.toNat)
        (s.afterOta (Klippylink.otaBegin s.ota size crc32 true out.begin))
  /-- Only the full variant has a heater. -/
  | heaterSet {targetTemp kp ki kd : F} {target p i d : UInt32} :
      packFloat targetTemp = some target → packFloat kp = some p → packFloat ki = some i →
      packFloat kd = some d →
      HandedOver packFloat build s out (.heaterSet targetTemp kp ki kd)
        (s, if build.variantFull then [.heaterSetTarget target, .heaterSetPid p i d] else [])

/-! ### The packets that are built -/

/-- A payload of bytes is built from numbers of one byte. -/
theorem makeBytes_eq_some {command : KlipCommand} {ns : List ℤ} {pkt : KlipPacket}
    (h : makeBytes command ns = some pkt) :
    ∃ bs : List UInt8, (bs.map fun b => (b.toNat : ℤ)) = ns ∧ pkt = ⟨command.code, bs⟩ := by
  obtain ⟨bs, hbs, rfl⟩ := Option.map_eq_some_iff.mp h
  exact ⟨bs, (mapM_packByte hbs).symm, rfl⟩

theorem makeOtaBegin_eq_some {size crc32 : ℤ} {pkt : KlipPacket}
    (h : makeOtaBegin size crc32 = some pkt) :
    ∃ s c : UInt32, size = s.toNat ∧ crc32 = c.toNat ∧ pkt = beginPacket s c := by
  obtain ⟨words, hwords, rfl⟩ := Option.map_eq_some_iff.mp h
  rw [List.mapM_cons] at hwords
  obtain ⟨s, hs, hwords⟩ := Option.bind_eq_some_iff.mp hwords
  rw [List.mapM_cons] at hwords
  obtain ⟨tail, htail, hret⟩ := Option.bind_eq_some_iff.mp hwords
  obtain ⟨c, hc, htail⟩ := Option.bind_eq_some_iff.mp htail
  cases htail
  cases hret
  exact ⟨s, c, packWord_eq_some hs, packWord_eq_some hc, by simp [beginPacket]⟩

theorem makeHeaterSet_eq_some {F : Type} {packFloat : F → Option UInt32}
    {targetTemp kp ki kd : F} {pkt : KlipPacket}
    (h : makeHeaterSet packFloat targetTemp kp ki kd = some pkt) :
    ∃ target p i d, packFloat targetTemp = some target ∧ packFloat kp = some p ∧
      packFloat ki = some i ∧ packFloat kd = some d ∧ pkt = heaterSetPacket target p i d := by
  obtain ⟨words, hwords, rfl⟩ := Option.map_eq_some_iff.mp h
  simp only [List.mapM_cons, List.mapM_nil, Option.bind_eq_bind, Option.bind_eq_some_iff,
    Option.pure_def, Option.some.injEq] at hwords
  obtain ⟨target, htarget, _, ⟨p, hp, _, ⟨i, hi, _, ⟨d, hd, _, rfl, rfl⟩, rfl⟩, rfl⟩, rfl⟩ := hwords
  exact ⟨target, p, i, d, htarget, hp, hi, hd, by simp [heaterSetPacket]⟩

/-! ### What the node makes of them -/

section Node

variable (s : GattServer) (build : NodeBuild) (beyond : ℕ → UInt8) (out : Outcomes)

theorem writeEvt_neopixelSet (ledIdx r g b : UInt8) :
    s.writeEvt build (KlipPacket.written ⟨KlipCommand.neopixelSet.code, [ledIdx, r, g, b]⟩
      beyond) out = (s, [.neopixelSet 0 ledIdx r g b]) := by
  obtain ⟨hmagic, hcommand, hlength⟩ :=
    header_payload beyond .neopixelSet [ledIdx, r, g, b] (by simp)
  rw [writeEvt_packet, GattServer.dispatchPacket, hmagic, hcommand, hlength]
  rfl

theorem writeEvt_neopixelSetAll (r g b : UInt8) :
    s.writeEvt build (KlipPacket.written ⟨KlipCommand.neopixelSetAll.code, [r, g, b]⟩
      beyond) out = (s, [.neopixelSetAll 0 r g b]) := by
  obtain ⟨hmagic, hcommand, hlength⟩ :=
    header_payload beyond .neopixelSetAll [r, g, b] (by simp)
  rw [writeEvt_packet, GattServer.dispatchPacket, hmagic, hcommand, hlength]
  rfl

theorem writeEvt_neopixelSetRange (start count r g b : UInt8) :
    s.writeEvt build (KlipPacket.written
      ⟨KlipCommand.neopixelSetRange.code, [start, count, r, g, b]⟩ beyond) out =
        (s, [.neopixelSetRange 0 start count r g b]) := by
  obtain ⟨hmagic, hcommand, hlength⟩ :=
    header_payload beyond .neopixelSetRange [start, count, r, g, b] (by simp)
  rw [writeEvt_packet, GattServer.dispatchPacket, hmagic, hcommand, hlength]
  rfl

theorem writeEvt_endstopQuery (idx : UInt8) :
    s.writeEvt build (KlipPacket.written ⟨KlipCommand.endstopQuery.code, [idx]⟩ beyond) out =
      (s, s.endstopChangeCb idx (out.endstopRead idx)) := by
  obtain ⟨hmagic, hcommand, hlength⟩ := header_payload beyond .endstopQuery [idx] (by simp)
  rw [writeEvt_packet, GattServer.dispatchPacket, hmagic, hcommand, hlength]
  rfl

end Node

/-! ## The agreement -/

/-- **Every request is handed over.**  The packet that the host builds is encoded, and the
node that gets it calls the driver with the values the host was given. -/
theorem request_handedOver {F : Type} {packFloat : F → Option UInt32} {req : HostRequest F}
    {pkt : KlipPacket} (h : req.packet packFloat = some pkt) (build : NodeBuild)
    (s : GattServer) (beyond : ℕ → UInt8) (out : Outcomes) :
    pkt.encode = some pkt.bytes ∧
      HandedOver packFloat build s out req (s.writeEvt build (pkt.written beyond) out) := by
  cases req with
  | neopixelSet ledIdx r g b =>
      obtain ⟨bs, hbs, rfl⟩ := makeBytes_eq_some h
      simp only [List.map_eq_cons_iff, List.map_eq_nil_iff] at hbs
      obtain ⟨ledIdx, _, rfl, rfl, r, _, rfl, rfl, g, _, rfl, rfl, b, _, rfl, rfl, rfl⟩ := hbs
      rw [writeEvt_neopixelSet]
      exact ⟨rfl, .neopixelSet ledIdx r g b⟩
  | neopixelSetAll r g b =>
      obtain ⟨bs, hbs, rfl⟩ := makeBytes_eq_some h
      simp only [List.map_eq_cons_iff, List.map_eq_nil_iff] at hbs
      obtain ⟨r, _, rfl, rfl, g, _, rfl, rfl, b, _, rfl, rfl, rfl⟩ := hbs
      rw [writeEvt_neopixelSetAll]
      exact ⟨rfl, .neopixelSetAll r g b⟩
  | neopixelSetRange start count r g b =>
      obtain ⟨bs, hbs, rfl⟩ := makeBytes_eq_some h
      simp only [List.map_eq_cons_iff, List.map_eq_nil_iff] at hbs
      obtain ⟨start, _, rfl, rfl, count, _, rfl, rfl, r, _, rfl, rfl, g, _, rfl, rfl, b, _, rfl,
        rfl, rfl⟩ := hbs
      rw [writeEvt_neopixelSetRange]
      exact ⟨rfl, .neopixelSetRange start count r g b⟩
  | ledZoneSet body =>
      obtain ⟨zoneId, cfg, hpacks, rfl⟩ := packet_setLedZone_ok (toOption_eq_some.mp h)
      rw [writeEvt_zoneSetPacket]
      exact ⟨rfl, .ledZoneSet hpacks⟩
  | ledZoneClr zoneId =>
      obtain ⟨id, rfl, rfl⟩ := packet_clearLedZone_ok (toOption_eq_some.mp h)
      rw [writeEvt_zoneClrPacket]
      exact ⟨rfl, .ledZoneClr id⟩
  | endstopQuery endstopIdx =>
      obtain ⟨bs, hbs, rfl⟩ := makeBytes_eq_some h
      simp only [List.map_eq_cons_iff, List.map_eq_nil_iff] at hbs
      obtain ⟨idx, _, rfl, rfl, rfl⟩ := hbs
      rw [writeEvt_endstopQuery]
      exact ⟨rfl, .endstopQuery idx⟩
  | otaBegin size crc32 =>
      obtain ⟨size, crc32, rfl, rfl, rfl⟩ := makeOtaBegin_eq_some h
      rw [writeEvt_beginPacket]
      exact ⟨rfl, .otaBegin size crc32⟩
  | heaterSet targetTemp kp ki kd =>
      obtain ⟨target, p, i, d, htarget, hp, hi, hd, rfl⟩ := makeHeaterSet_eq_some h
      rw [writeEvt_heaterSetPacket]
      exact ⟨rfl, .heaterSet htarget hp hi hd⟩

/-- A packet as it is notified is decoded as itself. -/
theorem decode_bytes {p : KlipPacket} (h : p.payload.length ≤ 255) :
    KlipPacket.decode p.bytes = some p := by
  have hdecode := KlipPacket.decode_klipPacket p.command p.payload [] h
  rwa [List.append_nil] at hdecode

/-- **Host and node agree on every payload.**  A request that the host builds is encoded and
carried out with the host's values; and what the host decodes from the packets for an
endstop, a status of the updater and the heater is what the node wrote. -/
theorem payloads_agree {F : Type} (packFloat : F → Option UInt32) (build : NodeBuild)
    (s : GattServer) (beyond : ℕ → UInt8) (out : Outcomes) :
    (∀ (req : HostRequest F) pkt, req.packet packFloat = some pkt →
        pkt.encode = some pkt.bytes ∧
          HandedOver packFloat build s out req (s.writeEvt build (pkt.written beyond) out)) ∧
      (∀ idx triggered, ∃ p, s.endstopChangeCb idx triggered = s.notify p.bytes ∧
        KlipPacket.decode p.bytes = some p ∧ p.command = KlipCommand.endstopState.code ∧
        decodeEndstopState p.payload = some (idx, triggered)) ∧
      (∀ status, ∃ p, s.otaCb status = s.notify p.bytes ∧
        KlipPacket.decode p.bytes = some p ∧ p.command = KlipCommand.otaStatus.code ∧
        decodeOtaStatus p.payload = some status) ∧
      ∀ current target duty, ∃ p, s.heaterNotify current target duty = s.notify p.bytes ∧
        KlipPacket.decode p.bytes = some p ∧ p.command = KlipCommand.heaterState.code ∧
        decodeHeaterState p.payload = some (current, target, duty) := by
  refine ⟨fun _ _ h => request_handedOver h build s beyond out, ?_, ?_, ?_⟩
  · intro idx triggered
    refine ⟨⟨_, _⟩, rfl, decode_bytes (by simp), rfl, ?_⟩
    cases triggered <;> rfl
  · intro status
    exact ⟨⟨_, _⟩, rfl, decode_bytes (by simp), rfl, rfl⟩
  · intro current target duty
    exact ⟨⟨_, _⟩, rfl, decode_bytes (by simp), rfl, decodeHeaterState_le32 current target duty⟩

/-- The request for pixel 3 in red, on a node that has just started. -/
theorem payloads_agree_neopixel :
    KlipPacket.encode ⟨0x50, [3, 255, 0, 0]⟩ = some (KlipPacket.bytes ⟨0x50, [3, 255, 0, 0]⟩) ∧
      HandedOver (fun x : UInt32 => some x) ⟨true, none, fun c _ => c⟩ GattServer.start noOutcomes
        (.neopixelSet 3 255 0 0)
        (GattServer.start.writeEvt ⟨true, none, fun c _ => c⟩
          (KlipPacket.written ⟨0x50, [3, 255, 0, 0]⟩ fun _ => 0) noOutcomes) :=
  (payloads_agree _ _ _ _ _).1 (.neopixelSet 3 255 0 0) ⟨0x50, [3, 255, 0, 0]⟩ rfl

end Klippylink
