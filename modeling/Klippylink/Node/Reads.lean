import Klippylink.Lib.Access
import Klippylink.Node.Restart

/-!
# What the node reads of a written value

The GATT server gets a pointer and a length.  It checks that there is a header, and from
there on goes by the length byte of the packet.  `dispatchAccess` is `dispatch_packet` with
each of its reads, at the offset it is made; `eval_writeAccess` says that it is the server's
function.

A packet that announces no more than has arrived is read within it.  Of the others, those
are harmless that are too short for their command, that ask for nothing but an answer, or
that find nothing to work on.

## Main definitions

* `GattServer.dispatchAccess`, `GattServer.writeAccess`, `GattServer.cccdAccess` — the
  handlers, read by read.
* `WriteSafe` — a write is read within its length, and a cut packet has no effect.
* `CutHarmless` — the cut packets that do no harm.
* `writeEvt_safe_iff` — the writes that are safe.
-/

namespace Klippylink

open Lib Lib.Access

/-! ## The handlers, read by read -/

namespace GattServer

/-- A case of the switch that looks at the length and, when it is not less than `n`, at the
payload. -/
def caseAccess (s : GattServer) (n : ℕ) (payload : Access (List NodeCall)) :
    Access (GattServer × List NodeCall) := do
  let length ← byte 3
  if n ≤ length.toNat then
    let calls ← payload
    return (s, calls)
  else return (s, [])

/-- `KLIPCMD_NEOPIXEL_SET`. -/
def neopixelSetAccess : Access (List NodeCall) := do
  let ledIdx ← byte 4
  let r ← byte 5
  let g ← byte 6
  let b ← byte 7
  return [.neopixelSet 0 ledIdx r g b]

/-- `KLIPCMD_NEOPIXEL_SET_ALL`. -/
def neopixelSetAllAccess : Access (List NodeCall) := do
  let r ← byte 4
  let g ← byte 5
  let b ← byte 6
  return [.neopixelSetAll 0 r g b]

/-- `KLIPCMD_NEOPIXEL_SET_RANGE`. -/
def neopixelSetRangeAccess : Access (List NodeCall) := do
  let start ← byte 4
  let count ← byte 5
  let r ← byte 6
  let g ← byte 7
  let b ← byte 8
  return [.neopixelSetRange 0 start count r g b]

/-- `KLIPCMD_LED_ZONE_SET`. -/
def ledZoneSetAccess : Access (List NodeCall) := do
  let zoneId ← byte 4
  let stripIdx ← byte 5
  let start ← byte 6
  let count ← byte 7
  let effect ← byte 8
  let r ← byte 9
  let g ← byte 10
  let b ← byte 11
  let r2 ← byte 12
  let g2 ← byte 13
  let b2 ← byte 14
  let brightness ← byte 15
  let speed ← byte 16
  return [.ledEffectsSetZone zoneId
    ⟨stripIdx, start, count, effect, (r, g, b), (r2, g2, b2), brightness, speed⟩]

/-- `KLIPCMD_LED_ZONE_CLR`. -/
def ledZoneClrAccess : Access (List NodeCall) := do
  let zoneId ← byte 4
  return [.ledEffectsClearZone zoneId]

/-- `KLIPCMD_ENDSTOP_QUERY`. -/
def endstopQueryAccess (s : GattServer) (out : Outcomes) : Access (List NodeCall) := do
  let idx ← byte 4
  return s.endstopChangeCb idx (out.endstopRead idx)

/-- `KLIPCMD_HEATER_SET`. -/
def heaterSetAccess : Access (List NodeCall) := do
  let target ← word 4
  let kp ← word 8
  let ki ← word 12
  let kd ← word 16
  return [.heaterSetTarget target, .heaterSetPid kp ki kd]

/-- `KLIPCMD_OTA_BEGIN`. -/
def otaBeginAccess (s : GattServer) (out : Outcomes) : Access (GattServer × List NodeCall) := do
  let length ← byte 3
  if 8 ≤ length.toNat then
    let size ← word 4
    let crc32 ← word 8
    return s.afterOta (Klippylink.otaBegin s.ota size crc32 true out.begin)
  else return (s, [])

/-- `KLIPCMD_OTA_DATA`; the slice that `ota_write` is handed counts as read. -/
def otaDataAccess (s : GattServer) (out : Outcomes) : Access (GattServer × List NodeCall) := do
  let length ← byte 3
  let data ← bytes 4 length.toNat
  return s.afterOta (otaWrite s.ota data out.writeRet)

/-- `KLIPCMD_WIFI_ENABLE`. -/
def wifiEnableAccess : Access (List NodeCall) := do
  let length ← byte 3
  if length.toNat < 2 then return []
  else
    let ssidLen ← byte 4
    if length.toNat < 1 + ssidLen.toNat + 1 then return []
    else
      let passLen ← byte (4 + (1 + ssidLen.toNat))
      if length.toNat < 1 + ssidLen.toNat + 1 + passLen.toNat then return []
      else
        let ssid ← bytes 5 (min ssidLen.toNat 32)
        let pass ← bytes (6 + ssidLen.toNat) (min passLen.toNat 64)
        return [.wifiNodeEnable (CStr.copy (Nat.succ_pos 32) ssid)
          (CStr.copy (Nat.succ_pos 64) pass)]

/-- The switch of `dispatch_packet`. -/
def switchAccess (build : NodeBuild) (s : GattServer) (out : Outcomes) :
    Option KlipCommand → Access (GattServer × List NodeCall)
  | some .ping => return (s, s.notify (bareHeader .pong))
  | some .neopixelSet => s.caseAccess 4 neopixelSetAccess
  | some .neopixelSetAll => s.caseAccess 3 neopixelSetAllAccess
  | some .neopixelSetRange => s.caseAccess 5 neopixelSetRangeAccess
  | some .ledZoneSet => s.caseAccess 13 ledZoneSetAccess
  | some .ledZoneClr => s.caseAccess 1 ledZoneClrAccess
  | some .endstopQuery => s.caseAccess 1 (s.endstopQueryAccess out)
  | some .deviceInfoReq => return (s, s.sendDeviceInfo build)
  | some .otaBegin => s.otaBeginAccess out
  | some .otaData => s.otaDataAccess out
  | some .otaEnd => return s.afterOta (Klippylink.otaEnd build.crc s.ota out.finish)
  | some .wifiEnable => do
      let calls ← wifiEnableAccess
      return (s, calls)
  | some .heartbeat => return (s, s.notify (bareHeader .heartbeat))
  | some .heaterSet =>
      if build.variantFull then s.caseAccess 16 heaterSetAccess else return (s, [])
  | _ => return (s, [])

/-- `dispatch_packet`, read by read. -/
def dispatchAccess (build : NodeBuild) (s : GattServer) (out : Outcomes) :
    Access (GattServer × List NodeCall) := do
  let m0 ← byte 0
  let m1 ← byte 1
  if ofLe16 m0 m1 ≠ klipprotoMagic then return (s, [])
  else
    let command ← byte 2
    s.switchAccess build out (KlipCommand.ofCode command)

/-- `ESP_GATTS_WRITE_EVT` on the command characteristic, read by read; `len` bytes were
written. -/
def writeAccess (build : NodeBuild) (s : GattServer) (len : ℕ) (out : Outcomes) :
    Access (GattServer × List NodeCall) :=
  if klipHeaderSize ≤ len then s.dispatchAccess build out else return (s, [])

/-- `ESP_GATTS_WRITE_EVT` on the descriptor, read by read: two bytes are copied, however many
were written. -/
def cccdAccess (s : GattServer) : Access GattServer := do
  let lo ← byte 0
  let hi ← byte 1
  return { s with notifyEnabled := ofLe16 lo hi = 0x0001 }

/-! ### They are the server's functions -/

theorem eval_caseAccess (s : GattServer) (n : ℕ) (payload : Access (List NodeCall))
    (mem : ℕ → UInt8) :
    (s.caseAccess n payload).eval mem =
      (s, if n ≤ (mem 3).toNat then payload.eval mem else []) := by
  rw [caseAccess, eval_bind, eval_byte]
  split
  · exact eval_bind mem payload _
  · rfl

/-- What a name is copied from may be cut where the copy is. -/
theorem copy_bytes {n : ℕ} (h h' : 0 < n) (w : Written) (i len : ℕ) :
    CStr.copy h ((List.range (min len (n - 1))).map fun k => w.byte (i + k)) =
      CStr.copy h' (w.bytes i len) := by
  have hcut : (List.range (min len (n - 1))).map (fun k => w.byte (i + k)) =
      (w.bytes i len).take (n - 1) := by
    rw [Written.bytes, ← List.map_take, List.take_range, Nat.min_comm]
  rw [CStr.mk.injEq, hcut]
  change ((CStr.cstring _).take (n - 1)) = (CStr.cstring _).take (n - 1)
  rw [CStr.cstring, CStr.cstring, List.take_takeWhile, List.take_takeWhile, List.take_take,
    Nat.min_self]

theorem eval_wifiEnableAccess (w : Written) : wifiEnableAccess.eval w.byte = wifiEnable w := by
  rw [wifiEnableAccess, wifiEnable, eval_bind, eval_byte]
  split
  · rfl
  · rw [eval_bind, eval_byte]
    split
    · rfl
    · rw [eval_bind, eval_byte]
      split
      · rfl
      · simp only [eval_bind, eval_bytes, eval_pure]
        rw [copy_bytes (n := 33), copy_bytes (n := 65)]

theorem eval_otaBeginAccess (s : GattServer) (out : Outcomes) (w : Written) :
    (s.otaBeginAccess out).eval w.byte =
      if 8 ≤ (w.byte 3).toNat then
        s.afterOta (Klippylink.otaBegin s.ota (w.word 4) (w.word 8) true out.begin)
      else (s, []) := by
  rw [otaBeginAccess, eval_bind, eval_byte]
  split
  · rw [eval_bind, eval_word, eval_bind, eval_word, eval_pure]
    rfl
  · rfl

theorem eval_otaDataAccess (s : GattServer) (out : Outcomes) (w : Written) :
    (s.otaDataAccess out).eval w.byte =
      s.afterOta (otaWrite s.ota (w.bytes 4 (w.byte 3).toNat) out.writeRet) := by
  rw [otaDataAccess, eval_bind, eval_byte, eval_bind, eval_bytes, eval_pure]
  rfl

/-- **The reads belong to the server's function**: with them its result is the same. -/
theorem eval_dispatchAccess (build : NodeBuild) (s : GattServer) (w : Written) (out : Outcomes) :
    (s.dispatchAccess build out).eval w.byte = s.dispatchPacket build w out := by
  rw [dispatchAccess, dispatchPacket, eval_bind, eval_bind, eval_byte, eval_byte]
  split
  · rfl
  · rw [eval_bind, eval_byte]
    cases hc : KlipCommand.ofCode (w.byte 2) with
    | none => rfl
    | some c =>
        cases c with
        | neopixelSet => exact eval_caseAccess s 4 _ w.byte
        | neopixelSetAll => exact eval_caseAccess s 3 _ w.byte
        | neopixelSetRange => exact eval_caseAccess s 5 _ w.byte
        | ledZoneSet => exact eval_caseAccess s 13 _ w.byte
        | ledZoneClr => exact eval_caseAccess s 1 _ w.byte
        | endstopQuery => exact eval_caseAccess s 1 _ w.byte
        | otaBegin => exact eval_otaBeginAccess s out w
        | otaData => exact eval_otaDataAccess s out w
        | wifiEnable =>
            rw [switchAccess, eval_bind, eval_pure, eval_wifiEnableAccess]
        | heaterSet =>
            by_cases hfull : build.variantFull = true
            · simp only [switchAccess, hfull, if_true, true_and]
              exact eval_caseAccess s 16 _ w.byte
            · simp only [switchAccess, hfull]
              rfl
        | _ => rfl

theorem eval_writeAccess (build : NodeBuild) (s : GattServer) (w : Written) (out : Outcomes) :
    (s.writeAccess build w.value.length out).eval w.byte = s.writeEvt build w out := by
  rw [writeAccess, writeEvt]
  split
  · exact eval_dispatchAccess build s w out
  · rfl

theorem eval_cccdAccess (s : GattServer) (w : Written) :
    s.cccdAccess.eval w.byte = s.cccdWriteEvt w := rfl

end GattServer

/-! ## What is safe -/

/-- The call sends a notification, and does nothing to a driver, the flash or the heater. -/
def NodeCall.notifies : NodeCall → Bool
  | .sendIndicate _ _ => true
  | _ => false

/-- A handler reads below the length of the value, and does nothing but notify when the
packet announces more than was received. -/
structure CaseSafe (w : Written) (p : Access (GattServer × List NodeCall)) : Prop where
  within : ∀ i ∈ p.loads w.byte, i < w.value.length
  cut : w.value.length < 4 + (w.byte 3).toNat → ∀ c ∈ (p.eval w.byte).2, c.notifies = true

/-- Every read of a write to the command characteristic is below its length, and a packet
whose header announces more payload than was received has no effect on drivers, flash or
heater. -/
structure WriteSafe (build : NodeBuild) (s : GattServer) (w : Written) (out : Outcomes) :
    Prop where
  within : ∀ i ∈ (s.writeAccess build w.value.length out).loads w.byte, i < w.value.length
  cut : klipHeaderSize ≤ w.value.length → ofLe16 (w.byte 0) (w.byte 1) = klipprotoMagic →
    w.value.length < 4 + (w.byte 3).toNat →
      ∀ c ∈ (s.writeEvt build w out).2, c.notifies = true

/-- A packet that announces more than was received and is too short for its command all the
same, or has everything that is read of it and asks for nothing that is done. -/
def CutHarmless (build : NodeBuild) (s : GattServer) (w : Written) (out : Outcomes) : Prop :=
  let len := w.value.length
  let length := (w.byte 3).toNat
  let ssidLen := (w.byte 4).toNat
  let passLen := (w.byte (4 + (1 + ssidLen))).toNat
  match KlipCommand.ofCode (w.byte 2) with
  | some .neopixelSet => length < 4
  | some .neopixelSetAll => length < 3
  | some .neopixelSetRange => length < 5
  | some .ledZoneSet => length < 13
  | some .ledZoneClr => length < 1
  | some .endstopQuery => length < 1 ∨ 5 ≤ len
  | some .otaBegin =>
      length < 8 ∨ 12 ≤ len ∧ s.ota.active = false ∧ out.begin.part = none
  | some .otaData => False
  | some .otaEnd => s.ota.active = false
  | some .wifiEnable =>
      length < 2 ∨ 5 ≤ len ∧
        (length < 1 + ssidLen + 1 ∨ 6 + ssidLen ≤ len ∧ length < 1 + ssidLen + 1 + passLen)
  | some .heaterSet => build.variantFull = false ∨ length < 16
  | _ => True

section Cases

variable {w : Written} (hlen : 4 ≤ w.value.length) (s : GattServer)

theorem notifies_notify {s : GattServer} {data : List UInt8} {c : NodeCall}
    (h : c ∈ s.notify data) : c.notifies = true := by
  rw [GattServer.notify] at h
  split at h
  · cases h
  · rw [List.mem_singleton.mp h]
    rfl

/-- A case that only notifies is safe when it reads below the length. -/
theorem caseSafe_of_silent {p : Access (GattServer × List NodeCall)}
    (hcalls : ∀ c ∈ (p.eval w.byte).2, c.notifies = true) :
    CaseSafe w p ↔ ∀ i ∈ p.loads w.byte, i < w.value.length :=
  ⟨CaseSafe.within, fun hwithin => ⟨hwithin, fun _ => hcalls⟩⟩

/-- A case that does more is safe when, besides, all of the packet was received. -/
theorem caseSafe_of_acts {p : Access (GattServer × List NodeCall)}
    (hcalls : ¬ ∀ c ∈ (p.eval w.byte).2, c.notifies = true) :
    CaseSafe w p ↔
      4 + (w.byte 3).toNat ≤ w.value.length ∧ ∀ i ∈ p.loads w.byte, i < w.value.length := by
  constructor
  · intro hsafe
    by_cases hfull : 4 + (w.byte 3).toNat ≤ w.value.length
    · exact ⟨hfull, hsafe.within⟩
    · exact absurd (hsafe.cut (Nat.lt_of_not_le hfull)) hcalls
  · rintro ⟨hfull, hwithin⟩
    exact ⟨hwithin, fun hcut => absurd hcut (Nat.not_lt.mpr hfull)⟩

/-- A case that reads nothing more and only notifies. -/
theorem caseSafe_pure {r : GattServer × List NodeCall} (h : ∀ c ∈ r.2, c.notifies = true) :
    CaseSafe w (pure r) :=
  (caseSafe_of_silent (p := pure r) h).mpr (by simp)

/-- The updater's calls go out as notifications exactly when they are status callbacks. -/
theorem flatMap_carry_notifies (calls : List EspCall) :
    (∀ c ∈ calls.flatMap s.carry, c.notifies = true) ↔
      ∀ e ∈ calls, ∃ status, e = .statusCb status := by
  simp only [List.mem_flatMap, forall_exists_index, and_imp]
  constructor
  · intro h e he
    cases e with
    | statusCb status => exact ⟨status, rfl⟩
    | _ => exact absurd (h _ _ he (List.mem_singleton.mpr rfl)) (by simp [NodeCall.notifies])
  · intro h c e he hc
    obtain ⟨status, rfl⟩ := h e he
    exact notifies_notify hc

/-- `ota_begin` touches the flash unless no update is active and no partition is found. -/
theorem otaBegin_notifies (size crc32 : UInt32) (out : BeginOutcome) :
    (∀ c ∈ (s.afterOta (otaBegin s.ota size crc32 true out)).2, c.notifies = true) ↔
      s.ota.active = false ∧ out.part = none := by
  rw [GattServer.afterOta, flatMap_carry_notifies]
  cases hactive : s.ota.active with
  | true =>
      have habort : EspCall.otaAbort s.ota.handle ∈
          (otaBegin s.ota size crc32 true out).calls := by
        simp only [otaBegin, otaAbort, hactive, if_true]
        split <;> try split
        all_goals simp
      refine iff_of_false (fun h => ?_) (by simp)
      obtain ⟨_, hcb⟩ := h _ habort
      cases hcb
  | false =>
      cases hpart : out.part with
      | none => simp [otaBegin, otaAbort, hactive, hpart]
      | some part =>
          have hbegin : EspCall.otaBegin part ∈ (otaBegin s.ota size crc32 true out).calls := by
            simp only [otaBegin, hpart]
            split <;> simp
          refine iff_of_false (fun h => ?_) (by simp)
          obtain ⟨_, hcb⟩ := h _ hbegin
          cases hcb

/-- `ota_end` touches the flash unless no update is active. -/
theorem otaEnd_notifies (crc : UInt32 → List UInt8 → UInt32) (out : EndOutcome) :
    (∀ c ∈ (s.afterOta (otaEnd crc s.ota out)).2, c.notifies = true) ↔
      s.ota.active = false := by
  rw [GattServer.afterOta, flatMap_carry_notifies]
  cases hactive : s.ota.active with
  | false => simp [otaEnd, hactive]
  | true =>
      have hcall : EspCall.otaAbort s.ota.handle ∈ (otaEnd crc s.ota out).calls ∨
          EspCall.otaEnd s.ota.handle ∈ (otaEnd crc s.ota out).calls := by
        simp only [otaEnd, hactive, if_true]
        split_ifs <;> simp
      refine iff_of_false (fun h => ?_) (by simp)
      rcases hcall with hcall | hcall
      · obtain ⟨_, hcb⟩ := h _ hcall
        cases hcb
      · obtain ⟨_, hcb⟩ := h _ hcall
        cases hcb

theorem caseSafe_otaEnd (crc : UInt32 → List UInt8 → UInt32) (out : EndOutcome) :
    CaseSafe w (pure (s.afterOta (otaEnd crc s.ota out))) ↔
      4 + (w.byte 3).toNat ≤ w.value.length ∨ s.ota.active = false := by
  have hnotifies := otaEnd_notifies s crc out
  cases hactive : s.ota.active with
  | false => exact iff_of_true (caseSafe_pure (hnotifies.mpr hactive)) (.inr rfl)
  | true =>
      have hacts : ¬ ∀ c ∈ (s.afterOta (otaEnd crc s.ota out)).2, c.notifies = true := by
        rw [hnotifies, hactive]
        simp
      refine (caseSafe_of_acts (p := pure _) hacts).trans ?_
      simp

/-- What `KLIPCMD_WIFI_ENABLE` reads: each length before what it is the length of. -/
theorem loads_wifiEnableAccess (w : Written) :
    GattServer.wifiEnableAccess.loads w.byte =
      if (w.byte 3).toNat < 2 then [3]
      else if (w.byte 3).toNat < 1 + (w.byte 4).toNat + 1 then [3, 4]
      else if (w.byte 3).toNat < 1 + (w.byte 4).toNat + 1 +
          (w.byte (4 + (1 + (w.byte 4).toNat))).toNat then [3, 4, 4 + (1 + (w.byte 4).toNat)]
      else [3, 4, 4 + (1 + (w.byte 4).toNat)] ++
        ((List.range (min (w.byte 4).toNat 32)).map (fun k => 5 + k) ++
          (List.range (min (w.byte (4 + (1 + (w.byte 4).toNat))).toNat 64)).map
            fun k => 6 + (w.byte 4).toNat + k) := by
  rw [GattServer.wifiEnableAccess, loads_bind, eval_byte, loads_byte]
  split
  · rfl
  · rw [loads_bind, eval_byte, loads_byte]
    split
    · rfl
    · rw [loads_bind, eval_byte, loads_byte]
      split
      · rfl
      · simp

include hlen

/-- **A case of a driver** reads its fields and calls the driver, so it is safe when the
packet has arrived in full or is too short for the command. -/
theorem caseSafe_driver {n : ℕ} {payload : Access (List NodeCall)}
    (hloads : payload.loads w.byte = (List.range n).map fun k => 4 + k)
    (hcalls : ∃ c ∈ payload.eval w.byte, c.notifies = false) :
    CaseSafe w (s.caseAccess n payload) ↔
      4 + (w.byte 3).toNat ≤ w.value.length ∨ (w.byte 3).toNat < n := by
  have heval := GattServer.eval_caseAccess s n payload w.byte
  by_cases hshort : (w.byte 3).toNat < n
  · have hnot : ¬ n ≤ (w.byte 3).toNat := Nat.not_le.mpr hshort
    have hsilent : ∀ c ∈ ((s.caseAccess n payload).eval w.byte).2, c.notifies = true := by
      rw [heval, if_neg hnot]
      simp
    rw [caseSafe_of_silent hsilent, GattServer.caseAccess, loads_bind, eval_byte, if_neg hnot]
    simp [hshort, Nat.lt_of_lt_of_le (by decide : 3 < 4) hlen]
  · have hle : n ≤ (w.byte 3).toNat := Nat.le_of_not_lt hshort
    have hacts : ¬ ∀ c ∈ ((s.caseAccess n payload).eval w.byte).2, c.notifies = true := by
      rw [heval, if_pos hle]
      obtain ⟨c, hc, hno⟩ := hcalls
      intro hall
      rw [hall c hc] at hno
      cases hno
    rw [caseSafe_of_acts hacts, GattServer.caseAccess, loads_bind, eval_byte, if_pos hle,
      loads_bind, hloads]
    simp only [loads_byte, loads_pure, List.append_nil, List.forall_mem_append,
      forall_block_lt hlen, List.forall_mem_singleton]
    omega

theorem caseSafe_endstopQuery (out : Outcomes) :
    CaseSafe w (s.caseAccess 1 (s.endstopQueryAccess out)) ↔
      4 + (w.byte 3).toNat ≤ w.value.length ∨ (w.byte 3).toNat < 1 ∨ 5 ≤ w.value.length := by
  have hsilent : ∀ c ∈ ((s.caseAccess 1 (s.endstopQueryAccess out)).eval w.byte).2,
      c.notifies = true := by
    intro c hc
    rw [GattServer.eval_caseAccess] at hc
    simp only at hc
    split at hc
    · exact notifies_notify hc
    · cases hc
  rw [caseSafe_of_silent hsilent, GattServer.caseAccess, loads_bind, eval_byte]
  split
  · have hloads : (byte 3).loads w.byte ++
        (s.endstopQueryAccess out >>= fun calls => pure (s, calls)).loads w.byte = [3, 4] := rfl
    rw [hloads]
    simp only [List.forall_mem_cons, List.not_mem_nil, false_implies, implies_true, and_true]
    omega
  · simp only [loads_byte, loads_pure, List.append_nil, List.forall_mem_singleton]
    omega

theorem caseSafe_heaterSet (build : NodeBuild) (out : Outcomes) :
    CaseSafe w (s.switchAccess build out (some .heaterSet)) ↔
      4 + (w.byte 3).toNat ≤ w.value.length ∨ build.variantFull = false ∨
        (w.byte 3).toNat < 16 := by
  cases hfull : build.variantFull with
  | false =>
      rw [GattServer.switchAccess, hfull]
      exact iff_of_true (caseSafe_pure (by simp)) (.inr (.inl rfl))
  | true =>
      rw [GattServer.switchAccess, hfull, if_pos rfl]
      simp only [Bool.true_eq_false, false_or]
      exact caseSafe_driver hlen s rfl ⟨_, .head _, rfl⟩

theorem caseSafe_otaBegin (out : Outcomes) :
    CaseSafe w (s.otaBeginAccess out) ↔
      4 + (w.byte 3).toNat ≤ w.value.length ∨ (w.byte 3).toNat < 8 ∨
        12 ≤ w.value.length ∧ s.ota.active = false ∧ out.begin.part = none := by
  have heval := GattServer.eval_otaBeginAccess s out w
  have hloads : (s.otaBeginAccess out).loads w.byte =
      if 8 ≤ (w.byte 3).toNat then 3 :: (List.range 8).map fun k => 4 + k else [3] := by
    rw [GattServer.otaBeginAccess, loads_bind, eval_byte]
    split <;> rfl
  by_cases hshort : (w.byte 3).toNat < 8
  · have hnot : ¬ 8 ≤ (w.byte 3).toNat := Nat.not_le.mpr hshort
    rw [if_neg hnot] at heval hloads
    rw [caseSafe_of_silent (by rw [heval]; simp), hloads]
    simp [hshort, Nat.lt_of_lt_of_le (by decide : 3 < 4) hlen]
  · rw [if_pos (Nat.le_of_not_lt hshort)] at heval hloads
    have hnotifies := otaBegin_notifies s (w.word 4) (w.word 8) out.begin
    rw [← heval] at hnotifies
    by_cases hidle : s.ota.active = false ∧ out.begin.part = none
    · rw [caseSafe_of_silent (hnotifies.mpr hidle), hloads, List.forall_mem_cons,
        forall_block_lt hlen]
      simp only [hidle, and_self, and_true]
      omega
    · rw [caseSafe_of_acts (mt hnotifies.mp hidle), hloads, List.forall_mem_cons,
        forall_block_lt hlen]
      simp only [hidle, and_false, or_false]
      omega

theorem caseSafe_otaData (out : Outcomes) :
    CaseSafe w (s.otaDataAccess out) ↔ 4 + (w.byte 3).toNat ≤ w.value.length := by
  have hloads : (s.otaDataAccess out).loads w.byte =
      3 :: (List.range (w.byte 3).toNat).map fun k => 4 + k := by
    rw [GattServer.otaDataAccess, loads_bind, eval_byte, loads_bind, loads_bytes, loads_pure,
      List.append_nil]
    rfl
  constructor
  · intro hsafe
    have hwithin := hsafe.within
    rw [hloads, List.forall_mem_cons] at hwithin
    exact (forall_block_lt hlen).mp hwithin.2
  · intro hfull
    refine ⟨?_, fun hcut => absurd hcut (Nat.not_lt.mpr hfull)⟩
    rw [hloads, List.forall_mem_cons]
    exact ⟨by omega, (forall_block_lt hlen).mpr hfull⟩

theorem caseSafe_wifiEnable :
    CaseSafe w (GattServer.wifiEnableAccess >>= fun calls => pure (s, calls)) ↔
      4 + (w.byte 3).toNat ≤ w.value.length ∨ (w.byte 3).toNat < 2 ∨ 5 ≤ w.value.length ∧
        ((w.byte 3).toNat < 1 + (w.byte 4).toNat + 1 ∨
          6 + (w.byte 4).toNat ≤ w.value.length ∧
            (w.byte 3).toNat < 1 + (w.byte 4).toNat + 1 +
              (w.byte (4 + (1 + (w.byte 4).toNat))).toNat) := by
  have heval : (GattServer.wifiEnableAccess >>= fun calls => pure (s, calls)).eval w.byte =
      (s, GattServer.wifiEnable w) := by
    rw [eval_bind, eval_pure, GattServer.eval_wifiEnableAccess]
  have hloads : (GattServer.wifiEnableAccess >>= fun calls => pure (s, calls)).loads w.byte =
      GattServer.wifiEnableAccess.loads w.byte := by
    rw [loads_bind, loads_pure, List.append_nil]
  rw [loads_wifiEnableAccess] at hloads
  rw [GattServer.wifiEnable] at heval
  by_cases hlength : (w.byte 3).toNat < 2
  · rw [if_pos hlength] at heval hloads
    rw [caseSafe_of_silent (by rw [heval]; simp), hloads, List.forall_mem_singleton]
    omega
  rw [if_neg hlength] at heval hloads
  by_cases hssid : (w.byte 3).toNat < 1 + (w.byte 4).toNat + 1
  · rw [if_pos hssid] at heval hloads
    rw [caseSafe_of_silent (by rw [heval]; simp), hloads]
    simp only [List.forall_mem_cons, List.not_mem_nil, false_implies, implies_true, and_true]
    omega
  rw [if_neg hssid] at heval hloads
  by_cases hpass : (w.byte 3).toNat < 1 + (w.byte 4).toNat + 1 +
      (w.byte (4 + (1 + (w.byte 4).toNat))).toNat
  · rw [if_pos hpass] at heval hloads
    rw [caseSafe_of_silent (by rw [heval]; simp), hloads]
    simp only [List.forall_mem_cons, List.not_mem_nil, false_implies, implies_true, and_true]
    omega
  · rw [if_neg hpass] at heval hloads
    have hacts : ¬ ∀ c ∈ ((GattServer.wifiEnableAccess >>= fun calls => pure (s, calls)).eval
        w.byte).2, c.notifies = true := by
      rw [heval]
      simp [NodeCall.notifies]
    rw [caseSafe_of_acts hacts, hloads]
    simp only [List.forall_mem_append, List.forall_mem_cons, List.not_mem_nil, false_implies,
      implies_true, and_true]
    constructor
    · exact fun hsafe => .inl hsafe.1
    · intro hcond
      have hfull : 4 + (w.byte 3).toNat ≤ w.value.length := by omega
      refine ⟨hfull, by omega, (forall_block_lt (by omega)).mpr (by omega),
        (forall_block_lt (by omega)).mpr (by omega)⟩

/-- The switch, case by case. -/
theorem caseSafe_switch (build : NodeBuild) (out : Outcomes) :
    CaseSafe w (s.switchAccess build out (KlipCommand.ofCode (w.byte 2))) ↔
      4 + (w.byte 3).toNat ≤ w.value.length ∨ CutHarmless build s w out := by
  have hnotify : ∀ data, CaseSafe w (pure (s, s.notify data)) := fun data =>
    caseSafe_pure fun c => notifies_notify
  rw [CutHarmless]
  cases hc : KlipCommand.ofCode (w.byte 2) with
  | none => exact iff_of_true (caseSafe_pure (by simp)) (.inr trivial)
  | some c =>
      cases c with
      | ping => exact iff_of_true (hnotify _) (.inr trivial)
      | heartbeat => exact iff_of_true (hnotify _) (.inr trivial)
      | deviceInfoReq =>
          refine iff_of_true (caseSafe_pure fun c hc => ?_) (.inr trivial)
          rw [GattServer.sendDeviceInfo] at hc
          split at hc
          · cases hc
          · exact notifies_notify hc
      | neopixelSet => exact caseSafe_driver hlen s rfl ⟨_, .head _, rfl⟩
      | neopixelSetAll => exact caseSafe_driver hlen s rfl ⟨_, .head _, rfl⟩
      | neopixelSetRange => exact caseSafe_driver hlen s rfl ⟨_, .head _, rfl⟩
      | ledZoneSet => exact caseSafe_driver hlen s rfl ⟨_, .head _, rfl⟩
      | ledZoneClr => exact caseSafe_driver hlen s rfl ⟨_, .head _, rfl⟩
      | endstopQuery => exact caseSafe_endstopQuery hlen s out
      | otaBegin => exact caseSafe_otaBegin hlen s out
      | otaData =>
          simp only [or_false]
          exact caseSafe_otaData hlen s out
      | otaEnd => exact caseSafe_otaEnd s build.crc out.finish
      | wifiEnable => exact caseSafe_wifiEnable hlen s
      | heaterSet => exact caseSafe_heaterSet hlen s build out
      | _ => exact iff_of_true (caseSafe_pure (by simp)) (.inr trivial)

/-- A value with a whole header is safe when the switch is. -/
theorem writeSafe_iff_switch (build : NodeBuild) (out : Outcomes)
    (hmagic : ofLe16 (w.byte 0) (w.byte 1) = klipprotoMagic) :
    WriteSafe build s w out ↔
      CaseSafe w (s.switchAccess build out (KlipCommand.ofCode (w.byte 2))) := by
  have hheader : klipHeaderSize ≤ w.value.length := hlen
  have hloads : (s.writeAccess build w.value.length out).loads w.byte =
      [0, 1, 2] ++ (s.switchAccess build out (KlipCommand.ofCode (w.byte 2))).loads w.byte := by
    rw [GattServer.writeAccess, if_pos hheader, GattServer.dispatchAccess, loads_bind, loads_bind,
      eval_byte, eval_byte, if_neg (not_not.mpr hmagic), loads_bind, eval_byte]
    rfl
  have heval : s.writeEvt build w out =
      (s.switchAccess build out (KlipCommand.ofCode (w.byte 2))).eval w.byte := by
    rw [← GattServer.eval_writeAccess, GattServer.writeAccess, if_pos hheader,
      GattServer.dispatchAccess, eval_bind, eval_bind, eval_byte, eval_byte,
      if_neg (not_not.mpr hmagic), eval_bind, eval_byte]
  constructor
  · intro hsafe
    have hwithin := hsafe.within
    rw [hloads, List.forall_mem_append] at hwithin
    refine ⟨hwithin.2, fun hcut => ?_⟩
    rw [← heval]
    exact hsafe.cut hheader hmagic hcut
  · intro hsafe
    refine ⟨?_, fun _ _ hcut => ?_⟩
    · rw [hloads, List.forall_mem_append]
      refine ⟨?_, hsafe.within⟩
      simp only [List.forall_mem_cons, List.not_mem_nil, false_implies, implies_true, and_true]
      omega
    · rw [heval]
      exact hsafe.cut hcut

end Cases

/-- A value without a header, or with another magic, is looked at no further. -/
theorem writeSafe_of_no_header (build : NodeBuild) (s : GattServer) {w : Written}
    (out : Outcomes)
    (h : w.value.length < 4 ∨ ofLe16 (w.byte 0) (w.byte 1) ≠ klipprotoMagic) :
    WriteSafe build s w out := by
  by_cases hlen : klipHeaderSize ≤ w.value.length
  · have hmagic := h.resolve_left (Nat.not_lt.mpr hlen)
    refine ⟨?_, fun _ hgood => absurd hgood hmagic⟩
    have hheader : 4 ≤ w.value.length := hlen
    rw [GattServer.writeAccess, if_pos hlen, GattServer.dispatchAccess, loads_bind, loads_bind,
      eval_byte, eval_byte, if_pos hmagic]
    simp only [loads_byte, loads_pure, List.append_nil, List.forall_mem_append,
      List.forall_mem_singleton]
    omega
  · refine ⟨?_, fun hgood => absurd hgood hlen⟩
    rw [GattServer.writeAccess, if_neg hlen]
    simp

/-- A safe write comes to the same whatever memory holds behind it. -/
theorem WriteSafe.eval_congr {build : NodeBuild} {s : GattServer} {w : Written} {out : Outcomes}
    (h : WriteSafe build s w out) (beyond : ℕ → UInt8) :
    s.writeEvt build ⟨w.value, beyond⟩ out = s.writeEvt build w out := by
  rw [← GattServer.eval_writeAccess, ← GattServer.eval_writeAccess]
  refine Access.eval_congr fun i hi => ?_
  have hlt := h.within i hi
  simp [Written.byte, hlt]

/-- **Which writes are safe.**  On the command characteristic those that are no packet, whose
packet was received in full, or whose cut packet does no harm; on the descriptor those of at
least two bytes. -/
theorem writeEvt_safe_iff (build : NodeBuild) (s : GattServer) (w : Written) (out : Outcomes) :
    (WriteSafe build s w out ↔
      w.value.length < 4 ∨ ofLe16 (w.byte 0) (w.byte 1) ≠ klipprotoMagic ∨
        4 + (w.byte 3).toNat ≤ w.value.length ∨ CutHarmless build s w out) ∧
    ((∀ i ∈ s.cccdAccess.loads w.byte, i < w.value.length) ↔ 2 ≤ w.value.length) := by
  constructor
  · by_cases hno : w.value.length < 4 ∨ ofLe16 (w.byte 0) (w.byte 1) ≠ klipprotoMagic
    · exact iff_of_true (writeSafe_of_no_header build s out hno) (or_assoc.mp (.inl hno))
    · rw [not_or, not_not] at hno
      obtain ⟨hlen, hmagic⟩ := hno
      rw [writeSafe_iff_switch (Nat.le_of_not_lt hlen) s build out hmagic,
        caseSafe_switch (Nat.le_of_not_lt hlen) s build out]
      simp only [hlen, hmagic, ne_eq, not_true_eq_false, false_or]
  · have hloads : s.cccdAccess.loads w.byte = [0, 1] := rfl
    rw [hloads]
    simp only [List.forall_mem_cons, List.not_mem_nil, false_implies, implies_true, and_true]
    omega

/-- A header that announces a colour and is all that was written, and one byte written to the
descriptor. -/
theorem short_writes_unsafe :
    ¬ WriteSafe ⟨false, none, crc32⟩ GattServer.start ⟨[0x4C, 0x4B, 0x50, 4], fun _ => 0⟩
        ⟨fun _ => false, ⟨none, espOk, 0⟩, espOk, .ok []⟩ ∧
      ¬ ∀ i ∈ GattServer.start.cccdAccess.loads (Written.mk [1] fun _ => 0).byte,
        i < [(1 : UInt8)].length := by
  refine ⟨fun h => ?_, by decide⟩
  have hcall := h.cut (by decide) (by decide) (by decide) (.neopixelSet 0 0 0 0 0) (by decide)
  cases hcall

end Klippylink
