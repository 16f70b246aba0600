import Klippylink.Lib.CStr
import Klippylink.Node.OtaHandler

/-!
# The node's GATT server

`gatt_server.c` takes the packets that the router writes to the command
characteristic and carries each out: a driver is called, the updater is called, or
a packet is sent back as a notification.  The payload is read in place; the bytes
that a packet announces beyond the value that was written are part of the write.

## Main definitions

* `GattServer` — the file-level variables, and those of the updater.
* `NodeCall` — the calls into the drivers, the updater's calls and the stack.
* `GattServer.dispatchPacket` — `dispatch_packet`.
* `GattServer.writeEvt`, `GattServer.connectEvt`, `GattServer.disconnectEvt` — cases
  of `gatts_event_handler`.
-/

namespace Klippylink

open Lib

/-- `led_zone_cfg_t`, as a packet gives it. -/
structure LedZoneCfg where
  stripIdx : UInt8
  start : UInt8
  count : UInt8
  effect : UInt8
  color : UInt8 × UInt8 × UInt8
  color2 : UInt8 × UInt8 × UInt8
  brightness : UInt8
  speed : UInt8
  deriving DecidableEq

/-- A call out of the GATT server.  A `float` is its four bytes. -/
inductive NodeCall
  /-- `esp_ble_gatts_send_indicate`. -/
  | sendIndicate (connId : UInt16) (value : List UInt8)
  /-- A call that the updater makes. -/
  | updater (c : EspCall)
  | neopixelSet (stripIdx : ℕ) (ledIdx r g b : UInt8)
  | neopixelSetAll (stripIdx : ℕ) (r g b : UInt8)
  | neopixelSetRange (stripIdx : ℕ) (start count r g b : UInt8)
  | ledEffectsSetZone (zoneId : UInt8) (cfg : LedZoneCfg)
  | ledEffectsClearZone (zoneId : UInt8)
  | wifiNodeEnable (ssid : CStr 33) (pass : CStr 65)
  | heaterSetTarget (target : UInt32)
  | heaterSetPid (kp ki kd : UInt32)
  | heaterEmergencyOff
  | startAdvertising
  deriving DecidableEq

/-- The file-level variables, with those of the updater. -/
structure GattServer where
  connId : UInt16
  notifyEnabled : Bool
  ota : OtaState
  deriving DecidableEq

/-- What is fixed when the node is built and configured. -/
structure NodeBuild where
  /-- `CONFIG_KLIPNODE_VARIANT_FULL`. -/
  variantFull : Bool
  /-- What `cJSON_PrintUnformatted` gives for the device info, if anything. -/
  infoJson : Option (List UInt8)
  /-- `esp_rom_crc32_le`. -/
  crc : UInt32 → List UInt8 → UInt32

/-- What the drivers and the flash come to while one packet is carried out. -/
structure Outcomes where
  endstopRead : UInt8 → Bool
  begin : BeginOutcome
  writeRet : EspErr
  finish : EndOutcome

/-- A written value, and what memory holds behind it. -/
structure Written where
  value : List UInt8
  beyond : ℕ → UInt8

/-- The byte at offset `i` from the start of the value. -/
def Written.byte (w : Written) (i : ℕ) : UInt8 := w.value.getD i (w.beyond i)

/-- `len` bytes from offset `i`. -/
def Written.bytes (w : Written) (i len : ℕ) : List UInt8 :=
  (List.range len).map fun k => w.byte (i + k)

/-- The 32-bit word at offset `i`. -/
def Written.word (w : Written) (i : ℕ) : UInt32 :=
  ofLe32 (w.byte i) (w.byte (i + 1)) (w.byte (i + 2)) (w.byte (i + 3))

namespace GattServer

/-- The static initialisers, and those of the updater. -/
def start : GattServer := ⟨0xFFFF, false, OtaState.start⟩

/-- `gatt_server_notify`. -/
def notify (s : GattServer) (data : List UInt8) : List NodeCall :=
  if s.connId = 0xFFFF ∨ s.notifyEnabled = false then [] else [.sendIndicate s.connId data]

/-- `ota_cb`. -/
def otaCb (s : GattServer) (status : UInt8) : List NodeCall :=
  s.notify (klipPacket KlipCommand.otaStatus.code [status])

/-- `endstop_change_cb`. -/
def endstopChangeCb (s : GattServer) (idx : UInt8) (triggered : Bool) : List NodeCall :=
  s.notify (klipPacket KlipCommand.endstopState.code [idx, if triggered then 1 else 0])

/-- `send_device_info`: a text that does not fit is cut one byte short of the largest
payload. -/
def sendDeviceInfo (build : NodeBuild) (s : GattServer) : List NodeCall :=
  match build.infoJson with
  | none => []
  | some json =>
      let payloadLen :=
        if json.length < klipMaxPayloadSize then json.length else klipMaxPayloadSize - 1
      s.notify (klipPacket KlipCommand.deviceInfoResp.code (json.take payloadLen))

/-- A call of the updater as the server makes it: a status goes out through
`ota_cb`. -/
def carry (s : GattServer) : EspCall → List NodeCall
  | .statusCb status => s.otaCb status
  | c => [.updater c]

/-- The server after a function of the updater, and its calls.  A restart clears every
variable. -/
def afterOta (s : GattServer) (r : OtaReturn) : GattServer × List NodeCall :=
  (if .restart ∈ r.calls then start else { s with ota := r.state }, r.calls.flatMap s.carry)

/-- `KLIPCMD_WIFI_ENABLE`: `[ssid_len, ssid, pass_len, pass]`. -/
def wifiEnable (w : Written) : List NodeCall :=
  let length := (w.byte 3).toNat
  let ssidLen := (w.byte 4).toNat
  let passLen := (w.byte (4 + (1 + ssidLen))).toNat
  if length < 2 then []
  else if length < 1 + ssidLen + 1 then []
  else if length < 1 + ssidLen + 1 + passLen then []
  else [.wifiNodeEnable (CStr.copy (by decide) (w.bytes 5 ssidLen))
    (CStr.copy (by decide) (w.bytes (6 + ssidLen) passLen))]

/-- `dispatch_packet`. -/
def dispatchPacket (build : NodeBuild) (s : GattServer) (w : Written) (out : Outcomes) :
    GattServer × List NodeCall :=
  if ofLe16 (w.byte 0) (w.byte 1) ≠ klipprotoMagic then (s, [])
  else
    let length := (w.byte 3).toNat
    match KlipCommand.ofCode (w.byte 2) with
    | some .ping => (s, s.notify (bareHeader .pong))
    | some .neopixelSet =>
        (s, if 4 ≤ length then [.neopixelSet 0 (w.byte 4) (w.byte 5) (w.byte 6) (w.byte 7)] else [])
    | some .neopixelSetAll =>
        (s, if 3 ≤ length then [.neopixelSetAll 0 (w.byte 4) (w.byte 5) (w.byte 6)] else [])
    | some .neopixelSetRange =>
        (s, if 5 ≤ length then
          [.neopixelSetRange 0 (w.byte 4) (w.byte 5) (w.byte 6) (w.byte 7) (w.byte 8)] else [])
    | some .ledZoneSet =>
        (s, if 13 ≤ length then
          [.ledEffectsSetZone (w.byte 4) ⟨w.byte 5, w.byte 6, w.byte 7, w.byte 8,
            (w.byte 9, w.byte 10, w.byte 11), (w.byte 12, w.byte 13, w.byte 14), w.byte 15,
            w.byte 16⟩] else [])
    | some .ledZoneClr => (s, if 1 ≤ length then [.ledEffectsClearZone (w.byte 4)] else [])
    | some .endstopQuery =>
        (s, if 1 ≤ length then s.endstopChangeCb (w.byte 4) (out.endstopRead (w.byte 4)) else [])
    | some .deviceInfoReq => (s, s.sendDeviceInfo build)
    | some .otaBegin =>
        if 8 ≤ length then
          s.afterOta (Klippylink.otaBegin s.ota (w.word 4) (w.word 8) true out.begin)
        else (s, [])
    | some .otaData => s.afterOta (otaWrite s.ota (w.bytes 4 length) out.writeRet)
    | some .otaEnd => s.afterOta (Klippylink.otaEnd build.crc s.ota out.finish)
    | some .wifiEnable => (s, wifiEnable w)
    | some .heartbeat => (s, s.notify (bareHeader .heartbeat))
    | some .heaterSet =>
        (s, if build.variantFull = true ∧ 16 ≤ length then
          [.heaterSetTarget (w.word 4), .heaterSetPid (w.word 8) (w.word 12) (w.word 16)] else [])
    -- an unknown command is logged
    | _ => (s, [])

/-- `ESP_GATTS_WRITE_EVT` on the command characteristic. -/
def writeEvt (build : NodeBuild) (s : GattServer) (w : Written) (out : Outcomes) :
    GattServer × List NodeCall :=
  if klipHeaderSize ≤ w.value.length then s.dispatchPacket build w out else (s, [])

/-- `ESP_GATTS_WRITE_EVT` on the descriptor that enables notifications. -/
def cccdWriteEvt (s : GattServer) (w : Written) : GattServer :=
  { s with notifyEnabled := ofLe16 (w.byte 0) (w.byte 1) = 0x0001 }

/-- `ESP_GATTS_CONNECT_EVT`. -/
def connectEvt (s : GattServer) (connId : UInt16) : GattServer := { s with connId := connId }

/-- `ESP_GATTS_DISCONNECT_EVT`. -/
def disconnectEvt (build : NodeBuild) (s : GattServer) : GattServer × List NodeCall :=
  ({ s with connId := 0xFFFF, notifyEnabled := false },
    (if build.variantFull then [.heaterEmergencyOff] else []) ++ [.startAdvertising])

end GattServer

end Klippylink
