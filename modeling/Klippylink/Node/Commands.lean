import Klippylink.Node.GattServer

/-!
# Which command a driver is called for

`dispatch_packet` is one switch: a driver is called in the case of its command and in no other.
What a packet does not do to a driver follows from its command.

## Main definitions

* `NodeCall.command` — the command that a call carries out.
* `Written.IsPacket` — the value is taken for a packet.
* `command_of_mem_writeEvt` — a driver is called for its own command.
-/

namespace Klippylink

open Lib

/-- The byte of the command that is read from it. -/
theorem KlipCommand.code_of_ofCode {b : UInt8} {c : KlipCommand} (h : ofCode b = some c) :
    c.code = b := by
  simpa using List.find?_some h

/-- The command that a call of a driver carries out; `none` for the stack and the updater. -/
def NodeCall.command : NodeCall → Option KlipCommand
  | .sendIndicate _ _ | .updater _ | .heaterEmergencyOff | .startAdvertising => none
  | .neopixelSet _ _ _ _ _ => some .neopixelSet
  | .neopixelSetAll _ _ _ _ => some .neopixelSetAll
  | .neopixelSetRange _ _ _ _ _ _ => some .neopixelSetRange
  | .ledEffectsSetZone _ _ => some .ledZoneSet
  | .ledEffectsClearZone _ => some .ledZoneClr
  | .wifiNodeEnable _ _ => some .wifiEnable
  | .heaterSetTarget _ | .heaterSetPid _ _ _ => some .heaterSet

/-- The bytes are a packet. -/
def Written.IsPacket (w : Written) : Prop :=
  klipHeaderSize ≤ w.value.length ∧ ofLe16 (w.byte 0) (w.byte 1) = klipprotoMagic

/-- Every driver that is called carries out this command. -/
def CallsFor (command : Option KlipCommand) (calls : List NodeCall) : Prop :=
  ∀ call ∈ calls, ∀ c, call.command = some c → command = some c

section CallsFor

variable {command : Option KlipCommand}

theorem callsFor_nil : CallsFor command [] := fun _ h => by cases h

theorem callsFor_singleton {call : NodeCall} (h : ∀ c, call.command = some c → command = some c) :
    CallsFor command [call] := by
  intro call' hmem
  rw [List.mem_singleton.mp hmem]
  exact h

theorem callsFor_ite {p : Prop} [Decidable p] {calls : List NodeCall} (h : CallsFor command calls) :
    CallsFor command (if p then calls else []) := by
  split
  · exact h
  · exact callsFor_nil

theorem callsFor_notify (s : GattServer) (data : List UInt8) :
    CallsFor command (s.notify data) := by
  rw [GattServer.notify]
  split
  · exact callsFor_nil
  · exact callsFor_singleton fun c hc => by cases hc

theorem callsFor_afterOta (s : GattServer) (r : OtaReturn) : CallsFor command (s.afterOta r).2 := by
  intro call hcall
  obtain ⟨c, -, hcall⟩ := List.mem_flatMap.mp hcall
  cases c with
  | statusCb status => exact callsFor_notify s _ call hcall
  | _ => exact callsFor_singleton (fun c hc => by cases hc) call hcall

theorem callsFor_sendDeviceInfo (build : NodeBuild) (s : GattServer) :
    CallsFor command (s.sendDeviceInfo build) := by
  rw [GattServer.sendDeviceInfo]
  split
  · exact callsFor_nil
  · exact callsFor_notify s _

theorem callsFor_wifiEnable (w : Written) :
    CallsFor (some .wifiEnable) (GattServer.wifiEnable w) := by
  simp only [GattServer.wifiEnable]
  split
  · exact callsFor_nil
  · split
    · exact callsFor_nil
    · split
      · exact callsFor_nil
      · exact callsFor_singleton fun c hc => hc

end CallsFor

/-- **A driver is called for its own command**, and for a packet. -/
theorem command_of_mem_writeEvt {build : NodeBuild} {s : GattServer} {w : Written} {out : Outcomes}
    {call : NodeCall} (hcall : call ∈ (s.writeEvt build w out).2) {c : KlipCommand}
    (hc : call.command = some c) : w.IsPacket ∧ KlipCommand.ofCode (w.byte 2) = some c := by
  rw [GattServer.writeEvt] at hcall
  split at hcall
  · next hlen =>
      rw [GattServer.dispatchPacket] at hcall
      split at hcall
      · cases hcall
      · next hmagic =>
          refine ⟨⟨hlen, not_not.mp hmagic⟩, ?_⟩
          suffices hfor : CallsFor (KlipCommand.ofCode (w.byte 2)) _ from hfor call hcall c hc
          cases hcommand : KlipCommand.ofCode (w.byte 2) with
          | none => exact callsFor_nil
          | some command =>
              cases command with
              | heaterSet =>
                  refine callsFor_ite (List.forall_mem_cons.mpr ⟨fun c hc => hc, ?_⟩)
                  exact callsFor_singleton fun c hc => hc
              | otaBegin =>
                  simp only
                  split
                  · exact callsFor_afterOta s _
                  · exact callsFor_nil
              | _ =>
                  first
                    | exact callsFor_nil
                    | exact callsFor_notify s _
                    | exact callsFor_afterOta s _
                    | exact callsFor_wifiEnable w
                    | exact callsFor_sendDeviceInfo build s
                    | exact callsFor_ite (callsFor_singleton fun c hc => hc)
                    | exact callsFor_ite (callsFor_notify s _)
  · cases hcall

end Klippylink
