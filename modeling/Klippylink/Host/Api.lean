import Klippylink.Host.DeviceManager
import Klippylink.Host.Handlers
import Mathlib.Logic.Function.Basic

/-!
# The host's HTTP handlers

A handler of `api_server.py` over the table of nodes, the transport and the zones that have been
recorded.  Whatever is raised on the way ends the handler; the port takes every frame.

## Main definitions

* `ApiHost` — the modules that the handlers use.
* `ApiHost.perform` — a handler.
* `setLedZone`, `clearLedZone`, `setHeater` — handlers.
-/

namespace Klippylink

open Lib

/-- The modules that the handlers use, with `led_zones` of each node. -/
structure ApiHost where
  manager : DeviceManager
  transport : SerialTransport
  zones : UInt8 → ℤ → Option LedZone

namespace DeviceManager

/-- The entry's name is this string. -/
def hasName (name : String) (n : NodeInfo) : Bool :=
  match n.name with
  | .str s => s = name
  | _ => false

/-- `get_node_by_name`. -/
def getNodeByName (m : DeviceManager) (name : String) : Option NodeInfo :=
  m.nodes.find? (hasName name)

end DeviceManager

namespace ApiHost

/-- `_get_node`. -/
def getNode (h : ApiHost) (name : String) : Except ApiError NodeInfo :=
  match h.manager.getNodeByName name with
  | none => .error .notFound
  | some node => if node.connected then .ok node else .error .notFound

/-- `_transport.send_packet`. -/
def sendPacket (h : ApiHost) (nodeId : UInt8) (pkt : KlipPacket) : Except ApiError (List UInt8) :=
  match h.transport.sendPacket nodeId.toNat pkt with
  | .error e => .error (.send e)
  | .ok bytes => .ok bytes

/-- An entry of `led_zones` of a node that is in the table. -/
def putZone (h : ApiHost) (nodeId : UInt8) (zoneId : ℤ) (zone : Option LedZone) : ApiHost :=
  if h.manager.get nodeId = none then h
  else
    let zones := Function.update (h.zones nodeId) zoneId zone
    { h with zones := Function.update h.zones nodeId zones }

/-- `DeviceManager.set_zone`. -/
def setZone (h : ApiHost) (nodeId : UInt8) (zone : LedZone) : ApiHost :=
  h.putZone nodeId zone.zoneId (some zone)

/-- `DeviceManager.clear_zone`. -/
def clearZone (h : ApiHost) (nodeId : UInt8) (zoneId : ℤ) : ApiHost :=
  h.putZone nodeId zoneId none

/-- What a handler assigns; the radio of a node is not looked at here. -/
def assign (h : ApiHost) (nodeId : UInt8) : Option NodeChange → ApiHost
  | some (.setZone zone) => h.setZone nodeId zone
  | some (.clearZone zoneId) => h.clearZone nodeId zoneId
  | _ => h

/-- A handler: the host after it, the node, and the bytes written. -/
def perform (h : ApiHost) (name : String) (k : Handler) :
    Except ApiError (ApiHost × UInt8 × List UInt8) := do
  let node ← h.getNode name
  let h := h.assign node.nodeId k.first
  let pkt ← k.packet
  let bytes ← h.sendPacket node.nodeId pkt
  return (h.assign node.nodeId k.last, node.nodeId, bytes)

/-- `set_led_zone`. -/
def setLedZone (h : ApiHost) (name : String) (b : LedZoneBody) :
    Except ApiError (ApiHost × UInt8 × List UInt8) :=
  h.perform name (.setLedZone b)

/-- `clear_led_zone`. -/
def clearLedZone (h : ApiHost) (name : String) (zoneId : ℤ) :
    Except ApiError (ApiHost × UInt8 × List UInt8) :=
  h.perform name (.clearLedZone zoneId)

/-- `set_heater`. -/
def setHeater {F : Type} (packFloat : F → Option UInt32) (h : ApiHost) (name : String)
    (b : HeaterBody F) : Except ApiError (ApiHost × UInt8 × List UInt8) :=
  h.perform name (.setHeater packFloat b)

end ApiHost

/-! ## What a handler comes to -/

namespace ApiHost

/-- The node that is found is in the table. -/
theorem getNode_ok {h : ApiHost} {name : String} {node : NodeInfo}
    (hnode : h.getNode name = .ok node) :
    h.manager.get node.nodeId ≠ none := by
  rw [getNode] at hnode
  split at hnode
  · cases hnode
  · next found hfound =>
      split at hnode
      · cases hnode
        intro hnone
        have hmem := List.mem_of_find?_eq_some hfound
        have hno := List.find?_eq_none.mp hnone node hmem
        simp at hno
      · cases hnode

/-- What is sent is the frame of the packet. -/
theorem sendPacket_ok {h : ApiHost} {nodeId : UInt8} {pkt : KlipPacket} {bytes : List UInt8}
    (hsend : h.sendPacket nodeId pkt = .ok bytes) (hlen : pkt.payload.length ≤ 255) :
    bytes = Frame.bytes ⟨nodeId, pkt⟩ := by
  rw [sendPacket] at hsend
  by_cases hopen : h.transport.isOpen = true
  · rw [SerialTransport.sendPacket_eq hopen nodeId hlen] at hsend
    cases hsend
    rfl
  · have herror : h.transport.sendPacket nodeId.toNat pkt = .error .portNotOpen := by
      simp [SerialTransport.sendPacket, hopen]
    rw [herror] at hsend
    cases hsend

/-- A packet whose length fits its byte is sent when the port is open. -/
theorem sendPacket_isOk {h : ApiHost} {nodeId : UInt8} {pkt : KlipPacket}
    (hlen : pkt.payload.length ≤ 255) :
    (∃ bytes, h.sendPacket nodeId pkt = .ok bytes) ↔ h.transport.isOpen = true := by
  rw [sendPacket]
  by_cases hopen : h.transport.isOpen = true
  · rw [SerialTransport.sendPacket_eq hopen nodeId hlen]
    simp [hopen]
  · simp [SerialTransport.sendPacket, hopen]

/-- What a handler that returns has done. -/
theorem perform_eq_ok {h h' : ApiHost} {name : String} {k : Handler} {nodeId : UInt8}
    {bytes : List UInt8} :
    h.perform name k = .ok (h', nodeId, bytes) ↔
      ∃ node pkt, h.getNode name = .ok node ∧ node.nodeId = nodeId ∧ k.packet = .ok pkt ∧
        (h.assign nodeId k.first).sendPacket nodeId pkt = .ok bytes ∧
          h' = (h.assign nodeId k.first).assign nodeId k.last := by
  constructor
  · intro hok
    obtain ⟨node, hnode, hok⟩ := bind_eq_ok.mp hok
    obtain ⟨pkt, hpkt, hok⟩ := bind_eq_ok.mp hok
    obtain ⟨sent, hsend, hret⟩ := bind_eq_ok.mp hok
    cases hret
    exact ⟨node, pkt, hnode, rfl, hpkt, hsend, rfl⟩
  · intro hok
    obtain ⟨node, pkt, hnode, rfl, hpkt, hsend, rfl⟩ := hok
    exact bind_eq_ok.mpr ⟨node, hnode, bind_eq_ok.mpr ⟨pkt, hpkt, bind_eq_ok.mpr
      ⟨bytes, hsend, rfl⟩⟩⟩

/-- **When a heater is set**: the node is found, every number packs, and the port is
open. -/
theorem setHeater_isOk {F : Type} {packFloat : F → Option UInt32} {h : ApiHost} {name : String}
    {b : HeaterBody F} {nodeId : UInt8} :
    (∃ h' bytes, h.setHeater packFloat name b = .ok (h', nodeId, bytes)) ↔
      (∃ node, h.getNode name = .ok node ∧ node.nodeId = nodeId) ∧
        (∃ bits, [b.targetTemp, b.kp, b.ki, b.kd].mapM packFloat = some bits) ∧
          h.transport.isOpen = true := by
  constructor
  · intro hset
    obtain ⟨h', bytes, hset⟩ := hset
    obtain ⟨node, pkt, hnode, hid, hpkt, hsend, -⟩ := perform_eq_ok.mp hset
    have hpkt := orRaise_eq_ok.mp hpkt
    have hopen := (sendPacket_isOk (length_makeHeaterSet hpkt)).mp ⟨bytes, hsend⟩
    obtain ⟨bits, hbits, -⟩ := Option.map_eq_some_iff.mp hpkt
    exact ⟨⟨node, hnode, hid⟩, ⟨bits, hbits⟩, hopen⟩
  · intro hset
    obtain ⟨⟨node, hnode, rfl⟩, ⟨bits, hbits⟩, hopen⟩ := hset
    have hpkt : makeHeaterSet packFloat b.targetTemp b.kp b.ki b.kd = some _ :=
      Option.map_eq_some_iff.mpr ⟨bits, hbits, rfl⟩
    obtain ⟨sent, hsend⟩ := (sendPacket_isOk (length_makeHeaterSet hpkt)).mpr hopen
    exact ⟨h, sent, perform_eq_ok.mpr
      ⟨node, _, hnode, rfl, orRaise_eq_ok.mpr hpkt, hsend, rfl⟩⟩

theorem zones_putZone {h : ApiHost} {nodeId : UInt8} (hnode : h.manager.get nodeId ≠ none)
    (zoneId : ℤ) (zone : Option LedZone) :
    (h.putZone nodeId zoneId zone).zones nodeId =
      Function.update (h.zones nodeId) zoneId zone := by
  rw [putZone, if_neg hnode]
  exact Function.update_self _ _ _

end ApiHost

end Klippylink
