import Klippylink.Protocol.Packet
import Klippylink.Router.CommandParser
import Klippylink.Router.NodeRegistry

/-!
# The router's BLE central

The callbacks of `ble_central.c` and the two ways a packet leaves the router: over
BLE with `ble_central_send_to_node`, over the serial link with
`serial_bridge_emit`.  A callback is a function from the router's state to the new
state and the calls it makes, in order.  The Bluetooth stack and the serial task
call it one callback at a time.

What a notification's packet announces may be longer than the value that arrived;
the bytes the handler then reads behind the value are part of the event.

## Main definitions

* `GattcConn`, `ConnTable` — `s_conns`.
* `Router` — the state of the firmware.
* `Action` — the calls into ESP-IDF and onto the serial link.
* `gattcEventHandler`, `gapEventHandler` — the callbacks.
* `bleCentralSendToNode`, `Router.dispatch`, `Router.feed` — commands to nodes.
-/

namespace Klippylink

open Lib

/-- `MAX_CONNS`. -/
def maxConns : ℕ := 8

/-- `KLIP_SVC_UUID`. -/
def klipSvcUuid : UInt16 := 0x4B4C

/-- `gattc_conn_t`. -/
structure GattcConn where
  connId : UInt16
  gattcIf : UInt16
  cmdHandle : UInt16
  telHandle : UInt16
  cccdHandle : UInt16
  cmdFound : Bool
  telFound : Bool
  cccdFound : Bool
  deriving DecidableEq

/-- `s_conns` and `s_conn_count`. -/
abbrev ConnTable := Table GattcConn maxConns

/-- `find_conn`. -/
def findConn (t : ConnTable) (connId : UInt16) : Option GattcConn :=
  t.find fun c => c.connId = connId

/-- `alloc_conn`; `none` when there is no free record. -/
def allocConn (t : ConnTable) (connId gattcIf : UInt16) : Option ConnTable :=
  t.push ⟨connId, gattcIf, 0, 0, 0, false, false, false⟩

/-- `free_conn`. -/
def freeConn (t : ConnTable) (connId : UInt16) : ConnTable :=
  t.removeFirst fun c => c.connId = connId

/-- The state of the router: the registry, the connection records, `s_gattc_if`
and the command parser. -/
structure Router where
  nodes : NodeTable
  conns : ConnTable
  gattcIf : UInt16
  rx : Rx

/-- The state after `app_main` has initialised the modules. -/
def Router.start : Router := ⟨Table.empty, Table.empty, 0, Rx.start⟩

/-- A call into ESP-IDF, or a frame onto the serial link. -/
inductive Action
  /-- `serial_bridge_emit`. -/
  | emit (nodeId : UInt8) (data : List UInt8)
  | setScanParams
  | startScanning
  | stopScanning
  /-- `esp_ble_gattc_open`. -/
  | gattcOpen (gattcIf : UInt16) (bda : BdAddr) (addrType : UInt8)
  | searchService (gattcIf connId : UInt16)
  /-- `esp_ble_gattc_write_char`. -/
  | writeChar (gattcIf connId handle : UInt16) (value : List UInt8)
  /-- `esp_ble_gattc_write_char_descr`. -/
  | writeCharDescr (gattcIf connId handle : UInt16) (value : List UInt8)
  deriving DecidableEq

/-! ## Commands to nodes -/

/-- `ble_central_send_to_node`. -/
def bleCentralSendToNode (r : Router) (connId : UInt16) (data : List UInt8) : List Action :=
  match findConn r.conns connId with
  | none => []
  | some c => if c.cmdFound then [.writeChar c.gattcIf connId c.cmdHandle data] else []

/-- `if (node && node->connected) ble_central_send_to_node(...)`. -/
def sendToSlot (r : Router) (data : List UInt8) (node : Option Node) : List Action :=
  match node with
  | none => []
  | some n => if n.connected then bleCentralSendToNode r n.connId data else []

/-- What `command_parser_feed` does with a completed packet. -/
def Router.dispatch (r : Router) (d : Dispatch) : List Action :=
  if d.nodeId = 0xFF then
    (List.range r.nodes.count).flatMap fun n => sendToSlot r d.packet (nodeGet r.nodes n)
  else sendToSlot r d.packet (nodeGet r.nodes d.nodeId.toNat)

/-- `command_parser_feed`.  Sending does not touch the parser or the registry, so
the packets of one call are dispatched in the same state. -/
def Router.feed (r : Router) (data : List UInt8) : Router × List Action :=
  let next := Transducer.run commandParserByte r.rx data
  ({ r with rx := next.1 }, next.2.flatMap r.dispatch)

/-! ## GATT client events -/

/-- What looking an attribute up comes to. -/
inductive Lookup
  | notFound
  | found (handle : UInt16)
  /-- The attribute is there and `malloc` fails. -/
  | noMemory
  deriving DecidableEq

/-- The attributes of the peer, as the lookups after a service search find them. -/
structure GattDb where
  cmd : Lookup
  tel : Lookup
  cccd : Lookup
  deriving DecidableEq

/-- A notification: its value, and what memory holds behind the value. -/
structure Notification where
  connId : UInt16
  value : List UInt8
  beyond : ℕ → UInt8

/-- The byte at offset `i` from the start of the value. -/
def Notification.byte (n : Notification) (i : ℕ) : UInt8 := n.value.getD i (n.beyond i)

/-- The events the GATT client callback gets. -/
inductive GattcEvent
  | reg (gattcIf : UInt16)
  | connect (gattcIf connId : UInt16) (bda : BdAddr)
  | searchRes (connId : UInt16)
  | searchCmpl (gattcIf connId : UInt16) (db : GattDb)
  | notify (n : Notification)
  | disconnect (connId : UInt16)
  /-- An attempt to open a connection failed; the callback has no case for it. -/
  | openFailed
  /-- Any other event the callback has no case for. -/
  | other

/-- `nid = node_id_by_conn_id(conn_id); if (nid >= 0) serial_bridge_emit(nid, ...)`. -/
def emitFor (nodes : NodeTable) (connId : UInt16) (data : List UInt8) : List Action :=
  match nodeIdByConnId nodes connId with
  | none => []
  | some nid => [.emit (UInt8.ofNat nid) data]

/-- `ESP_GATTC_CONNECT_EVT`. -/
def connectEvt (r : Router) (gattcIf connId : UInt16) (bda : BdAddr) : Router × List Action :=
  match allocConn r.conns connId gattcIf with
  | none => (r, [])
  | some conns =>
      let added := nodeAdd r.nodes bda connId
      let r := { r with conns := conns, nodes := added.1 }
      match added.2 with
      | none => (r, [])
      | some _ =>
          (r, emitFor r.nodes connId (bareHeader .ping) ++ [.searchService gattcIf connId])

/-- The record after one lookup: unchanged, or written by `set`. -/
def Lookup.store (l : Lookup) (set : UInt16 → GattcConn → GattcConn) (c : GattcConn) :
    Except Fault GattcConn :=
  match l with
  | notFound => .ok c
  | found handle => .ok (set handle c)
  | noMemory => .error .nullPointer

/-- The record after the lookups of `ESP_GATTC_SEARCH_CMPL_EVT`; the descriptor is
looked up under the telemetry characteristic. -/
def discover (db : GattDb) (c : GattcConn) : Except Fault GattcConn := do
  let c ← db.cmd.store (fun h c => { c with cmdHandle := h, cmdFound := true }) c
  let c ← db.tel.store (fun h c => { c with telHandle := h, telFound := true }) c
  match db.tel with
  | .found _ => db.cccd.store (fun h c => { c with cccdHandle := h, cccdFound := true }) c
  | _ => return c

/-- `ESP_GATTC_SEARCH_CMPL_EVT`. -/
def searchCmplEvt (r : Router) (gattcIf connId : UInt16) (db : GattDb) :
    Except Fault (Router × List Action) :=
  match findConn r.conns connId with
  | none => .ok (r, [])
  | some c => do
      let c ← discover db c
      let enable :=
        if c.cccdFound then [.writeCharDescr gattcIf connId c.cccdHandle (le16 0x0001)] else []
      let request :=
        if c.cmdFound then [.writeChar gattcIf connId c.cmdHandle (bareHeader .deviceInfoReq)]
        else []
      return ({ r with conns := r.conns.modifyFirst (fun d => d.connId = connId) fun _ => c },
        enable ++ request)

/-- The payload a notification's packet announces. -/
def Notification.payload (n : Notification) : List UInt8 :=
  (List.range (n.byte 3).toNat).map fun i => n.byte (klipHeaderSize + i)

/-- What a notification changes in the slot of its node. -/
def updateNode (parse : List UInt8 → Option CJson) (n : Notification) (node : Node) :
    Except Fault Node :=
  let command := n.byte 2
  let length := (n.byte 3).toNat
  if command = KlipCommand.deviceInfoResp.code then
    if 0 < length then
      -- `char json[KLIP_MAX_PAYLOAD_SIZE + 1]`
      if klipMaxPayloadSize < length then .error .bufferOverflow
      else nodeUpdateInfo parse node n.payload
    else .ok node
  else if command = KlipCommand.endstopState.code then
    if 2 ≤ length then .ok (nodeSetEndstop node (n.byte 4) (n.byte 5 ≠ 0)) else .ok node
  else .ok node

/-- The registry after a notification: `node_by_conn_id` names the slot. -/
def updateRegistry (parse : List UInt8 → Option CJson) (n : Notification) (nodes : NodeTable) :
    Except Fault NodeTable :=
  match nodeByConnId nodes n.connId with
  | none => .ok nodes
  | some i =>
      match nodeGet nodes i with
      | none => .ok nodes
      | some node => do
          let node ← updateNode parse n node
          return nodes.modifyAt i fun _ => node

/-- `ESP_GATTC_NOTIFY_EVT`.  The length is passed on in eight bits. -/
def notifyEvt (parse : List UInt8 → Option CJson) (r : Router) (n : Notification) :
    Except Fault (Router × List Action) :=
  if n.value.length < klipHeaderSize then .ok (r, [])
  else if ofLe16 (n.byte 0) (n.byte 1) ≠ klipprotoMagic then .ok (r, [])
  else do
    let nodes ← updateRegistry parse n r.nodes
    return ({ r with nodes := nodes },
      emitFor nodes n.connId (n.value.take (n.value.length % 256)))

/-- `ESP_GATTC_DISCONNECT_EVT`. -/
def disconnectEvt (r : Router) (connId : UInt16) : Router × List Action :=
  ({ r with nodes := nodeRemove r.nodes connId, conns := freeConn r.conns connId },
    emitFor r.nodes connId (bareHeader .error) ++ [.startScanning])

/-- `gattc_event_handler`. -/
def gattcEventHandler (parse : List UInt8 → Option CJson) (r : Router) :
    GattcEvent → Except Fault (Router × List Action)
  | .reg gattcIf => .ok ({ r with gattcIf := gattcIf }, [.setScanParams])
  | .connect gattcIf connId bda => .ok (connectEvt r gattcIf connId bda)
  | .searchRes _ => .ok (r, [])
  | .searchCmpl gattcIf connId db => searchCmplEvt r gattcIf connId db
  | .notify n => notifyEvt parse r n
  | .disconnect connId => .ok (disconnectEvt r connId)
  | .openFailed => .ok (r, [])
  | .other => .ok (r, [])

/-! ## GAP events -/

/-- The events the GAP callback gets.  `adv` is what `esp_ble_resolve_adv_data`
finds in the advertisement: the list of complete 16-bit service ids. -/
inductive GapEvent
  | scanParamSetComplete
  | scanResult (inquiryResult : Bool) (adv : Option (List UInt8)) (bda : BdAddr)
      (addrType : UInt8)
  | other

/-- The first service id of an advertisement is that of the nodes. -/
def isKlipAdv : Option (List UInt8) → Bool
  | some (a :: b :: _) => ofLe16 a b = klipSvcUuid
  | _ => false

/-- `gap_event_handler`. -/
def gapEventHandler (r : Router) : GapEvent → List Action
  | .scanParamSetComplete => [.startScanning]
  | .scanResult inquiryResult adv bda addrType =>
      if inquiryResult && isKlipAdv adv then
        [.stopScanning, .gattcOpen r.gattcIf bda addrType]
      else []
  | .other => []

/-! ## Calls that write to a node -/

/-- The connection a call writes a characteristic of. -/
def Action.target : Action → Option UInt16
  | .writeChar _ connId _ _ => some connId
  | _ => none

/-- Sending a packet to nodes makes writes and no other call. -/
theorem target_dispatch (r : Router) (d : Dispatch) :
    ∀ a ∈ r.dispatch d, a.target.isSome = true := by
  have hslot : ∀ (node : Option Node), ∀ a ∈ sendToSlot r d.packet node,
      a.target.isSome = true := by
    intro node a ha
    cases node with
    | none => cases ha
    | some n =>
        simp only [sendToSlot, bleCentralSendToNode] at ha
        split at ha
        · split at ha
          · cases ha
          · split at ha
            · rw [List.mem_singleton.mp ha]
              rfl
            · cases ha
        · cases ha
  intro a ha
  rw [Router.dispatch] at ha
  split at ha
  · obtain ⟨n, -, hn⟩ := List.mem_flatMap.mp ha
    exact hslot _ a hn
  · exact hslot _ a ha

/-- So does reading the serial port. -/
theorem target_feed (r : Router) (data : List UInt8) :
    ∀ a ∈ (r.feed data).2, a.target.isSome = true := by
  intro a ha
  obtain ⟨d, -, hd⟩ := List.mem_flatMap.mp ha
  exact target_dispatch r d a hd

end Klippylink
