import Klippylink.Host.Builders
import Klippylink.Host.Radio
import Klippylink.Lib.Dict
import Klippylink.Node.WifiNode

/-!
# The host's HTTP interface

The handlers of `api_server.py` over everything that they read and write, with what they
answer.  `led_zones` of a node is a dictionary, in the order in which its zones were first set.
The handlers that send are here with those that list what has been recorded.

## Main definitions

* `ApiServer` — the modules, with `led_zones` and `radio` of each node.
* `ApiServer.perform` — a handler that sends.
* `ApiCall`, `ApiServer.call` — a request, and its handler.
* `ApiServer.state` — the server as the handlers of `Radio` see it.
* `plain_apiCall` — the handlers that assign do what those of `Radio` do.
-/

namespace Klippylink

open Lib

/-- The modules that the handlers use, `led_zones` and `radio` of each node, and the frames
that the port has taken. -/
structure ApiServer where
  manager : DeviceManager
  transport : SerialTransport
  ledZones : UInt8 → Dict ℤ LedZone
  radio : UInt8 → RadioSettings
  sent : List (List UInt8)

/-- A request. -/
inductive ApiCall (F : Type)
  | getInfo
  | listNodes
  | nodeStatus (name : String)
  | listLedZones (name : String)
  | setLedZone (name : String) (body : LedZoneBody)
  | clearLedZone (name : String) (zoneId : ℤ)
  | getRadio (name : String)
  | setRadio (name : String) (body : RadioBody)
  | enableWifi (name ssid password : String)
  | setHeater (name : String) (body : HeaterBody F)

/-- What a handler returns or raises, and the server it leaves. -/
abbrev ApiAnswer := Except RequestError PyValue × ApiServer

/-- A zone in a listing. -/
def LedZone.json (z : LedZone) : PyValue :=
  .dict [("zone_id", .int z.zoneId), ("strip", .int z.strip), ("start", .int z.start),
    ("count", .int z.count), ("effect", .int z.effect), ("color", .list (z.color.map .int)),
    ("color2", .list (z.color2.map .int)), ("brightness", .int z.brightness),
    ("speed", .int z.speed), ("name", .str z.name)]

/-- The settings of a radio, as they are returned. -/
def RadioSettings.json (r : RadioSettings) : PyValue :=
  .dict [("power", .int r.power), ("channel", .int r.channel),
    ("conn_interval_ms", .int r.connIntervalMs), ("telemetry_enabled", .bool r.telemetryEnabled)]

/-- `enable_wifi`. -/
def Handler.enableWifi (ssid password : String) : Handler where
  packet := orRaise .valueError (makeWifiEnable ssid.toUTF8.toList password.toUTF8.toList)

/-- `{"ok": True}`. -/
def okJson : PyValue := .dict [("ok", .bool true)]

namespace ApiServer

/-- The server as the handlers of `Radio` see it. -/
def state (s : ApiServer) : ApiState :=
  ⟨⟨s.manager, s.transport, fun i zoneId => (s.ledZones i).get zoneId⟩, s.radio, s.sent⟩

section Steps

variable {α : Type} (s : ApiServer)

/-- What may raise, and what comes after it. -/
def raising (e : Except ApiError α) (next : α → ApiAnswer) : ApiAnswer :=
  match e with
  | .error e => (.error (.raised e), s)
  | .ok a => next a

/-- `_get_node`, and what comes after it. -/
def withNode (name : String) (next : NodeInfo → ApiAnswer) : ApiAnswer :=
  s.raising (s.state.host.getNode name) next

/-- `_transport.send_packet`, where the port takes the frame or not, and what comes after. -/
def sending (writes : Bool) (nodeId : UInt8) (pkt : KlipPacket) (next : ApiServer → ApiAnswer) :
    ApiAnswer :=
  s.raising (s.state.host.sendPacket nodeId pkt) fun bytes =>
    if writes then next { s with sent := s.sent ++ [bytes] } else (.error .serialException, s)

/-- `DeviceManager.set_zone`. -/
def setZone (nodeId : UInt8) (zone : LedZone) : ApiServer :=
  if s.manager.get nodeId = none then s
  else { s with
    ledZones := Function.update s.ledZones nodeId ((s.ledZones nodeId).put zone.zoneId zone) }

/-- `DeviceManager.clear_zone`. -/
def clearZone (nodeId : UInt8) (zoneId : ℤ) : ApiServer :=
  if s.manager.get nodeId = none then s
  else { s with ledZones := Function.update s.ledZones nodeId ((s.ledZones nodeId).pop zoneId) }

/-- What a handler assigns. -/
def assign (nodeId : UInt8) : Option NodeChange → ApiServer
  | none => s
  | some (.setZone zone) => s.setZone nodeId zone
  | some (.clearZone zoneId) => s.clearZone nodeId zoneId
  | some (.setRadio settings) => { s with radio := Function.update s.radio nodeId settings }

/-- A handler that sends. -/
def perform (writes : Bool) (name : String) (k : Handler) (answer : PyValue) : ApiAnswer :=
  s.withNode name fun node =>
    let s := s.assign node.nodeId k.first
    s.raising k.packet fun pkt =>
      s.sending writes node.nodeId pkt fun s => (.ok answer, s.assign node.nodeId k.last)

end Steps

variable (s : ApiServer) (writes : Bool) (name : String)

/-- `get_info`. -/
def getInfo : PyValue :=
  .dict [("firmware", .str "klippylink-host"),
    ("nodes_connected", .int (s.manager.nodes.countP NodeInfo.connected))]

/-- `list_nodes`. -/
def listNodes : PyValue :=
  .list (s.manager.nodes.map fun n =>
    .dict [("node_id", .int n.nodeId.toNat), ("name", n.name), ("connected", .bool n.connected),
      ("last_seen", .float (toString n.lastSeen)), ("capabilities", n.capabilities)])

/-- `node_status`. -/
def nodeStatus : ApiAnswer :=
  s.withNode name fun node =>
    (.ok (.dict [("node_id", .int node.nodeId.toNat), ("name", node.name),
      ("connected", .bool node.connected), ("capabilities", node.capabilities)]), s)

/-- `list_led_zones`. -/
def listLedZones : ApiAnswer :=
  s.withNode name fun node =>
    (.ok (.list ((s.ledZones node.nodeId).values.map LedZone.json)), s)

/-- `set_led_zone`. -/
def setLedZone (b : LedZoneBody) : ApiAnswer := s.perform writes name (.setLedZone b) okJson

/-- `clear_led_zone`. -/
def clearLedZone (zoneId : ℤ) : ApiAnswer := s.perform writes name (.clearLedZone zoneId) okJson

/-- `get_radio`. -/
def getRadio : ApiAnswer :=
  s.withNode name fun node => (.ok (s.radio node.nodeId).json, s)

/-- `set_radio`. -/
def setRadio (b : RadioBody) : ApiAnswer := s.perform writes name (.setRadio b) okJson

/-- `enable_wifi`. -/
def enableWifi (ssid password : String) : ApiAnswer :=
  s.perform writes name (.enableWifi ssid password)
    (.dict [("ok", .bool true),
      ("message", .str "WIFI_ENABLE sent — watch for WIFI_STATUS event")])

/-- `set_heater`. -/
def setHeater {F : Type} (packFloat : F → Option UInt32) (b : HeaterBody F) : ApiAnswer :=
  s.perform writes name (.setHeater packFloat b) okJson

/-- The handler of a request. -/
def call {F : Type} (packFloat : F → Option UInt32) : ApiCall F → ApiAnswer
  | .getInfo => (.ok s.getInfo, s)
  | .listNodes => (.ok s.listNodes, s)
  | .nodeStatus name => s.nodeStatus name
  | .listLedZones name => s.listLedZones name
  | .setLedZone name body => s.setLedZone writes name body
  | .clearLedZone name zoneId => s.clearLedZone writes name zoneId
  | .getRadio name => s.getRadio name
  | .setRadio name body => s.setRadio writes name body
  | .enableWifi name ssid password => s.enableWifi writes name ssid password
  | .setHeater name body => s.setHeater writes name packFloat body

end ApiServer

/-- The handler of a request that sends, with the name of its node. -/
def ApiCall.handler {F : Type} (packFloat : F → Option UInt32) :
    ApiCall F → Option (String × Handler)
  | .setLedZone name body => some (name, .setLedZone body)
  | .clearLedZone name zoneId => some (name, .clearLedZone zoneId)
  | .setRadio name body => some (name, .setRadio body)
  | .enableWifi name ssid password => some (name, .enableWifi ssid password)
  | .setHeater name body => some (name, .setHeater packFloat body)
  | .getInfo | .listNodes | .nodeStatus _ | .listLedZones _ | .getRadio _ => none

/-! ### What a handler leaves -/

section Leaves

variable {α : Type} {P : ApiServer → Prop} {s : ApiServer}

theorem keeps_raising {e : Except ApiError α} {next : α → ApiAnswer} (hs : P s)
    (h : ∀ a, e = .ok a → P (next a).2) : P (s.raising e next).2 := by
  cases e with
  | error e => exact hs
  | ok a => exact h a rfl

theorem keeps_withNode {name : String} {next : NodeInfo → ApiAnswer} (hs : P s)
    (h : ∀ node, s.manager.get node.nodeId ≠ none → P (next node).2) :
    P (s.withNode name next).2 :=
  keeps_raising hs fun node hnode => h node (ApiHost.getNode_ok hnode)

theorem keeps_sending {writes : Bool} {nodeId : UInt8} {pkt : KlipPacket}
    {next : ApiServer → ApiAnswer} (hs : P s)
    (h : ∀ bytes, s.state.host.sendPacket nodeId pkt = .ok bytes →
      P (next { s with sent := s.sent ++ [bytes] }).2) :
    P (s.sending writes nodeId pkt next).2 := by
  refine keeps_raising hs fun bytes hbytes => ?_
  cases writes with
  | false => exact hs
  | true => exact h bytes hbytes

/-- What a handler that sends leaves: nothing, what it has assigned first, or all of it. -/
theorem keeps_perform {writes : Bool} {name : String} {k : Handler} {answer : PyValue} (hs : P s)
    (hfirst : ∀ node : NodeInfo, s.manager.get node.nodeId ≠ none →
      P (s.assign node.nodeId k.first))
    (hlast : ∀ (node : NodeInfo) pkt bytes, s.manager.get node.nodeId ≠ none →
      k.packet = .ok pkt →
      (s.assign node.nodeId k.first).state.host.sendPacket node.nodeId pkt = .ok bytes →
      P (ApiServer.assign
        { s.assign node.nodeId k.first with
          sent := (s.assign node.nodeId k.first).sent ++ [bytes] } node.nodeId k.last)) :
    P (s.perform writes name k answer).2 :=
  keeps_withNode hs fun node hnode => keeps_raising (hfirst node hnode) fun pkt hpkt =>
    keeps_sending (hfirst node hnode) fun bytes hsend => hlast node pkt bytes hnode hpkt hsend

/-- **A request leaves** nothing, or what its handler does. -/
theorem keeps_call {F : Type} {packFloat : F → Option UInt32} {writes : Bool} {c : ApiCall F}
    (hs : P s) (h : ∀ name k answer, c.handler packFloat = some (name, k) →
      P (s.perform writes name k answer).2) : P (s.call writes packFloat c).2 := by
  cases c with
  | getInfo | listNodes => exact hs
  | nodeStatus name | listLedZones name | getRadio name => exact keeps_withNode hs fun _ _ => hs
  | setLedZone name body => exact h name _ _ rfl
  | clearLedZone name zoneId => exact h name _ _ rfl
  | setRadio name body => exact h name _ _ rfl
  | enableWifi name ssid password => exact h name _ _ rfl
  | setHeater name body => exact h name _ _ rfl

end Leaves

section Assign

variable (s : ApiServer) (nodeId : UInt8) (change : Option NodeChange)

/-- What a handler assigns, it assigns to a node of the table. -/
@[simp] theorem manager_assign : (s.assign nodeId change).manager = s.manager := by
  match change with
  | none | some (.setRadio settings) => rfl
  | some (.setZone zone) => exact apply_ite ApiServer.manager _ _ _ |>.trans (ite_self _)
  | some (.clearZone zoneId) => exact apply_ite ApiServer.manager _ _ _ |>.trans (ite_self _)

@[simp] theorem sent_assign : (s.assign nodeId change).sent = s.sent := by
  match change with
  | none | some (.setRadio settings) => rfl
  | some (.setZone zone) => exact apply_ite ApiServer.sent _ _ _ |>.trans (ite_self _)
  | some (.clearZone zoneId) => exact apply_ite ApiServer.sent _ _ _ |>.trans (ite_self _)

end Assign

/-! ## The handlers that assign -/

/-- An answer as the handlers of `Radio` give it. -/
def ApiAnswer.plain (a : ApiAnswer) : Except RequestError Unit × ApiState :=
  (a.1.map fun _ => (), a.2.state)

section Plain

variable {α : Type} {s : ApiServer}

theorem plain_raising {e : Except ApiError α} {next : α → ApiAnswer} {k : α → Request Unit}
    (h : ∀ a, (next a).plain = (k a).exec s.state) :
    (s.raising e next).plain = (Request.raise e >>= k).exec s.state := by
  rw [Request.exec_bind, Request.exec_raise]
  cases e with
  | error e => rfl
  | ok a => exact h a

theorem plain_withNode {name : String} {next : NodeInfo → ApiAnswer} {k : NodeInfo → Request Unit}
    (h : ∀ node, (next node).plain = (k node).exec s.state) :
    (s.withNode name next).plain = (Request.getNode name >>= k).exec s.state := by
  rw [Request.exec_bind, Request.exec_getNode, ApiServer.withNode, plain_raising h,
    Request.exec_bind, Request.exec_raise]

theorem plain_sending {writes : Bool} {nodeId : UInt8} {pkt : KlipPacket}
    {next : ApiServer → ApiAnswer} {k : Unit → Request Unit}
    (h : ∀ s, (next s).plain = (k ()).exec s.state) :
    (s.sending writes nodeId pkt next).plain =
      (Request.sendPacket writes nodeId pkt >>= k).exec s.state := by
  rw [Request.exec_bind, Request.exec_sendPacket, ApiServer.sending]
  cases s.state.host.sendPacket nodeId pkt with
  | error e => rfl
  | ok bytes =>
      cases writes with
      | false => rfl
      | true => exact h _

/-- The zones of the dictionaries, one of which has been written. -/
theorem get_update_ledZones (zones : UInt8 → Dict ℤ LedZone) {nodeId : UInt8} {d : Dict ℤ LedZone}
    {zoneId : ℤ} {zone : Option LedZone}
    (h : ∀ z, d.get z = if z = zoneId then zone else (zones nodeId).get z) :
    (fun i z => (Function.update zones nodeId d i).get z) =
      Function.update (fun i z => (zones i).get z) nodeId
        (Function.update (fun z => (zones nodeId).get z) zoneId zone) := by
  funext i z
  by_cases hi : i = nodeId
  · subst hi
    rw [Function.update_self, Function.update_self, Function.update_apply, h]
  · rw [Function.update_of_ne hi, Function.update_of_ne hi]

theorem state_setZone (nodeId : UInt8) (zone : LedZone) :
    (s.setZone nodeId zone).state = { s.state with host := s.state.host.setZone nodeId zone } := by
  have hmanager : s.state.host.manager = s.manager := rfl
  simp only [ApiServer.setZone, ApiHost.setZone, ApiHost.putZone, hmanager]
  split
  · rfl
  · simp only [ApiServer.state, get_update_ledZones s.ledZones ((s.ledZones nodeId).get_put _ _)]

theorem state_clearZone (nodeId : UInt8) (zoneId : ℤ) :
    (s.clearZone nodeId zoneId).state =
      { s.state with host := s.state.host.clearZone nodeId zoneId } := by
  have hmanager : s.state.host.manager = s.manager := rfl
  simp only [ApiServer.clearZone, ApiHost.clearZone, ApiHost.putZone, hmanager]
  split
  · rfl
  · simp only [ApiServer.state, get_update_ledZones s.ledZones ((s.ledZones nodeId).get_pop _)]

theorem state_assign (nodeId : UInt8) (change : Option NodeChange) :
    (s.assign nodeId change).state = s.state.assign nodeId change := by
  match change with
  | none => rfl
  | some (.setRadio settings) => rfl
  | some (.setZone zone) => exact state_setZone nodeId zone
  | some (.clearZone zoneId) => exact state_clearZone nodeId zoneId

/-- A handler does what that of `Radio` does. -/
theorem plain_perform (writes : Bool) (name : String) (k : Handler) (answer : PyValue) :
    (s.perform writes name k answer).plain = (Request.perform writes name k).exec s.state := by
  refine plain_withNode fun node => ?_
  rw [Request.exec_bind, Request.assign, Request.exec_modify, ← state_assign]
  refine plain_raising fun pkt => plain_sending fun s => ?_
  rw [Request.assign, Request.exec_modify, ← state_assign]
  rfl

end Plain

/-- A request of the three. -/
def ApiRequest.apiCall (F : Type) : ApiRequest → ApiCall F
  | setLedZone name body => .setLedZone name body
  | clearLedZone name zoneId => .clearLedZone name zoneId
  | setRadio name body => .setRadio name body

/-- **The handlers that assign do what those of `Radio` do**, to the server as they see it. -/
theorem plain_apiCall {F : Type} (packFloat : F → Option UInt32) (s : ApiServer) (writes : Bool)
    (req : ApiRequest) :
    (s.call writes packFloat (req.apiCall F)).plain = (req.handle writes).exec s.state := by
  cases req with
  | setLedZone name body => exact plain_perform writes name _ _
  | clearLedZone name zoneId => exact plain_perform writes name _ _
  | setRadio name body => exact plain_perform writes name _ _

end Klippylink
