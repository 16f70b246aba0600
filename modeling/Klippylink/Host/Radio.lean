import Klippylink.Host.Api

/-!
# The host's handlers, and what they leave when they raise

`set_led_zone`, `clear_led_zone` and `set_radio` as they run, statement by statement: what
has been assigned stays assigned when a later statement raises.  Besides what `send_packet`
checks, the port itself may fail to take a frame.

## Main definitions

* `ApiState`, `Request` — the host, and a request that is served.
* `Request.perform` — a handler.
* `Request.setLedZone`, `Request.clearLedZone`, `Request.setRadio` — handlers.
* `ApiRequest` — a request, and its handler.
-/

namespace Klippylink

open Lib

/-! ## Handlers -/

/-- What ends a handler. -/
inductive RequestError
  | raised (e : ApiError)
  /-- `SerialException`, from `write`. -/
  | serialException
  deriving DecidableEq

/-- The modules that the handlers use, `radio` of each node, and the frames that the port
has taken. -/
structure ApiState where
  host : ApiHost
  radio : UInt8 → RadioSettings
  sent : List (List UInt8)

/-- What a handler assigns. -/
def ApiState.assign (s : ApiState) (nodeId : UInt8) : Option NodeChange → ApiState
  | some (.setRadio settings) => { s with radio := Function.update s.radio nodeId settings }
  | change => { s with host := s.host.assign nodeId change }

/-- A handler that runs: an exception keeps the state it is raised in. -/
abbrev Request := ExceptT RequestError (StateM ApiState)

namespace Request

/-- What a handler returns or raises, and the state it leaves. -/
def exec {α : Type} (m : Request α) (s : ApiState) : Except RequestError α × ApiState :=
  StateT.run (ExceptT.run m) s

/-- A computation that reads no state. -/
def raise {α : Type} (e : Except ApiError α) : Request α :=
  match e with
  | .ok a => pure a
  | .error e => throw (.raised e)

/-- `_get_node`. -/
def getNode (name : String) : Request NodeInfo := do
  raise ((← get).host.getNode name)

/-- `_transport.send_packet`, where the port takes the frame or not. -/
def sendPacket (writes : Bool) (nodeId : UInt8) (pkt : KlipPacket) : Request Unit := do
  let bytes ← raise ((← get).host.sendPacket nodeId pkt)
  if writes then modify fun s => { s with sent := s.sent ++ [bytes] }
  else throw .serialException

/-- What a handler assigns. -/
def assign (nodeId : UInt8) (change : Option NodeChange) : Request Unit :=
  modify fun s => s.assign nodeId change

/-- A handler. -/
def perform (writes : Bool) (name : String) (k : Handler) : Request Unit := do
  let node ← getNode name
  assign node.nodeId k.first
  let pkt ← raise k.packet
  sendPacket writes node.nodeId pkt
  assign node.nodeId k.last

/-- `set_led_zone`. -/
def setLedZone (writes : Bool) (name : String) (b : LedZoneBody) : Request Unit :=
  perform writes name (.setLedZone b)

/-- `clear_led_zone`. -/
def clearLedZone (writes : Bool) (name : String) (zoneId : ℤ) : Request Unit :=
  perform writes name (.clearLedZone zoneId)

/-- `set_radio`. -/
def setRadio (writes : Bool) (name : String) (b : RadioBody) : Request Unit :=
  perform writes name (.setRadio b)

end Request

/-- A request of the three. -/
inductive ApiRequest
  | setLedZone (name : String) (body : LedZoneBody)
  | clearLedZone (name : String) (zoneId : ℤ)
  | setRadio (name : String) (body : RadioBody)

/-- The handler of a request. -/
def ApiRequest.handle (writes : Bool) : ApiRequest → Request Unit
  | setLedZone name body => Request.setLedZone writes name body
  | clearLedZone name zoneId => Request.clearLedZone writes name zoneId
  | setRadio name body => Request.setRadio writes name body

/-! ### What a handler comes to -/

namespace Request

variable {α β : Type} (s : ApiState)

theorem exec_modify (f : ApiState → ApiState) :
    (modify f : Request Unit).exec s = (.ok (), f s) := rfl

theorem exec_bind (m : Request α) (k : α → Request β) :
    (m >>= k).exec s =
      match m.exec s with
      | (.ok a, s') => (k a).exec s'
      | (.error e, s') => (.error e, s') := by
  simp only [exec, ExceptT.run_bind, StateT.run_bind]
  cases (StateT.run (ExceptT.run m) s) with
  | mk result s' => cases result <;> rfl

theorem exec_raise (e : Except ApiError α) :
    (raise e).exec s = (e.mapError RequestError.raised, s) := by
  cases e <;> rfl

theorem exec_getNode (name : String) :
    (getNode name).exec s = ((s.host.getNode name).mapError RequestError.raised, s) :=
  exec_raise s _

theorem exec_sendPacket (writes : Bool) (nodeId : UInt8) (pkt : KlipPacket) :
    (sendPacket writes nodeId pkt).exec s =
      match s.host.sendPacket nodeId pkt with
      | .error e => (.error (.raised e), s)
      | .ok bytes =>
          if writes then (.ok (), { s with sent := s.sent ++ [bytes] })
          else (.error .serialException, s) := by
  have hsend : (sendPacket writes nodeId pkt).exec s =
      (raise (s.host.sendPacket nodeId pkt) >>= fun bytes =>
        if writes then modify fun s => { s with sent := s.sent ++ [bytes] }
        else throw .serialException : Request Unit).exec s := rfl
  rw [hsend, exec_bind, exec_raise]
  cases s.host.sendPacket nodeId pkt with
  | error e => rfl
  | ok bytes => cases writes <;> rfl

/-- **A handler that runs**: what it has assigned before it raises stays assigned. -/
theorem exec_perform (writes : Bool) (name : String) (k : Handler) :
    (perform writes name k).exec s =
      match s.host.getNode name with
      | .error e => (.error (.raised e), s)
      | .ok node =>
          let first := s.assign node.nodeId k.first
          match k.packet with
          | .error e => (.error (.raised e), first)
          | .ok pkt =>
              match first.host.sendPacket node.nodeId pkt with
              | .error e => (.error (.raised e), first)
              | .ok bytes =>
                  if writes then
                    (.ok (), ApiState.assign { first with sent := first.sent ++ [bytes] }
                      node.nodeId k.last)
                  else (.error .serialException, first) := by
  rw [perform, exec_bind, exec_getNode]
  cases s.host.getNode name with
  | error e => rfl
  | ok node =>
      simp only [Except.mapError, exec_bind, assign, exec_modify, exec_raise]
      cases k.packet with
      | error e => rfl
      | ok pkt =>
          simp only [exec_sendPacket]
          cases (s.assign node.nodeId k.first).host.sendPacket node.nodeId pkt with
          | error e => rfl
          | ok bytes => cases writes <;> rfl

/-- **A handler that assigns nothing to start with assigns nothing before its packet is on the
line.** -/
theorem exec_perform_last (writes : Bool) (name : String) (packet : Except ApiError KlipPacket)
    (change : NodeChange) (hzone : ∀ settings, change ≠ .setRadio settings) :
    (perform writes name ⟨none, packet, some change⟩).exec s =
      match s.host.perform name ⟨none, packet, some change⟩ with
      | .error e => (.error (.raised e), s)
      | .ok (host, _, bytes) =>
          if writes then (.ok (), { s with host := host, sent := s.sent ++ [bytes] })
          else (.error .serialException, s) := by
  have hassign : ∀ (s : ApiState) nodeId,
      s.assign nodeId (some change) = { s with host := s.host.assign nodeId (some change) } := by
    intro s nodeId
    cases change with
    | setRadio settings => exact absurd rfl (hzone settings)
    | setZone zone => rfl
    | clearZone zoneId => rfl
  rw [exec_perform, ApiHost.perform]
  cases s.host.getNode name with
  | error e => rfl
  | ok node =>
      cases packet with
      | error e => rfl
      | ok pkt =>
          have hhost : s.host.assign node.nodeId none = s.host := rfl
          have hstate : s.assign node.nodeId none = s := rfl
          simp only [hhost, hstate, hassign, bind, Except.bind, pure, Except.pure]
          cases s.host.sendPacket node.nodeId pkt <;> rfl

/-- So does `set_led_zone`. -/
theorem exec_setLedZone (writes : Bool) (name : String) (b : LedZoneBody) :
    (setLedZone writes name b).exec s =
      match s.host.setLedZone name b with
      | .error e => (.error (.raised e), s)
      | .ok (host, _, bytes) =>
          if writes then (.ok (), { s with host := host, sent := s.sent ++ [bytes] })
          else (.error .serialException, s) :=
  exec_perform_last s writes name _ _ nofun

/-- And `clear_led_zone`. -/
theorem exec_clearLedZone (writes : Bool) (name : String) (zoneId : ℤ) :
    (clearLedZone writes name zoneId).exec s =
      match s.host.clearLedZone name zoneId with
      | .error e => (.error (.raised e), s)
      | .ok (host, _, bytes) =>
          if writes then (.ok (), { s with host := host, sent := s.sent ++ [bytes] })
          else (.error .serialException, s) :=
  exec_perform_last s writes name _ _ nofun

end Request

end Klippylink
