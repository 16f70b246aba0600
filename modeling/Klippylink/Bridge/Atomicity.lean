import Klippylink.Bridge.Zones
import Klippylink.Host.Radio

/-!
# Requests that are carried out as a whole

A request that raises should leave every node's record as it was, and one that returns ok
should have sent the packet of the state it leaves.  The zone handlers record last;
`set_radio` records first.

## Main definitions

* `ApiRequest.Described` — the packet of the new state has been handed over.
* `ApiRequest.Atomic` — a request is carried out as a whole.
* `atomic_iff` — when it is.
-/

namespace Klippylink

open Lib

/-- The packet that describes the new state has been handed to the port. -/
def ApiRequest.Described (req : ApiRequest) (s s' : ApiState) : Prop :=
  match req with
  | .setLedZone name b => ∃ node bytes, s.host.getNode name = .ok node ∧
      s'.sent = s.sent ++ [bytes] ∧
      Called s.host s'.host node.nodeId (b.zoneId, some b) bytes
  | .clearLedZone name zoneId => ∃ node bytes, s.host.getNode name = .ok node ∧
      s'.sent = s.sent ++ [bytes] ∧ Called s.host s'.host node.nodeId (zoneId, none) bytes
  | .setRadio name b => ∃ (node : NodeInfo) (p c : UInt8) (i : UInt16),
      s.host.getNode name = .ok node ∧
      s'.sent = s.sent ++ [Frame.bytes ⟨node.nodeId, radioSetPacket p c i b.telemetryEnabled⟩] ∧
      s'.radio node.nodeId = ⟨p.toNat, c.toNat, i.toNat, b.telemetryEnabled⟩

/-- Every node's record is as it was. -/
structure ApiState.SameNodes (s s' : ApiState) : Prop where
  manager : s'.host.manager = s.host.manager
  zones : s'.host.zones = s.host.zones
  radio : s'.radio = s.radio

/-- A request that raises changes no record, and one that returns ok has handed over the
packet of the new state. -/
def ApiRequest.Atomic (req : ApiRequest) (writes : Bool) (s : ApiState) : Prop :=
  match (req.handle writes).exec s with
  | (.error _, s') => s.SameNodes s'
  | (.ok _, s') => req.Described s s'

theorem ApiState.SameNodes.refl (s : ApiState) : s.SameNodes s := ⟨rfl, rfl, rfl⟩

variable (writes : Bool) (s : ApiState) (name : String)

/-- **`set_led_zone` is carried out as a whole.** -/
theorem atomic_setLedZone (b : LedZoneBody) : (ApiRequest.setLedZone name b).Atomic writes s := by
  rw [ApiRequest.Atomic, ApiRequest.handle, Request.exec_setLedZone]
  cases hset : s.host.setLedZone name b with
  | error e => exact .refl s
  | ok r =>
      obtain ⟨host, nodeId, bytes⟩ := r
      cases writes with
      | false => exact .refl s
      | true =>
          obtain ⟨node, -, hnode, rfl, -⟩ := ApiHost.perform_eq_ok.mp hset
          exact ⟨node, bytes, hnode, rfl, setLedZone_ok hset⟩

/-- **So is `clear_led_zone`.** -/
theorem atomic_clearLedZone (zoneId : ℤ) :
    (ApiRequest.clearLedZone name zoneId).Atomic writes s := by
  rw [ApiRequest.Atomic, ApiRequest.handle, Request.exec_clearLedZone]
  cases hclear : s.host.clearLedZone name zoneId with
  | error e => exact .refl s
  | ok r =>
      obtain ⟨host, nodeId, bytes⟩ := r
      cases writes with
      | false => exact .refl s
      | true =>
          obtain ⟨node, -, hnode, rfl, -⟩ := ApiHost.perform_eq_ok.mp hclear
          exact ⟨node, bytes, hnode, rfl, clearLedZone_ok hclear⟩

/-- A record that has been assigned is as it was when the settings are those it had. -/
theorem sameNodes_assigned_iff (nodeId : UInt8) (settings : RadioSettings) :
    s.SameNodes { s with radio := Function.update s.radio nodeId settings } ↔
      s.radio nodeId = settings := by
  constructor
  · intro h
    have hradio := congrFun h.radio nodeId
    simp only [Function.update_self] at hradio
    exact hradio.symm
  · intro h
    refine ⟨rfl, rfl, ?_⟩
    simp only [← h, Function.update_eq_self]

/-- **`set_radio` is carried out as a whole** when it finds no node, or its fields pack and
the port takes the frame, or the settings are those the node had. -/
theorem atomic_setRadio_iff (b : RadioBody) :
    (ApiRequest.setRadio name b).Atomic writes s ↔
      ∀ node, s.host.getNode name = .ok node →
        b.Fits ∧ s.host.transport.isOpen = true ∧ writes = true ∨
          s.radio node.nodeId = b.settings := by
  rw [ApiRequest.Atomic, ApiRequest.handle, Request.setRadio, Request.exec_perform]
  cases hnode : s.host.getNode name with
  | error e => exact iff_of_true (.refl s) fun node h => by cases h
  | ok node =>
      simp only [Except.ok.injEq, forall_eq', Handler.setRadio, ApiState.assign]
      cases hpack : makeRadioSet b.power b.channel b.connIntervalMs b.telemetryEnabled with
      | none =>
          have hfits : ¬ b.Fits := by
            rw [RadioBody.fits_iff, hpack]
            simp
          simp only [orRaise, hfits, false_and, false_or]
          exact sameNodes_assigned_iff s node.nodeId b.settings
      | some pkt =>
          have hfits : b.Fits := b.fits_iff.mpr ⟨pkt, hpack⟩
          obtain ⟨p, c, i, hp, hc, hi, rfl⟩ := makeRadioSet_eq_some.mp hpack
          have hlen : (radioSetPacket p c i b.telemetryEnabled).payload.length ≤ 255 :=
            Nat.le_of_ble_eq_true rfl
          have hopen : (∃ bytes, s.host.sendPacket node.nodeId
              (radioSetPacket p c i b.telemetryEnabled) = .ok bytes) ↔
                s.host.transport.isOpen = true := ApiHost.sendPacket_isOk hlen
          simp only [orRaise, hfits, true_and]
          cases hsend : s.host.sendPacket node.nodeId (radioSetPacket p c i b.telemetryEnabled) with
          | error e =>
              have hclosed : ¬ s.host.transport.isOpen = true := by
                rw [← hopen, hsend]
                simp
              rw [or_iff_right fun hand => hclosed hand.1]
              exact sameNodes_assigned_iff s node.nodeId b.settings
          | ok bytes =>
              cases writes with
              | false =>
                  simp only [Bool.false_eq_true, if_false, and_false, false_or]
                  exact sameNodes_assigned_iff s node.nodeId b.settings
              | true =>
                  have hbytes := ApiHost.sendPacket_ok hsend hlen
                  refine iff_of_true ⟨node, p, c, i, hnode, by rw [hbytes], ?_⟩
                    (.inl ⟨hopen.mp ⟨bytes, hsend⟩, rfl⟩)
                  simp only [Function.update_self, RadioBody.settings, hp, hc, hi]

/-- **A request is carried out as a whole** unless it is a `set_radio` that finds its node,
whose settings are not those the node has, and whose fields do not pack or whose frame the
port does not take. -/
theorem atomic_iff (req : ApiRequest) :
    req.Atomic writes s ↔ ∀ name b, req = .setRadio name b →
      ∀ node, s.host.getNode name = .ok node →
        b.Fits ∧ s.host.transport.isOpen = true ∧ writes = true ∨
          s.radio node.nodeId = b.settings := by
  cases req with
  | setLedZone name b => exact iff_of_true (atomic_setLedZone writes s name b) (by simp)
  | clearLedZone name zoneId =>
      exact iff_of_true (atomic_clearLedZone writes s name zoneId) (by simp)
  | setRadio name b =>
      rw [atomic_setRadio_iff]
      constructor
      · intro h name' b' heq
        cases heq
        exact h
      · exact fun h => h name b rfl

/-- The host with the connected node "lamp", whose radio is as it was created. -/
def lampState : ApiState := ⟨lampHost, fun _ => {}, []⟩

/-- A power of 300 does not pack, and is recorded. -/
theorem power300_not_atomic :
    ¬ (ApiRequest.setRadio "lamp" { power := 300 }).Atomic true lampState := by
  intro h
  have hradio := congrFun h.radio 0
  revert hradio
  decide

end Klippylink
