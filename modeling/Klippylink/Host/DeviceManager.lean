import Klippylink.Protocol.Packet
import Mathlib.Data.Int.Notation
import Mathlib.Data.List.Nodup

/-!
# The host's table of nodes

`DeviceManager.on_packet` keeps a `NodeInfo` for every node id it has seen a PING
for.  A PING marks the node connected and an ERROR marks it disconnected; a device
info packet is parsed as JSON, and whatever is raised on the way is caught and
leaves the table as it was.

The dictionary `_nodes` is a list of entries with distinct keys, in insertion
order.  `json.loads` after `decode()` is the parameter `loads`, `none` when either
raises.

## Main definitions

* `PyValue` — what `json.loads` returns.
* `NodeInfo`, `DeviceManager` — the table.
* `DeviceManager.onPacket` — `on_packet`.
* `DeviceManager.Present` — there is an entry and it is connected.
-/

namespace Klippylink

open Lib

/-- A value that `json.loads` returns. -/
inductive PyValue
  | none
  | bool (b : Bool)
  | int (n : ℤ)
  /-- A float, by its text. -/
  | float (text : String)
  | str (s : String)
  | list (items : List PyValue)
  | dict (items : List (String × PyValue))

/-- `info.get(key, default)`; `none` when `info` is no dictionary and the call
raises. -/
def PyValue.get (info : PyValue) (key : String) (default : PyValue) : Option PyValue :=
  match info with
  | dict items => some ((items.find? fun p => p.1 = key).elim default Prod.snd)
  | _ => Option.none

/-- `NodeInfo`, as far as packets change it. -/
structure NodeInfo where
  nodeId : UInt8
  name : PyValue
  connected : Bool
  capabilities : PyValue
  lastSeen : ℕ

/-- `_nodes`. -/
structure DeviceManager where
  nodes : List NodeInfo
  /-- A dictionary has one entry a key. -/
  distinct : (nodes.map NodeInfo.nodeId).Nodup

namespace DeviceManager

/-- A new manager. -/
def start : DeviceManager := ⟨[], List.nodup_nil⟩

/-- `self._nodes.get(node_id)`. -/
def get (m : DeviceManager) (nodeId : UInt8) : Option NodeInfo :=
  m.nodes.find? fun n => n.nodeId = nodeId

/-- The entry of `nodeId` replaced, when there is one; `f` keeps the key. -/
def update (m : DeviceManager) (nodeId : UInt8) (f : NodeInfo → NodeInfo)
    (hf : ∀ n, (f n).nodeId = n.nodeId) : DeviceManager where
  nodes := m.nodes.map fun n => if n.nodeId = nodeId then f n else n
  distinct := by
    have hkeys : (m.nodes.map fun n => if n.nodeId = nodeId then f n else n).map NodeInfo.nodeId =
        m.nodes.map NodeInfo.nodeId := by
      rw [List.map_map]
      apply List.map_congr_left
      intro n _
      simp only [Function.comp_apply]
      split
      · exact hf n
      · rfl
    rw [hkeys]
    exact m.distinct

/-- A new entry. -/
def insert (m : DeviceManager) (n : NodeInfo) (h : m.get n.nodeId = none) :
    DeviceManager where
  nodes := m.nodes ++ [n]
  distinct := by
    rw [List.map_append, List.nodup_append]
    refine ⟨m.distinct, List.nodup_singleton _, ?_⟩
    rintro a ha b hb rfl
    obtain ⟨n', hn', rfl⟩ := List.mem_map.mp ha
    have hne := List.find?_eq_none.mp h n' hn'
    have hid : n'.nodeId = n.nodeId := by simpa using hb
    exact hne (decide_eq_true hid)

/-- `NodeInfo(node_id=node_id, name=f"node_{node_id}")`, made at time `now`. -/
abbrev newNode (nodeId : UInt8) (now : ℕ) : NodeInfo :=
  ⟨nodeId, .str ("node_" ++ toString nodeId.toNat), true, .dict [], now⟩

/-- `on_packet`, at time `now`. -/
def onPacket (loads : List UInt8 → Option PyValue) (now : ℕ) (m : DeviceManager) (f : Frame) :
    DeviceManager :=
  let nodeId := f.nodeId
  let pkt := f.packet
  if pkt.command = KlipCommand.ping.code then
    if h : m.get nodeId = none then m.insert (newNode nodeId now) h
    else m.update nodeId (fun n => { n with connected := true }) fun _ => rfl
  else if pkt.command = KlipCommand.error.code then
    m.update nodeId (fun n => { n with connected := false }) fun _ => rfl
  else if pkt.command = KlipCommand.deviceInfoResp.code then
    match loads pkt.payload with
    | none => m
    | some info =>
        m.update nodeId (fun n =>
          match info.get "name" n.name with
          | none => n
          | some name => { n with name := name, capabilities := info, lastSeen := now })
          fun n => by cases info.get "name" n.name <;> rfl
  else m.update nodeId (fun n => { n with lastSeen := now }) fun _ => rfl

/-- `_nodes` has an entry for the node and its `connected` is set. -/
def Present (m : DeviceManager) (nodeId : UInt8) : Prop :=
  ∃ n, m.get nodeId = some n ∧ n.connected = true

/-! ### Presence -/

theorem get_update (m : DeviceManager) (nodeId i : UInt8) (f : NodeInfo → NodeInfo)
    (hf : ∀ n, (f n).nodeId = n.nodeId) :
    (m.update nodeId f hf).get i = if i = nodeId then (m.get i).map f else m.get i := by
  simp only [get, update]
  induction m.nodes with
  | nil => simp
  | cons n ns ih =>
      have hkey : (if n.nodeId = nodeId then f n else n).nodeId = n.nodeId := by
        split
        · exact hf n
        · rfl
      rw [List.map_cons, List.find?_cons, List.find?_cons, hkey]
      by_cases hi : n.nodeId = i
      · by_cases hid : i = nodeId
        · simp [hi, hid]
        · simp [hi, hid]
      · simp only [hi, decide_false]
        exact ih

theorem get_insert (m : DeviceManager) (n : NodeInfo) (h : m.get n.nodeId = none) (i : UInt8) :
    (m.insert n h).get i = if i = n.nodeId then some n else m.get i := by
  simp only [get, insert, List.find?_append]
  by_cases hi : i = n.nodeId
  · subst hi
    have hnone : m.nodes.find? (fun n' => n'.nodeId = n.nodeId) = none := h
    simp [hnone]
  · have hne : ¬ n.nodeId = i := fun hni => hi hni.symm
    simp [hi, hne]

/-- An update that keeps the flag keeps who is present. -/
theorem present_update (m : DeviceManager) (nodeId i : UInt8) (f : NodeInfo → NodeInfo)
    (hf : ∀ n, (f n).nodeId = n.nodeId) (hkeep : ∀ n, (f n).connected = n.connected) :
    (m.update nodeId f hf).Present i ↔ m.Present i := by
  simp only [Present]
  rw [get_update]
  split
  · cases m.get i <;> simp [hkeep]
  · rfl

/-- A PING makes its node present. -/
theorem present_ping (loads : List UInt8 → Option PyValue) (now : ℕ) (m : DeviceManager)
    {f : Frame} (hf : f.packet.command = KlipCommand.ping.code) (i : UInt8) :
    (m.onPacket loads now f).Present i ↔ i = f.nodeId ∨ m.Present i := by
  simp only [onPacket, Present]
  simp only [hf, if_true]
  split
  · next h =>
      rw [get_insert]
      by_cases hi : i = f.nodeId <;> simp [hi, newNode]
  · next h =>
      rw [get_update]
      by_cases hi : i = f.nodeId
      · obtain ⟨n, hn⟩ := Option.ne_none_iff_exists'.mp h
        simp [hi, hn]
      · simp [hi]

/-- An ERROR makes its node absent. -/
theorem present_error (loads : List UInt8 → Option PyValue) (now : ℕ) (m : DeviceManager)
    {f : Frame} (hf : f.packet.command = KlipCommand.error.code) (i : UInt8) :
    (m.onPacket loads now f).Present i ↔ i ≠ f.nodeId ∧ m.Present i := by
  have hne : ¬ KlipCommand.error.code = KlipCommand.ping.code := by decide
  simp only [onPacket, Present]
  simp only [hf, if_neg hne, if_true]
  rw [get_update]
  by_cases hi : i = f.nodeId
  · subst hi
    cases m.get f.nodeId <;> simp
  · simp [hi]

/-- No other packet changes who is present. -/
theorem present_other (loads : List UInt8 → Option PyValue) (now : ℕ) (m : DeviceManager)
    {f : Frame} (hping : f.packet.command ≠ KlipCommand.ping.code)
    (herror : f.packet.command ≠ KlipCommand.error.code) (i : UInt8) :
    (m.onPacket loads now f).Present i ↔ m.Present i := by
  rw [onPacket]
  simp only [if_neg hping, if_neg herror]
  split
  · cases loads f.packet.payload with
    | none => rfl
    | some info =>
        apply present_update
        intro n
        cases info.get "name" n.name <;> rfl
  · exact present_update _ _ _ _ _ fun _ => rfl

end DeviceManager
end Klippylink
