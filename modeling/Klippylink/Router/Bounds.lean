import Klippylink.Lib.Access
import Klippylink.Router.Notifications

/-!
# What the router reads and writes of a notification

The notification handler gets a value and its length, and goes by the length byte of the
packet once the header is there.  A device info is copied into an array on the stack, which
has room for the largest payload and a terminator.  `notifyAccess` is the handler with each
read of the value and each write of the array; `eval_notifyAccess` says that it is the
router's function.

## Main definitions

* `updateNodeAccess`, `notifyAccess` — the handler, access by access.
* `NotifySafe` — the value is read below its length, the array written below its size.
* `Notification.Fits` — what is read of a packet was received, and fits the array.
* `notifyEvt_safe_iff` — the notifications that are safe.
-/

namespace Klippylink

open Lib Lib.Access

/-! ## The handler, access by access -/

/-- The update of the slot.  `char json[KLIP_MAX_PAYLOAD_SIZE + 1]` gets the payload, and a
terminator behind it. -/
def updateNodeAccess (parse : List UInt8 → Option CJson) (node : Node) :
    Access (Except Fault Node) := do
  let command ← byte 2
  if command = KlipCommand.deviceInfoResp.code then
    let length ← byte 3
    if 0 < length.toNat then
      let json ← memcpy 4 0 length.toNat
      put length.toNat 0
      return if klipMaxPayloadSize < length.toNat then .error .bufferOverflow
        else nodeUpdateInfo parse node json
    else return .ok node
  else if command = KlipCommand.endstopState.code then
    let length ← byte 3
    if 2 ≤ length.toNat then
      let endstopIdx ← byte 4
      let triggered ← byte 5
      return .ok (nodeSetEndstop node endstopIdx (triggered ≠ 0))
    else return .ok node
  else return .ok node

/-- The registry after a notification. -/
def updateRegistryAccess (parse : List UInt8 → Option CJson) (nodes : NodeTable)
    (connId : UInt16) : Access (Except Fault NodeTable) :=
  match nodeByConnId nodes connId with
  | none => return .ok nodes
  | some i =>
      match nodeGet nodes i with
      | none => return .ok nodes
      | some node => do
          let node ← updateNodeAccess parse node
          return node.map fun node => nodes.modifyAt i fun _ => node

/-- The packet is passed on to the host; the length is passed on in eight bits. -/
def forwardAccess (nodes : NodeTable) (connId : UInt16) (len : ℕ) : Access (List Action) :=
  match nodeIdByConnId nodes connId with
  | none => return []
  | some nid => do
      let data ← bytes 0 (len % 256)
      return [.emit (UInt8.ofNat nid) data]

/-- `ESP_GATTC_NOTIFY_EVT`, where `len` bytes have arrived. -/
def notifyAccess (parse : List UInt8 → Option CJson) (r : Router) (connId : UInt16) (len : ℕ) :
    Access (Except Fault (Router × List Action)) :=
  if len < klipHeaderSize then return .ok (r, [])
  else do
    let m0 ← byte 0
    let m1 ← byte 1
    if ofLe16 m0 m1 ≠ klipprotoMagic then return .ok (r, [])
    else
      match ← updateRegistryAccess parse r.nodes connId with
      | .error fault => return .error fault
      | .ok nodes => do
          let calls ← forwardAccess nodes connId len
          return .ok ({ r with nodes := nodes }, calls)

/-! ### It is the router's function -/

section Eval

variable (parse : List UInt8 → Option CJson) (n : Notification)

theorem eval_updateNodeAccess (node : Node) :
    (updateNodeAccess parse node).eval n.byte = updateNode parse n node := by
  rw [updateNodeAccess, updateNode, eval_bind, eval_byte]
  split
  · rw [eval_bind, eval_byte]
    split
    · rw [eval_bind, eval_memcpy, eval_bind, eval_pure]
      rfl
    · rfl
  · split
    · rw [eval_bind, eval_byte]
      split <;> rfl
    · rfl

theorem eval_updateRegistryAccess (nodes : NodeTable) :
    (updateRegistryAccess parse nodes n.connId).eval n.byte = updateRegistry parse n nodes := by
  rw [updateRegistryAccess, updateRegistry]
  cases nodeByConnId nodes n.connId with
  | none => rfl
  | some i =>
      simp only
      cases nodeGet nodes i with
      | none => rfl
      | some node =>
          simp only
          rw [eval_bind, eval_updateNodeAccess, eval_pure]
          cases updateNode parse n node <;> rfl

/-- The first bytes of a value, one by one. -/
theorem map_byte_range {m : ℕ} (h : m ≤ n.value.length) :
    ((List.range m).map fun k => n.byte (0 + k)) = n.value.take m := by
  apply List.ext_getElem
  · simp [h]
  · intro k hk _
    have hlt : k < n.value.length := by
      rw [List.length_map, List.length_range] at hk
      omega
    simp [Notification.byte, hlt]

theorem eval_forwardAccess (nodes : NodeTable) (connId : UInt16) :
    (forwardAccess nodes connId n.value.length).eval n.byte =
      emitFor nodes connId (n.value.take (n.value.length % 256)) := by
  rw [forwardAccess, emitFor]
  cases nodeIdByConnId nodes connId with
  | none => rfl
  | some nid =>
      simp only
      rw [eval_bind, eval_bytes, eval_pure, map_byte_range n (Nat.mod_le _ _)]

/-- **The accesses belong to the router's function**: with them its result is the same. -/
theorem eval_notifyAccess (r : Router) :
    (notifyAccess parse r n.connId n.value.length).eval n.byte = notifyEvt parse r n := by
  rw [notifyAccess, notifyEvt]
  split
  · rfl
  · rw [eval_bind, eval_byte, eval_bind, eval_byte]
    split
    · rfl
    · rw [eval_bind, eval_updateRegistryAccess]
      cases updateRegistry parse n r.nodes with
      | error fault => rfl
      | ok nodes =>
          simp only
          rw [eval_bind, eval_forwardAccess, eval_pure]
          rfl

end Eval

/-! ## What is safe -/

/-- The handler reads the value below its length and writes its array below its size; when
it copies a payload there, the payload was received and leaves room for the terminator. -/
structure NotifySafe (parse : List UInt8 → Option CJson) (r : Router) (n : Notification) :
    Prop where
  reads : ∀ i ∈ (notifyAccess parse r n.connId n.value.length).loads n.byte, i < n.value.length
  writes : ∀ p ∈ (notifyAccess parse r n.connId n.value.length).stores n.byte,
    p.1 < klipMaxPayloadSize + 1
  copied : (notifyAccess parse r n.connId n.value.length).stores n.byte ≠ [] →
    (n.byte 3).toNat ≤ klipMaxPayloadSize ∧ 4 + (n.byte 3).toNat ≤ n.value.length

/-- A device info without a payload, or with one that was received and fits the array; an
endstop state that is too short to be read, or whose two bytes were received. -/
structure Notification.Fits (n : Notification) : Prop where
  deviceInfo : n.byte 2 = KlipCommand.deviceInfoResp.code → 0 < (n.byte 3).toNat →
    (n.byte 3).toNat ≤ klipMaxPayloadSize ∧ 4 + (n.byte 3).toNat ≤ n.value.length
  endstop : n.byte 2 = KlipCommand.endstopState.code → 2 ≤ (n.byte 3).toNat →
    6 ≤ n.value.length

section Safe

variable (parse : List UInt8 → Option CJson) (n : Notification)

/-- What the update of the slot reads. -/
theorem loads_updateNodeAccess (node : Node) :
    (updateNodeAccess parse node).loads n.byte =
      2 :: if n.byte 2 = KlipCommand.deviceInfoResp.code then
        3 :: if 0 < (n.byte 3).toNat then (List.range (n.byte 3).toNat).map fun k => 4 + k else []
      else if n.byte 2 = KlipCommand.endstopState.code then
        3 :: if 2 ≤ (n.byte 3).toNat then [4, 5] else []
      else [] := by
  rw [updateNodeAccess, loads_bind, eval_byte, loads_byte]
  split
  · rw [loads_bind, eval_byte, loads_byte]
    split
    · simp
    · rfl
  · split
    · rw [loads_bind, eval_byte, loads_byte]
      split <;> rfl
    · rfl

/-- What it writes: the payload and its terminator. -/
theorem stores_updateNodeAccess (node : Node) :
    (updateNodeAccess parse node).stores n.byte =
      if n.byte 2 = KlipCommand.deviceInfoResp.code ∧ 0 < (n.byte 3).toNat then
        ((List.range (n.byte 3).toNat).map fun k => (0 + k, n.byte (4 + k))) ++
          [((n.byte 3).toNat, 0)]
      else [] := by
  rw [updateNodeAccess, stores_bind, eval_byte, stores_byte, List.nil_append]
  by_cases hinfo : n.byte 2 = KlipCommand.deviceInfoResp.code
  · rw [if_pos hinfo, stores_bind, eval_byte, stores_byte, List.nil_append]
    by_cases hlen : 0 < (n.byte 3).toNat
    · rw [if_pos hlen, if_pos ⟨hinfo, hlen⟩]
      simp
    · rw [if_neg hlen, if_neg fun h => hlen h.2, stores_pure]
  · have hno : ¬ (n.byte 2 = KlipCommand.deviceInfoResp.code ∧ 0 < (n.byte 3).toNat) :=
      fun h => hinfo h.1
    rw [if_neg hinfo, if_neg hno]
    split
    · rw [stores_bind, eval_byte, stores_byte, List.nil_append]
      split <;> rfl
    · rfl

/-- The packet is passed on as it arrived. -/
theorem loads_forwardAccess_lt (mem : ℕ → UInt8) (nodes : NodeTable) (connId : UInt16) (len : ℕ) :
    ∀ i ∈ (forwardAccess nodes connId len).loads mem, i < len := by
  rw [forwardAccess]
  cases nodeIdByConnId nodes connId with
  | none => simp
  | some nid =>
      simp only
      rw [loads_bind, loads_bytes, loads_pure, List.append_nil, forall_block_lt (Nat.zero_le len),
        Nat.zero_add]
      exact Nat.mod_le len 256

@[simp] theorem stores_forwardAccess (mem : ℕ → UInt8) (nodes : NodeTable) (connId : UInt16)
    (len : ℕ) : (forwardAccess nodes connId len).stores mem = [] := by
  rw [forwardAccess]
  cases nodeIdByConnId nodes connId with
  | none => rfl
  | some nid => simp

/-- What is read of a device info or an endstop state decides about the reads. -/
theorem updateNodeAccess_reads (node : Node) (hlen : 4 ≤ n.value.length) :
    (∀ i ∈ (updateNodeAccess parse node).loads n.byte, i < n.value.length) ↔
      (n.byte 2 = KlipCommand.deviceInfoResp.code → 0 < (n.byte 3).toNat →
        4 + (n.byte 3).toNat ≤ n.value.length) ∧
      (n.byte 2 = KlipCommand.endstopState.code → 2 ≤ (n.byte 3).toNat →
        6 ≤ n.value.length) := by
  rw [loads_updateNodeAccess, List.forall_mem_cons]
  by_cases hinfo : n.byte 2 = KlipCommand.deviceInfoResp.code
  · have hstate : n.byte 2 ≠ KlipCommand.endstopState.code := by
      rw [hinfo]
      decide
    rw [if_pos hinfo, List.forall_mem_cons]
    simp only [eq_true hinfo, eq_false hstate, forall_const, false_implies, and_true]
    split
    · rw [forall_block_lt hlen]
      omega
    · simp only [List.not_mem_nil, false_implies, implies_true, and_true]
      omega
  · rw [if_neg hinfo]
    by_cases hstate : n.byte 2 = KlipCommand.endstopState.code
    · rw [if_pos hstate, List.forall_mem_cons]
      simp only [eq_false hinfo, eq_true hstate, forall_const, false_implies, true_and]
      split
      · simp only [List.forall_mem_cons, List.not_mem_nil, false_implies, implies_true, and_true]
        omega
      · simp only [List.not_mem_nil, false_implies, implies_true, and_true]
        omega
    · rw [if_neg hstate]
      simp only [eq_false hinfo, eq_false hstate, List.not_mem_nil, false_implies, implies_true,
        and_true, iff_true]
      omega

/-- The array is written up to the terminator. -/
theorem updateNodeAccess_writes (node : Node) (size : ℕ) :
    (∀ p ∈ (updateNodeAccess parse node).stores n.byte, p.1 < size) ↔
      (n.byte 2 = KlipCommand.deviceInfoResp.code → 0 < (n.byte 3).toNat →
        (n.byte 3).toNat < size) := by
  rw [stores_updateNodeAccess, ← and_imp]
  split
  next hcopied =>
    simp only [hcopied, and_self, forall_const, List.forall_mem_append, List.forall_mem_singleton,
      List.forall_mem_map, List.mem_range]
    exact ⟨And.right, fun hsize => ⟨fun k hk => by omega, hsize⟩⟩
  next hnone => simp only [hnone, List.not_mem_nil, false_implies, implies_true]

/-- The entry of a connected node is found. -/
theorem exists_node_of_connected {nodes : NodeTable} {connId : UInt16}
    (h : (nodeIdByConnId nodes connId).isSome) :
    ∃ i node, nodeByConnId nodes connId = some i ∧ nodeGet nodes i = some node := by
  obtain ⟨k, hk⟩ := Option.isSome_iff_exists.mp h
  obtain ⟨node, hnode, hid⟩ := Table.row_of_firstIdx hk
  rw [Bool.and_eq_true] at hid
  cases hfirst : nodeByConnId nodes connId with
  | none =>
      have hother := Table.firstIdx_eq_none.mp hfirst k node hnode
      rw [hid.1] at hother
      cases hother
  | some i =>
      obtain ⟨first, hget, -⟩ := Table.row_of_firstIdx hfirst
      exact ⟨i, first, rfl, hget⟩

/-- A valid notification of a connected node: the header, the slot, the host. -/
theorem notifyAccess_valid (parse : List UInt8 → Option CJson) {r : Router} {n : Notification}
    (hsender : (nodeIdByConnId r.nodes n.connId).isSome) (hvalid : n.Valid) :
    ∃ node,
      ((∀ i ∈ (notifyAccess parse r n.connId n.value.length).loads n.byte, i < n.value.length) ↔
        ∀ i ∈ (updateNodeAccess parse node).loads n.byte, i < n.value.length) ∧
      (notifyAccess parse r n.connId n.value.length).stores n.byte =
        (updateNodeAccess parse node).stores n.byte := by
  obtain ⟨i, node, hfirst, hget⟩ := exists_node_of_connected hsender
  have hlen : 4 ≤ n.value.length := hvalid.1
  have hregistry : updateRegistryAccess parse r.nodes n.connId =
      updateNodeAccess parse node >>= fun node =>
        pure (node.map fun node => r.nodes.modifyAt i fun _ => node) := by
    rw [updateRegistryAccess, hfirst]
    simp only [hget]
  refine ⟨node, ?_, ?_⟩
  · rw [notifyAccess, if_neg (Nat.not_lt.mpr hvalid.1), loads_bind, loads_bind, eval_byte,
      eval_byte, if_neg (not_not.mpr hvalid.2), loads_bind, hregistry, loads_bind, loads_pure,
      List.append_nil]
    simp only [List.forall_mem_append, loads_byte, List.forall_mem_singleton]
    constructor
    · exact fun h => h.2.2.1
    · intro h
      refine ⟨by omega, by omega, h, ?_⟩
      split
      · simp
      · rw [loads_bind, loads_pure, List.append_nil]
        exact loads_forwardAccess_lt _ _ _ _
  · rw [notifyAccess, if_neg (Nat.not_lt.mpr hvalid.1), stores_bind, stores_bind, eval_byte,
      eval_byte, if_neg (not_not.mpr hvalid.2), stores_bind, hregistry, stores_bind, stores_pure,
      List.append_nil]
    simp only [stores_byte, List.nil_append]
    split <;> simp

end Safe

/-- A value that the handler ignores is looked at no further than its magic. -/
theorem notifySafe_of_not_valid (parse : List UInt8 → Option CJson) (r : Router)
    {n : Notification} (h : ¬ n.Valid) : NotifySafe parse r n := by
  by_cases hlen : n.value.length < klipHeaderSize
  · have haccess : notifyAccess parse r n.connId n.value.length = pure (.ok (r, [])) := by
      rw [notifyAccess, if_pos hlen]
    refine ⟨?_, ?_, ?_⟩ <;> rw [haccess] <;> simp
  · have hmagic : ofLe16 (n.byte 0) (n.byte 1) ≠ klipprotoMagic :=
      fun hgood => h ⟨Nat.le_of_not_lt hlen, hgood⟩
    have hheader : 4 ≤ n.value.length := Nat.le_of_not_lt hlen
    have hloads : (notifyAccess parse r n.connId n.value.length).loads n.byte = [0, 1] := by
      rw [notifyAccess, if_neg hlen, loads_bind, loads_bind, eval_byte, eval_byte, if_pos hmagic]
      rfl
    have hstores : (notifyAccess parse r n.connId n.value.length).stores n.byte = [] := by
      rw [notifyAccess, if_neg hlen, stores_bind, stores_bind, eval_byte, eval_byte,
        if_pos hmagic]
      rfl
    refine ⟨?_, ?_, fun hsome => absurd hstores hsome⟩
    · rw [hloads]
      simp only [List.forall_mem_cons, List.not_mem_nil, false_implies, implies_true, and_true]
      omega
    · rw [hstores]
      simp

/-- A safe notification comes to the same whatever memory holds behind it. -/
theorem NotifySafe.eval_congr {parse : List UInt8 → Option CJson} {r : Router} {n : Notification}
    (h : NotifySafe parse r n) (beyond : ℕ → UInt8) :
    notifyEvt parse r ⟨n.connId, n.value, beyond⟩ = notifyEvt parse r n := by
  rw [← eval_notifyAccess, ← eval_notifyAccess]
  refine Access.eval_congr fun i hi => ?_
  have hlt := h.reads i hi
  simp [Notification.byte, hlt]

/-- **Which notifications are safe.**  Those that are no packet, and those whose packet
fits. -/
theorem notifyEvt_safe_iff (parse : List UInt8 → Option CJson) (r : Router) (n : Notification)
    (hsender : (nodeIdByConnId r.nodes n.connId).isSome) :
    NotifySafe parse r n ↔ (n.Valid → n.Fits) := by
  by_cases hvalid : n.Valid
  · obtain ⟨node, hreads, hstores⟩ := notifyAccess_valid parse hsender hvalid
    have hin := updateNodeAccess_reads parse n node hvalid.1
    have hout := updateNodeAccess_writes parse n node (klipMaxPayloadSize + 1)
    rw [← hstores] at hout
    simp only [hvalid, forall_const]
    constructor
    · intro hsafe
      obtain ⟨hinfo, hstate⟩ := hin.mp (hreads.mp hsafe.reads)
      have hroom := hout.mp hsafe.writes
      exact ⟨fun hc hlen => ⟨Nat.le_of_lt_succ (hroom hc hlen), hinfo hc hlen⟩, hstate⟩
    · intro hfits
      refine ⟨hreads.mpr (hin.mpr ⟨fun hc hlen => (hfits.deviceInfo hc hlen).2, hfits.endstop⟩),
        hout.mpr fun hc hlen => Nat.lt_succ_of_le (hfits.deviceInfo hc hlen).1, ?_⟩
      intro hcopied
      rw [hstores, stores_updateNodeAccess] at hcopied
      split at hcopied
      next hc => exact hfits.deviceInfo hc.1 hc.2
      next => exact absurd rfl hcopied
  · exact iff_of_true (notifySafe_of_not_valid parse r hvalid) fun h => absurd h hvalid

/-- A device info whose text is of two bytes. -/
def shortInfo : Notification :=
  ⟨0, [0x4C, 0x4B, KlipCommand.deviceInfoResp.code, 2, 0x7B, 0x7D], fun _ => 0⟩

theorem notifyEvt_safe_iff_shortInfo : NotifySafe noJson oneNode.router shortInfo := by
  have hfits : shortInfo.Fits :=
    ⟨fun _ _ => ⟨by decide, by decide⟩, fun hstate _ => absurd hstate (by decide)⟩
  exact (notifyEvt_safe_iff noJson oneNode.router shortInfo (by decide)).mpr fun _ => hfits

/-- A header that announces a device info of 255 bytes and is all that has arrived. -/
theorem cut_deviceInfo_unsafe :
    ¬ NotifySafe noJson oneNode.router ⟨0, [0x4C, 0x4B, 0x71, 255], fun _ => 0⟩ := by
  intro h
  have hread := h.reads 4 (by decide)
  exact absurd hread (by decide)

end Klippylink
