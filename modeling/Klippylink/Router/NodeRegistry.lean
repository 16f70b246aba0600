import Klippylink.Lib.Fallible
import Klippylink.Lib.CStr
import Klippylink.Lib.Table
import Klippylink.Protocol.CJson

/-!
# The router's node registry

`s_nodes` and `s_count` are a table of at most eight slots.  A slot is never
given up: `node_remove` marks it disconnected and it keeps its address, its name
and its connection id, so that its index can name the node for good.

A function that returns a pointer into `s_nodes` returns the index here.

## Main definitions

* `Node`, `NodeTable` — a slot and the registry.
* `nodeAdd`, `nodeRemove` — connecting and disconnecting.
* `nodeByConnId`, `nodeIdByConnId` — the two lookups by connection id.
* `nodeUpdateInfo`, `nodeSetEndstop` — what notifications change.
* `Slot`, `slots` — the registry as far as connections are concerned.
-/

namespace Klippylink

open Lib

/-- `NODE_MAX_COUNT`. -/
def nodeMaxCount : ℕ := 8

/-- `NODE_NAME_LEN`. -/
def nodeNameLen : ℕ := 32

/-- `NODE_MAX_NEOPIXELS`. -/
def nodeMaxNeopixels : ℕ := 4

/-- `NODE_MAX_ENDSTOPS`. -/
def nodeMaxEndstops : ℕ := 8

/-- `esp_bd_addr_t`. -/
abbrev BdAddr := Vector UInt8 6

/-- A name in a `char[NODE_NAME_LEN]`. -/
abbrev NodeName := CStr nodeNameLen

/-- What ends the program instead of returning. -/
inductive Fault
  /-- A null pointer is read. -/
  | nullPointer
  /-- An array is written past its end. -/
  | bufferOverflow
  deriving DecidableEq

/-- `node_neopixel_t`. -/
structure NodeNeopixel where
  name : NodeName
  count : UInt32
  deriving DecidableEq

/-- `node_endstop_t`. -/
structure NodeEndstop where
  name : NodeName
  triggered : Bool
  deriving DecidableEq

/-- `node_t`. -/
structure Node where
  name : NodeName
  bda : BdAddr
  connId : UInt16
  connected : Bool
  infoReceived : Bool
  neopixels : Vector NodeNeopixel nodeMaxNeopixels
  neopixelCount : Fin (nodeMaxNeopixels + 1)
  endstops : Vector NodeEndstop nodeMaxEndstops
  endstopCount : Fin (nodeMaxEndstops + 1)
  deriving DecidableEq

/-- `s_nodes` and `s_count`. -/
abbrev NodeTable := Table Node nodeMaxCount

/-! ## Connecting and disconnecting -/

/-- A name of zeroed memory. -/
def emptyName : NodeName := ⟨[], by decide, by decide⟩

/-- A hexadecimal digit, as `%X` prints it. -/
def hexDigit (n : ℕ) : UInt8 := UInt8.ofNat (if n < 10 then 0x30 + n else 0x37 + n)

/-- `%02X`. -/
def hexByte (b : UInt8) : List UInt8 := [hexDigit (b.toNat / 16), hexDigit (b.toNat % 16)]

/-- `snprintf(name, NODE_NAME_LEN, "node_%02X%02X", bda[4], bda[5])`. -/
def defaultName (bda : BdAddr) : NodeName :=
  CStr.copy (by decide) (ascii "node_" ++ hexByte (bda.get 4) ++ hexByte (bda.get 5))

/-- A slot as `node_add` first fills it. -/
def Node.fresh (bda : BdAddr) (connId : UInt16) : Node where
  name := defaultName bda
  bda := bda
  connId := connId
  connected := true
  infoReceived := false
  neopixels := Vector.replicate _ ⟨emptyName, 0⟩
  neopixelCount := 0
  endstops := Vector.replicate _ ⟨emptyName, false⟩
  endstopCount := 0

/-- A slot that is given to its node again. -/
def Node.reconnect (connId : UInt16) (n : Node) : Node :=
  { n with connId := connId, connected := true }

/-- A slot after `node_remove`. -/
def Node.disconnect (n : Node) : Node := { n with connected := false }

/-- A disconnected slot of this address. -/
def Node.reusable (bda : BdAddr) (n : Node) : Bool := !n.connected && n.bda == bda

/-- `node_add`: the slot given to the connection, or `none` when the table is
full. -/
def nodeAdd (t : NodeTable) (bda : BdAddr) (connId : UInt16) : NodeTable × Option ℕ :=
  match t.firstIdx (Node.reusable bda) with
  | some i => (t.modifyAt i (Node.reconnect connId), some i)
  | none =>
      match t.push (Node.fresh bda connId) with
      | none => (t, none)
      | some t' => (t', some t.count)

/-- `node_remove`: the first slot with this connection id, connected or not. -/
def nodeRemove (t : NodeTable) (connId : UInt16) : NodeTable :=
  t.modifyFirst (fun n => n.connId = connId) Node.disconnect

/-- `node_by_conn_id`: the first slot with this connection id, connected or not. -/
def nodeByConnId (t : NodeTable) (connId : UInt16) : Option ℕ :=
  t.firstIdx fun n => n.connId = connId

/-- `node_id_by_conn_id`: the first connected slot with this connection id. -/
def nodeIdByConnId (t : NodeTable) (connId : UInt16) : Option ℕ :=
  t.firstIdx fun n => n.connId = connId && n.connected

/-- `node_get`. -/
def nodeGet (t : NodeTable) (i : ℕ) : Option Node := t.rows[i]?

/-! ## Device info and endstops -/

/-- `if (n) strlcpy(name, n->valuestring, NODE_NAME_LEN)`. -/
def copyName (old : NodeName) (n : Option CJson) : Except Fault NodeName :=
  match n with
  | none => .ok old
  | some j =>
      match j.valuestring with
      | none => .error .nullPointer
      | some s => .ok (CStr.copy (by decide) s)

/-- The body of the loop over `neopixels`. -/
def updateNeopixel (item : CJson) (p : NodeNeopixel) : Except Fault NodeNeopixel := do
  let name ← copyName p.name (item.getObjectItem "name")
  match item.getObjectItem "count" with
  | none => return { p with name := name }
  | some c => return ⟨name, c.valueint.toUInt32⟩

/-- The body of the loop over `endstops`. -/
def updateEndstop (item : CJson) (e : NodeEndstop) : Except Fault NodeEndstop := do
  let name ← copyName e.name (item.getObjectItem "name")
  return { e with name := name }

/-- `for (i = 0; i < count; i++)` over an array of the node and an array of the
JSON text, from index `i` on. -/
def updateRows {α : Type} {n : ℕ} (f : CJson → α → Except Fault α) (items : List CJson) :
    ℕ → Vector α n → Except Fault (Vector α n)
  | 0, rows => .ok rows
  | i + 1, rows => do
      let rows ← updateRows f items i rows
      match items[i]? with
      | none => return rows
      | some item =>
          if h : i < n then
            let row ← f item rows[i]
            return rows.set i row
          else return rows

/-- A count of the JSON text, cut to the size of the array. -/
def clampCount (n : ℕ) (cnt : ℕ) : Fin (n + 1) := ⟨min cnt n, by omega⟩

/-- The `neopixels` member. -/
def updateNeopixels (root : CJson) (node : Node) : Except Fault Node :=
  match root.getObjectItem "neopixels" with
  | some (.array items) => do
      let count := clampCount nodeMaxNeopixels items.length
      let rows ← updateRows updateNeopixel items count node.neopixels
      return { node with neopixels := rows, neopixelCount := count }
  | _ => return node

/-- The `endstops` member. -/
def updateEndstops (root : CJson) (node : Node) : Except Fault Node :=
  match root.getObjectItem "endstops" with
  | some (.array items) => do
      let count := clampCount nodeMaxEndstops items.length
      let rows ← updateRows updateEndstop items count node.endstops
      return { node with endstops := rows, endstopCount := count }
  | _ => return node

/-- The `name` member, when it is a string. -/
def updateName (root : CJson) (node : Node) : Node :=
  match root.getObjectItem "name" with
  | some (.string s) => { node with name := CStr.copy (by decide) s }
  | _ => node

/-- `node_update_info`. -/
def nodeUpdateInfo (parse : List UInt8 → Option CJson) (node : Node) (json : List UInt8) :
    Except Fault Node :=
  match parse (CStr.cstring json) with
  | none => return node
  | some root => do
      let node ← updateNeopixels root (updateName root node)
      let node ← updateEndstops root node
      return { node with infoReceived := true }

/-- `node_set_endstop`. -/
def nodeSetEndstop (node : Node) (endstopIdx : UInt8) (triggered : Bool) : Node :=
  if h : endstopIdx.toNat < node.endstopCount then
    have hi : endstopIdx.toNat < nodeMaxEndstops :=
      Nat.lt_of_lt_of_le h (Nat.le_of_lt_succ node.endstopCount.isLt)
    let e := node.endstops[endstopIdx.toNat]
    { node with endstops := node.endstops.set endstopIdx.toNat { e with triggered := triggered } }
  else node

/-! ## Slots

The results about connections read a slot through its connection id, its address
and its connected flag only; what notifications write is none of these. -/

/-- What connecting and disconnecting read and write of a `Node`. -/
structure Slot where
  connId : UInt16
  bda : BdAddr
  connected : Bool
  deriving DecidableEq

/-- The slot of a `Node`. -/
def Node.slot (n : Node) : Slot := ⟨n.connId, n.bda, n.connected⟩

/-- The slots of the registry, in order. -/
def slots (t : NodeTable) : List Slot := t.rows.map Node.slot

theorem getElem?_slots (t : NodeTable) (k : ℕ) : (slots t)[k]? = t.rows[k]?.map Node.slot := by
  rw [slots, List.getElem?_map]

@[simp] theorem length_slots (t : NodeTable) : (slots t).length = t.rows.length := List.length_map _

/-! ### Info and endstops leave the slots alone -/

theorem slot_updateName (root : CJson) (node : Node) : (updateName root node).slot = node.slot := by
  rw [updateName]
  split <;> rfl

theorem slot_updateNeopixels {root : CJson} {node node' : Node}
    (h : updateNeopixels root node = .ok node') : node'.slot = node.slot := by
  rw [updateNeopixels] at h
  split at h
  · obtain ⟨rows, -, hret⟩ := bind_eq_ok.mp h
    cases hret
    rfl
  · cases h
    rfl

theorem slot_updateEndstops {root : CJson} {node node' : Node}
    (h : updateEndstops root node = .ok node') : node'.slot = node.slot := by
  rw [updateEndstops] at h
  split at h
  · obtain ⟨rows, -, hret⟩ := bind_eq_ok.mp h
    cases hret
    rfl
  · cases h
    rfl

theorem slot_nodeUpdateInfo {parse : List UInt8 → Option CJson} {node node' : Node}
    {json : List UInt8} (h : nodeUpdateInfo parse node json = .ok node') :
    node'.slot = node.slot := by
  rw [nodeUpdateInfo] at h
  split at h
  · cases h
    rfl
  · obtain ⟨n₁, h₁, h⟩ := bind_eq_ok.mp h
    obtain ⟨n₂, h₂, hret⟩ := bind_eq_ok.mp h
    cases hret
    exact (slot_updateEndstops h₂).trans ((slot_updateNeopixels h₁).trans (slot_updateName _ node))

theorem slot_nodeSetEndstop (node : Node) (i : UInt8) (triggered : Bool) :
    (nodeSetEndstop node i triggered).slot = node.slot := by
  rw [nodeSetEndstop]
  split <;> rfl

/-! ### The lookups -/

theorem nodeByConnId_eq_some {t : NodeTable} {connId : UInt16} {k : ℕ} :
    nodeByConnId t connId = some k ↔
      (∃ s, (slots t)[k]? = some s ∧ s.connId = connId) ∧
        ∀ j < k, ∀ s, (slots t)[j]? = some s → s.connId ≠ connId := by
  simp [nodeByConnId, Table.firstIdx_eq_some, getElem?_slots, Node.slot]

theorem nodeIdByConnId_eq_some {t : NodeTable} {connId : UInt16} {k : ℕ} :
    nodeIdByConnId t connId = some k ↔
      (∃ bda, (slots t)[k]? = some ⟨connId, bda, true⟩) ∧
        ∀ j < k, ∀ bda, (slots t)[j]? ≠ some ⟨connId, bda, true⟩ := by
  rw [nodeIdByConnId, Table.firstIdx_eq_some]
  simp only [getElem?_slots, Option.map_eq_some_iff, Node.slot, Slot.mk.injEq, Bool.and_eq_true,
    decide_eq_true_eq, ne_eq, not_exists, not_and, Bool.and_eq_false_imp]
  constructor
  · rintro ⟨⟨n, hn, hid, hon⟩, hmin⟩
    refine ⟨⟨n.bda, n, hn, hid, rfl, hon⟩, fun j hj bda m hm hmid _ hmon => ?_⟩
    rw [hmin j hj m hm hmid] at hmon
    cases hmon
  · rintro ⟨⟨bda, n, hn, hid, -, hon⟩, hmin⟩
    refine ⟨⟨n, hn, hid, hon⟩, fun j hj m hm hmid => ?_⟩
    exact Bool.eq_false_iff.mpr (hmin j hj m.bda m hm hmid rfl)

/-- The lookups depend on the slots only. -/
theorem nodeByConnId_congr {t t' : NodeTable} (h : slots t = slots t') (connId : UInt16) :
    nodeByConnId t connId = nodeByConnId t' connId := by
  apply Option.ext
  intro k
  rw [nodeByConnId_eq_some, nodeByConnId_eq_some, h]

theorem nodeIdByConnId_congr {t t' : NodeTable} (h : slots t = slots t') (connId : UInt16) :
    nodeIdByConnId t connId = nodeIdByConnId t' connId := by
  apply Option.ext
  intro k
  rw [nodeIdByConnId_eq_some, nodeIdByConnId_eq_some, h]

theorem nodeIdByConnId_eq_none {t : NodeTable} {connId : UInt16} :
    nodeIdByConnId t connId = none ↔ ∀ (k : ℕ) bda, (slots t)[k]? ≠ some ⟨connId, bda, true⟩ := by
  rw [nodeIdByConnId, Table.firstIdx_eq_none]
  simp only [getElem?_slots, Option.map_eq_some_iff, Node.slot, Slot.mk.injEq, ne_eq, not_exists,
    not_and, Bool.and_eq_false_imp, decide_eq_true_eq]
  constructor
  · intro h k bda n hn hid _ hon
    rw [h k n hn hid] at hon
    cases hon
  · intro h k n hn hid
    exact Bool.eq_false_iff.mpr (h k n.bda n hn hid rfl)

/-! ### Adding -/

/-- A connection `c` to `b` is given slot `k`. -/
structure Admitted (before after : List Slot) (connId : UInt16) (bda : BdAddr) (k : ℕ) : Prop where
  given : after[k]? = some ⟨connId, bda, true⟩
  others : ∀ j ≠ k, after[j]? = before[j]?
  /-- A slot that was in use is a disconnected one of the same address. -/
  reused : ∀ s, before[k]? = some s → s.bda = bda ∧ s.connected = false
  /-- A new slot is taken only when there is none to reuse. -/
  fresh : before[k]? = none → ∀ s ∈ before, s.bda = bda → s.connected = true

theorem reusable_eq_false {bda : BdAddr} {n : Node} :
    n.reusable bda = false ↔ (n.bda = bda → n.connected = true) := by
  cases hc : n.connected <;> simp [Node.reusable, hc]

/-- `node_add` gives a slot, or finds the table full and changes nothing. -/
theorem nodeAdd_spec (t : NodeTable) (bda : BdAddr) (connId : UInt16) :
    (∃ k, (nodeAdd t bda connId).2 = some k ∧
      Admitted (slots t) (slots (nodeAdd t bda connId).1) connId bda k) ∨
    (nodeAdd t bda connId = (t, none) ∧ t.rows.length = nodeMaxCount ∧
      ∀ s ∈ slots t, s.bda = bda → s.connected = true) := by
  rw [nodeAdd]
  cases hidx : t.firstIdx (Node.reusable bda) with
  | some i =>
      obtain ⟨n, hn, hreuse⟩ := Table.row_of_firstIdx hidx
      simp only [Node.reusable, Bool.and_eq_true, Bool.not_eq_true', beq_iff_eq] at hreuse
      refine .inl ⟨i, rfl, ?_, ?_, ?_, ?_⟩
      · simp [getElem?_slots, hn, Node.slot, Node.reconnect, hreuse.2]
      · intro j hj
        simp [getElem?_slots, hj.symm]
      · intro s hs
        rw [getElem?_slots, hn] at hs
        cases hs
        exact ⟨hreuse.2, hreuse.1⟩
      · intro hnone
        rw [getElem?_slots, hn] at hnone
        cases hnone
  | none =>
      have hall : ∀ s ∈ slots t, s.bda = bda → s.connected = true := by
        intro s hs
        obtain ⟨n, hn, rfl⟩ := List.mem_map.mp hs
        obtain ⟨i, hi⟩ := List.getElem?_of_mem hn
        exact reusable_eq_false.mp (Table.firstIdx_eq_none.mp hidx i n hi)
      cases hpush : t.push (Node.fresh bda connId) with
      | none =>
          simp only
          exact .inr ⟨trivial, Table.push_eq_none.mp hpush, hall⟩
      | some t' =>
          obtain ⟨-, hrows⟩ := Table.push_eq_some.mp hpush
          have hslots : slots t' = slots t ++ [⟨connId, bda, true⟩] := by
            rw [slots, hrows, List.map_append]
            rfl
          simp only
          refine .inl ⟨t.count, rfl, ?_, ?_, ?_, fun _ => hall⟩
          · rw [hslots, List.getElem?_append_right (by simp [Table.count])]
            simp [Table.count]
          · intro j hj
            rw [hslots]
            rcases Nat.lt_or_ge j (slots t).length with hlt | hge
            · rw [List.getElem?_append_left hlt]
            · have hne : j ≠ (slots t).length := by simpa [Table.count] using hj
              rw [List.getElem?_eq_none hge, List.getElem?_eq_none]
              rw [List.length_append, List.length_singleton]
              omega
          · intro s hs
            rw [List.getElem?_eq_none (by simp [Table.count])] at hs
            cases hs

/-! ### Removing -/

/-- The slot after `node_remove` hit it. -/
def Slot.disconnect (s : Slot) : Slot := { s with connected := false }

/-- `node_remove` marks the slot that `node_by_conn_id` finds, and no other. -/
theorem getElem?_nodeRemove (t : NodeTable) (connId : UInt16) (k : ℕ) :
    (slots (nodeRemove t connId))[k]? =
      if nodeByConnId t connId = some k then (slots t)[k]?.map Slot.disconnect
      else (slots t)[k]? := by
  rw [getElem?_slots, getElem?_slots, nodeRemove, Table.getElem?_modifyFirst]
  change Option.map Node.slot (if nodeByConnId t connId = some k then _ else _) = _
  split
  · cases t.rows[k]? <;> rfl
  · rfl

end Klippylink
