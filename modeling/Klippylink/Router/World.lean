import Klippylink.Lib.System
import Klippylink.Router.BleCentral

/-!
# The router under its Bluetooth stack

A run of the router is a list of events, each handled by one callback or by one
read of the serial port.  What the stack knows is kept beside the router's state:
the connections that are live, whether it is scanning, whether an open is pending.
The stack gives a new connection an id that no live connection has, and may use an
id again after its disconnect, for any peer.  A callback that faults ends the run.

## Main definitions

* `Link` — a live connection, with the slot `node_add` gave it.
* `World`, `World.start` — the router and the stack.
* `Event`, `World.step`, `world` — one event.
* `World.Sound` — what holds of every reachable world.
* `Quiet`, `step_effect` — what an event does to connections.
-/

namespace Klippylink

open Lib

/-- A live connection. -/
structure Link where
  connId : UInt16
  bda : BdAddr
  /-- The slot it was given; `none` when the router did not admit it. -/
  slot : Option ℕ
  deriving DecidableEq

/-- The router and what the stack knows. -/
structure World where
  router : Router
  live : List Link
  /-- Every address that has connected. -/
  seen : List BdAddr
  scanning : Bool
  openPending : Bool

/-- What can happen to the router. -/
inductive Event
  | gattc (e : GattcEvent)
  | gap (e : GapEvent)
  /-- `uart_read_bytes` returned these bytes. -/
  | serialRx (data : List UInt8)

namespace World

/-- No connection, no scan. -/
def start : World := ⟨Router.start, [], [], false, false⟩

/-- The slots of the registry. -/
def slots (w : World) : List Slot := Klippylink.slots w.router.nodes

/-- The ids of the connection records. -/
def records (w : World) : List UInt16 := w.router.conns.rows.map GattcConn.connId

/-- No live connection has this id. -/
def Fresh (w : World) (connId : UInt16) : Prop := ∀ l ∈ w.live, l.connId ≠ connId

instance (w : World) (connId : UInt16) : Decidable (w.Fresh connId) :=
  inferInstanceAs (Decidable (∀ l ∈ w.live, l.connId ≠ connId))

end World

/-- The slot the `CONNECT` callback gives a connection. -/
def Router.admittedSlot (r : Router) (gattcIf connId : UInt16) (bda : BdAddr) : Option ℕ :=
  match allocConn r.conns connId gattcIf with
  | none => none
  | some _ => (nodeAdd r.nodes bda connId).2

namespace World

/-- What the stack knows once it has delivered an event. -/
def deliver (w : World) : GattcEvent → World
  | .connect gattcIf connId bda =>
      { w with
        live := ⟨connId, bda, w.router.admittedSlot gattcIf connId bda⟩ :: w.live
        seen := bda :: w.seen
        openPending := false }
  | .disconnect connId => { w with live := w.live.filter fun l => l.connId ≠ connId }
  | .openFailed => { w with openPending := false }
  | _ => w

/-- The stack can deliver this event. -/
def Deliverable (w : World) : GattcEvent → Prop
  | .connect _ connId _ => w.Fresh connId
  | _ => True

instance (w : World) (e : GattcEvent) : Decidable (w.Deliverable e) :=
  match e with
  | .connect _ connId _ => inferInstanceAs (Decidable (w.Fresh connId))
  | .reg _ | .searchRes _ | .searchCmpl _ _ _ | .notify _ | .disconnect _ | .openFailed | .other =>
      isTrue trivial

/-- What a call does to the stack. -/
def apply (w : World) : Action → World
  | .startScanning => { w with scanning := true }
  | .stopScanning => { w with scanning := false }
  | .gattcOpen _ _ _ => { w with openPending := true }
  | _ => w

/-- The calls of one callback. -/
def perform (w : World) (acts : List Action) : World := acts.foldl apply w

/-- One event: the world after it and the calls it made; `none` when the stack
cannot deliver it or the callback faults. -/
def step (parse : List UInt8 → Option CJson) (w : World) : Event → Option (World × List Action)
  | .gattc e =>
      if w.Deliverable e then
        match gattcEventHandler parse w.router e with
        | .error _ => none
        | .ok (r, acts) => some (({ w.deliver e with router := r }).perform acts, acts)
      else none
  | .gap e =>
      let acts := gapEventHandler w.router e
      some (w.perform acts, acts)
  | .serialRx data =>
      let next := w.router.feed data
      some (({ w with router := next.1 }).perform next.2, next.2)

end World

/-- The router under its stack, as a system of events. -/
def world (parse : List UInt8 → Option CJson) : System World Event :=
  fun w e => (w.step parse e).map Prod.fst

theorem world_eq_some {parse : List UInt8 → Option CJson} {w w' : World} {e : Event} :
    world parse w e = some w' ↔ ∃ acts, w.step parse e = some (w', acts) := by
  simp [world]

/-! ### Short runs -/

/-- An address, for runs written out. -/
def peer (n : UInt8) : BdAddr := Vector.replicate 6 n

/-- A parser that accepts nothing. -/
def noJson : List UInt8 → Option CJson := fun _ => none

/-- A connection of `bda` under the id `connId`. -/
def connectTo (connId : UInt16) (bda : BdAddr) : Event := .gattc (.connect 3 connId bda)

/-- The end of the connection `connId`. -/
def disconnectOf (connId : UInt16) : Event := .gattc (.disconnect connId)

/-- One live connection. -/
def oneNode : World := ((world noJson).run World.start [connectTo 0 (peer 1)]).getD World.start

/-! ## What an event does -/

namespace World

/-- A call changes the scan and nothing else. -/
theorem perform_frame (acts : List Action) (w : World) :
    (w.perform acts).router = w.router ∧ (w.perform acts).live = w.live ∧
      (w.perform acts).seen = w.seen := by
  induction acts generalizing w with
  | nil => exact ⟨rfl, rfl, rfl⟩
  | cons a acts ih =>
      obtain ⟨hrouter, hlive, hseen⟩ := ih (w.apply a)
      have ha : (w.apply a).router = w.router ∧ (w.apply a).live = w.live ∧
          (w.apply a).seen = w.seen := by
        cases a <;> exact ⟨rfl, rfl, rfl⟩
      exact ⟨hrouter.trans ha.1, hlive.trans ha.2.1, hseen.trans ha.2.2⟩

@[simp] theorem router_perform (acts : List Action) (w : World) :
    (w.perform acts).router = w.router := (perform_frame acts w).1

@[simp] theorem live_perform (acts : List Action) (w : World) :
    (w.perform acts).live = w.live := (perform_frame acts w).2.1

@[simp] theorem seen_perform (acts : List Action) (w : World) :
    (w.perform acts).seen = w.seen := (perform_frame acts w).2.2

end World

/-- The connection an event starts. -/
def Event.connects : Event → Option (UInt16 × BdAddr)
  | .gattc (.connect _ connId bda) => some (connId, bda)
  | _ => none

/-- The connection an event ends. -/
def Event.disconnects : Event → Option UInt16
  | .gattc (.disconnect connId) => some connId
  | _ => none

/-- An event that leaves the connections alone. -/
structure Quiet (w w' : World) : Prop where
  live : w'.live = w.live
  seen : w'.seen = w.seen
  slots : w'.slots = w.slots
  records : w'.records = w.records

/-- A new connection. -/
structure Connects (w w' : World) (connId : UInt16) (bda : BdAddr) (slot : Option ℕ) : Prop where
  fresh : w.Fresh connId
  live : w'.live = ⟨connId, bda, slot⟩ :: w.live
  seen : w'.seen = bda :: w.seen
  /-- A record is taken when one is free. -/
  records : w'.records = if w.records.length < maxConns then w.records ++ [connId] else w.records
  /-- A slot is given only with a record. -/
  admitted : ∀ k, slot = some k →
    w.records.length < maxConns ∧ Admitted w.slots w'.slots connId bda k
  /-- Without a slot the registry is unchanged: there is no free record, or no slot. -/
  refused : slot = none → w'.slots = w.slots ∧
    (w.records.length < maxConns → w.slots.length = nodeMaxCount ∧
      ∀ s ∈ w.slots, s.bda = bda → s.connected = true)

/-- The end of a connection. -/
structure Disconnects (w w' : World) (connId : UInt16) : Prop where
  live : w'.live = w.live.filter fun l => l.connId ≠ connId
  seen : w'.seen = w.seen
  slots : ∀ k, w'.slots[k]? =
    if nodeByConnId w.router.nodes connId = some k then w.slots[k]?.map Slot.disconnect
    else w.slots[k]?
  records : w'.records = w.records.eraseP fun c => c = connId

theorem connId_store {l : Lookup} {set : UInt16 → GattcConn → GattcConn} {c c' : GattcConn}
    (h : l.store set c = .ok c') (hset : ∀ x d, (set x d).connId = d.connId) :
    c'.connId = c.connId := by
  cases l with
  | notFound => cases h; rfl
  | found x => cases h; exact hset x c
  | noMemory => cases h

/-- Discovering the attributes of a peer keeps its connection id. -/
theorem connId_discover {db : GattDb} {c c' : GattcConn} (h : discover db c = .ok c') :
    c'.connId = c.connId := by
  obtain ⟨c₁, h₁, h⟩ := bind_eq_ok.mp h
  obtain ⟨c₂, h₂, h⟩ := bind_eq_ok.mp h
  have hfirst : c₁.connId = c.connId := connId_store h₁ fun _ _ => rfl
  have hsecond : c₂.connId = c₁.connId := connId_store h₂ fun _ _ => rfl
  rw [← hfirst, ← hsecond]
  cases htel : db.tel with
  | found x =>
      rw [htel] at h
      exact connId_store h fun _ _ => rfl
  | notFound => rw [htel] at h; cases h; rfl
  | noMemory => rw [htel] at h; cases h; rfl

/-- A notification leaves the slot of a node alone. -/
theorem slot_updateNode {parse : List UInt8 → Option CJson} {n : Notification} {node node' : Node}
    (h : updateNode parse n node = .ok node') : node'.slot = node.slot := by
  unfold updateNode at h
  simp only at h
  split at h
  · split at h
    · split at h
      · cases h
      · exact slot_nodeUpdateInfo h
    · cases h
      rfl
  · split at h
    · split at h
      · cases h
        exact slot_nodeSetEndstop _ _ _
      · cases h
        rfl
    · cases h
      rfl

/-- Replacing a row by one with the same key does not change the keys. -/
theorem map_modify_of_eq {α β : Type} (key : α → β) (f : α → α) :
    ∀ (rows : List α) (i : ℕ), (∀ a, rows[i]? = some a → key (f a) = key a) →
      (rows.modify i f).map key = rows.map key := by
  intro rows i h
  apply List.ext_getElem?
  intro j
  rw [List.getElem?_map, List.getElem?_map, List.getElem?_modify]
  by_cases hij : i = j
  · subst hij
    cases hrow : rows[i]? with
    | none => simp
    | some a => simp [h a hrow]
  · simp [hij]

theorem slots_updateRegistry {parse : List UInt8 → Option CJson} {n : Notification}
    {nodes nodes' : NodeTable} (h : updateRegistry parse n nodes = .ok nodes') :
    slots nodes' = slots nodes := by
  rw [updateRegistry] at h
  split at h
  · cases h
    rfl
  · split at h
    · cases h
      rfl
    · next i _ node hnode =>
        obtain ⟨node', hupdate, hret⟩ := bind_eq_ok.mp h
        cases hret
        apply map_modify_of_eq
        intro a ha
        rw [nodeGet, ha] at hnode
        cases hnode
        exact slot_updateNode hupdate

theorem records_searchCmplEvt {r r' : Router} {gattcIf connId : UInt16} {db : GattDb}
    {acts : List Action} (h : searchCmplEvt r gattcIf connId db = .ok (r', acts)) :
    r'.nodes = r.nodes ∧
      r'.conns.rows.map GattcConn.connId = r.conns.rows.map GattcConn.connId := by
  rw [searchCmplEvt] at h
  split at h
  · cases h
    exact ⟨rfl, rfl⟩
  · next c hfind =>
      obtain ⟨c', hdisc, hret⟩ := bind_eq_ok.mp h
      cases hret
      refine ⟨rfl, ?_⟩
      have hid : c'.connId = connId := by
        rw [connId_discover hdisc]
        simpa using List.find?_some hfind
      rw [Table.modifyFirst]
      split
      · rfl
      · next i hidx =>
          obtain ⟨a, ha, hmatch⟩ := Table.row_of_firstIdx hidx
          apply map_modify_of_eq
          intro b hb
          rw [ha] at hb
          cases hb
          rw [hid]
          simpa using (of_decide_eq_true hmatch).symm

/-- `CONNECT` without a free record changes nothing. -/
theorem connectEvt_of_none {r : Router} {gattcIf connId : UInt16}
    (h : allocConn r.conns connId gattcIf = none) (bda : BdAddr) :
    connectEvt r gattcIf connId bda = (r, []) := by
  rw [connectEvt, h]

/-- `CONNECT` with a free record takes it, whether or not there is a slot. -/
theorem connectEvt_of_some {r : Router} {gattcIf connId : UInt16} {conns : ConnTable}
    (h : allocConn r.conns connId gattcIf = some conns) (bda : BdAddr) :
    (connectEvt r gattcIf connId bda).1 =
      { r with conns := conns, nodes := (nodeAdd r.nodes bda connId).1 } := by
  rw [connectEvt, h]
  simp only
  cases (nodeAdd r.nodes bda connId).2 <;> rfl

section ConnectEvt

variable {w w' : World} {gattcIf connId : UInt16} {bda : BdAddr} (hfresh : w.Fresh connId)
  (hrouter : w'.router = (connectEvt w.router gattcIf connId bda).1)
  (hlive : w'.live = ⟨connId, bda, w.router.admittedSlot gattcIf connId bda⟩ :: w.live)
  (hseen : w'.seen = bda :: w.seen)

include hfresh hrouter hlive hseen

/-- A connection for which there is no record. -/
theorem connects_of_none (halloc : allocConn w.router.conns connId gattcIf = none) :
    Connects w w' connId bda (w.router.admittedSlot gattcIf connId bda) := by
  have hfull : ¬ w.records.length < maxConns := by
    rw [World.records, List.length_map, Table.push_eq_none.mp halloc]
    exact Nat.lt_irrefl _
  have hsame : w'.router = w.router := by rw [hrouter, connectEvt_of_none halloc]
  have hgiven : w.router.admittedSlot gattcIf connId bda = none := by
    rw [Router.admittedSlot, halloc]
  rw [hgiven] at hlive ⊢
  refine ⟨hfresh, hlive, hseen, ?_, (fun k hk => by cases hk), fun _ => ⟨?_, ?_⟩⟩
  · rw [if_neg hfull, World.records, World.records, hsame]
  · rw [World.slots, World.slots, hsame]
  · exact fun hroom => absurd hroom hfull

/-- A connection that takes a record, and a slot if there is one. -/
theorem connects_of_some {conns : ConnTable}
    (halloc : allocConn w.router.conns connId gattcIf = some conns) :
    Connects w w' connId bda (w.router.admittedSlot gattcIf connId bda) := by
  obtain ⟨hroom, hrows⟩ := Table.push_eq_some.mp halloc
  have hroom : w.records.length < maxConns := by
    rw [World.records, List.length_map]
    exact hroom
  have hgiven : w.router.admittedSlot gattcIf connId bda =
      (nodeAdd w.router.nodes bda connId).2 := by
    rw [Router.admittedSlot, halloc]
  rw [connectEvt_of_some halloc] at hrouter
  have hslots : w'.slots = Klippylink.slots (nodeAdd w.router.nodes bda connId).1 := by
    rw [World.slots, hrouter]
  have hrecords : w'.records = w.records ++ [connId] := by
    rw [World.records, World.records, hrouter, hrows, List.map_append]
    rfl
  refine ⟨hfresh, hlive, hseen, by rw [if_pos hroom, hrecords], ?_, ?_⟩
  · intro k hk
    rw [hgiven] at hk
    rcases nodeAdd_spec w.router.nodes bda connId with ⟨k', hk', hadmitted⟩ | ⟨hnone, -⟩
    · rw [hk] at hk'
      cases hk'
      rw [hslots]
      exact ⟨hroom, hadmitted⟩
    · rw [hnone] at hk
      cases hk
  · intro hnone
    rw [hgiven] at hnone
    rcases nodeAdd_spec w.router.nodes bda connId with ⟨k, hk, -⟩ | ⟨heq, hfull, hall⟩
    · rw [hnone] at hk
      cases hk
    · refine ⟨by rw [hslots, heq, World.slots], fun _ => ⟨?_, hall⟩⟩
      rw [World.slots, length_slots, hfull]

/-- What the `CONNECT` callback does to slots and records. -/
theorem connects_connectEvt :
    Connects w w' connId bda (w.router.admittedSlot gattcIf connId bda) := by
  cases halloc : allocConn w.router.conns connId gattcIf with
  | none => exact connects_of_none hfresh hrouter hlive hseen halloc
  | some conns => exact connects_of_some hfresh hrouter hlive hseen halloc

end ConnectEvt

/-- What the `DISCONNECT` callback does to slots and records. -/
theorem disconnects_disconnectEvt (w : World) (connId : UInt16) {w' : World}
    (hrouter : w'.router = (disconnectEvt w.router connId).1)
    (hlive : w'.live = w.live.filter fun l => l.connId ≠ connId)
    (hseen : w'.seen = w.seen) : Disconnects w w' connId := by
  refine ⟨hlive, hseen, fun k => ?_, ?_⟩
  · rw [World.slots, World.slots, hrouter]
    exact getElem?_nodeRemove w.router.nodes connId k
  · rw [World.records, World.records, hrouter]
    change (List.eraseP _ _).map _ = _
    rw [List.eraseP_map]
    rfl

/-- The other callbacks leave slots and records alone. -/
theorem quiet_gattcEventHandler {parse : List UInt8 → Option CJson} {r r' : Router}
    {e : GattcEvent} {acts : List Action} (h : gattcEventHandler parse r e = .ok (r', acts))
    (hconnect : (Event.gattc e).connects = none)
    (hdisconnect : (Event.gattc e).disconnects = none) :
    slots r'.nodes = slots r.nodes ∧
      r'.conns.rows.map GattcConn.connId = r.conns.rows.map GattcConn.connId := by
  cases e with
  | connect gattcIf connId bda => cases hconnect
  | disconnect connId => cases hdisconnect
  | searchCmpl gattcIf connId db =>
      obtain ⟨hnodes, hconns⟩ := records_searchCmplEvt h
      exact ⟨by rw [hnodes], hconns⟩
  | notify n =>
      simp only [gattcEventHandler, notifyEvt] at h
      split at h
      · cases h
        exact ⟨rfl, rfl⟩
      · split at h
        · cases h
          exact ⟨rfl, rfl⟩
        · obtain ⟨nodes, hupdate, hret⟩ := bind_eq_ok.mp h
          cases hret
          exact ⟨slots_updateRegistry hupdate, rfl⟩
  | reg gattcIf => cases h; exact ⟨rfl, rfl⟩
  | searchRes connId => cases h; exact ⟨rfl, rfl⟩
  | openFailed => cases h; exact ⟨rfl, rfl⟩
  | other => cases h; exact ⟨rfl, rfl⟩

/-- A GATT client event that happens: the stack delivers it, the callback returns
and its calls are made. -/
theorem world_gattc {parse : List UInt8 → Option CJson} {w w' : World} {e : GattcEvent}
    (h : world parse w (.gattc e) = some w') :
    w.Deliverable e ∧ ∃ r acts, gattcEventHandler parse w.router e = .ok (r, acts) ∧
      w' = ({ w.deliver e with router := r }).perform acts := by
  obtain ⟨acts, hstep⟩ := world_eq_some.mp h
  simp only [World.step] at hstep
  split at hstep
  · next hdeliver =>
      split at hstep
      · cases hstep
      · next r acts' hhandler =>
          cases hstep
          exact ⟨hdeliver, r, acts, hhandler, rfl⟩
  · cases hstep

theorem deliver_quiet {w : World} {e : GattcEvent} (hconnect : (Event.gattc e).connects = none)
    (hdisconnect : (Event.gattc e).disconnects = none) :
    (w.deliver e).live = w.live ∧ (w.deliver e).seen = w.seen := by
  cases e with
  | connect gattcIf connId bda => cases hconnect
  | disconnect connId => cases hdisconnect
  | _ => exact ⟨rfl, rfl⟩

/-- **What an event does to connections**: it starts one, ends one, or leaves
them alone. -/
theorem step_effect {parse : List UInt8 → Option CJson} {w w' : World} {e : Event}
    (h : world parse w e = some w') :
    (∃ gattcIf connId bda, e = .gattc (.connect gattcIf connId bda) ∧
      Connects w w' connId bda (w.router.admittedSlot gattcIf connId bda)) ∨
    (∃ connId, e = .gattc (.disconnect connId) ∧ Disconnects w w' connId) ∨
    (e.connects = none ∧ e.disconnects = none ∧ Quiet w w') := by
  cases e with
  | gap e =>
      cases h
      exact .inr (.inr ⟨rfl, rfl, by simp, by simp, by simp [World.slots], by simp [World.records]⟩)
  | serialRx data =>
      cases h
      refine .inr (.inr ⟨rfl, rfl, by simp, by simp, ?_, ?_⟩)
      · simp [World.slots, Router.feed]
      · simp [World.records, Router.feed]
  | gattc e =>
      obtain ⟨hdeliver, r, acts, hhandler, hw'⟩ := world_gattc h
      have hrouter : w'.router = r := by rw [hw', World.router_perform]
      have hlive : w'.live = (w.deliver e).live := by rw [hw', World.live_perform]
      have hseen : w'.seen = (w.deliver e).seen := by rw [hw', World.seen_perform]
      rw [← hrouter] at hhandler
      cases hconnect : (Event.gattc e).connects with
      | some p =>
          cases e with
          | connect gattcIf connId bda =>
              have hfst := congrArg Prod.fst (Except.ok.inj hhandler)
              exact .inl ⟨gattcIf, connId, bda, rfl,
                connects_connectEvt hdeliver hfst.symm hlive hseen⟩
          | _ => cases hconnect
      | none =>
          cases hdisconnect : (Event.gattc e).disconnects with
          | some c =>
              cases e with
              | disconnect connId =>
                  have hfst := congrArg Prod.fst (Except.ok.inj hhandler)
                  exact .inr (.inl ⟨connId, rfl,
                    disconnects_disconnectEvt w connId hfst.symm hlive hseen⟩)
              | _ => cases hdisconnect
          | none =>
              obtain ⟨hslots, hrecords⟩ := quiet_gattcEventHandler hhandler hconnect hdisconnect
              obtain ⟨hsame, hsaw⟩ := deliver_quiet (w := w) hconnect hdisconnect
              exact .inr (.inr ⟨rfl, rfl, hlive.trans hsame, hseen.trans hsaw,
                hslots, hrecords⟩)

end Klippylink
