import Klippylink.Bridge.DeviceInfo
import Klippylink.Bridge.Fidelity
import Klippylink.Lib.Journal

/-!
# Endstops, from the pin to the router's registry

An edge on a pin runs the interrupt handler, which calls the callback that the
endstop was given at the start; an ENDSTOP_QUERY is answered with the state that is
read when it is carried out.  Both links between the router and the node are lossless
queues.

`app_main` gives every endstop `endstop_event_cb`, which logs and sends nothing, so
only answers reach the registry.  What each endstop was when its last query was carried
out is kept beside the state, for the statement.

## Main definitions

* `Endstops.edge` — what an edge on a pin makes the node send.
* `EndstopSetup`, `EndstopWorld`, `endstopWorld` — the system.
* `Agrees`, `Unchanged` — the registry is right, and what decides it.
* `endstops_agree_iff` — the registry is right exactly for the endstops that have not
  changed since their last query.
-/

namespace Klippylink

open Lib

/-! ## The node -/

/-- What an edge on a pin makes the node send: the handler is found by the pin, and
calls back.  `endstop_event_cb` only logs. -/
def Endstops.edge (s : Endstops) (server : GattServer) (level : UInt8 → Bool) (pin : UInt8) :
    List NodeCall :=
  match (s.isr pin).bind (endstopIsrHandler s level) with
  | some (.changeCb, idx, triggered) => server.endstopChangeCb idx triggered
  | some (.eventCb, _, _) => []
  | none => []

/-- Every endstop that `app_main` initialised has `endstop_event_cb`, and there are no
more of them than in the configuration. -/
theorem appMain_endstops {cfg : DeviceCfg} {out : BootOutcomes} {d : Devices}
    (h : appMain cfg out = some d) :
    (∀ e ∈ d.endstops.table.rows, e.cb = some .eventCb) ∧
      d.endstops.table.count ≤ cfg.endstops.count := by
  have hd : d.endstops = (initEndstops cfg out).1 := by
    rw [appMain] at h
    split at h
    · cases h
    · cases h
      rfl
  have htakes := takesNextRow_endstopInit out.endstop
  have hroom : ([] : List Endstop).length + cfg.endstops.rows.length ≤ endstopMax := by
    have hfits := cfg.endstops.fits
    rw [List.length_nil, Nat.zero_add]
    exact hfits
  refine ⟨fun e he => ?_, ?_⟩
  · rw [hd] at he
    rcases mem_initLoop htakes cfg.endstops.rows 0 Endstops.start hroom he with hold | hnew
    · cases hold
    · obtain ⟨ec, -, rfl⟩ := hnew
      rfl
  · have hlen := length_initLoop_le htakes cfg.endstops.rows 0 Endstops.start hroom
    rw [hd]
    exact Nat.le_trans hlen (Nat.le_of_eq (Nat.zero_add _))

/-- **An edge sends nothing.** -/
theorem edge_eq_nil {s : Endstops} (h : ∀ e ∈ s.table.rows, e.cb = some .eventCb)
    (server : GattServer) (level : UInt8 → Bool) (pin : UInt8) : s.edge server level pin = [] := by
  rw [Endstops.edge]
  cases hcall : (s.isr pin).bind (endstopIsrHandler s level) with
  | none => rfl
  | some call =>
      obtain ⟨cb, idx, triggered⟩ := call
      obtain ⟨arg, -, harg⟩ := Option.bind_eq_some_iff.mp hcall
      rw [endstopIsrHandler] at harg
      split at harg
      · cases harg
      · next e he =>
          rw [h e (List.mem_of_getElem? he)] at harg
          cases harg
          rfl

/-! ## The system -/

/-- What is fixed: the node's endstops and how it was built, the router's id of the
connection, and the router's JSON parser. -/
structure EndstopSetup where
  endstops : Endstops
  build : NodeBuild
  connId : UInt16
  parse : List UInt8 → Option CJson

/-- The pins, the node's server, the ENDSTOP_QUERY payloads on their way to the node, the
notifications on their way to the router, the router, and what each endstop was when its
last query was carried out. -/
structure EndstopWorld where
  level : UInt8 → Bool
  server : GattServer
  queries : List (List UInt8)
  notifications : List (List UInt8)
  router : Router
  asked : UInt8 → Bool

/-- What can happen. -/
inductive EndstopEvent
  /-- The level at a pin becomes high or low, which raises its interrupt. -/
  | level (pin : UInt8) (high : Bool)
  /-- ENDSTOP_QUERY is written to the node. -/
  | query (payload : List UInt8)
  /-- The node gets the next query. -/
  | write (beyond : ℕ → UInt8) (out : Outcomes)
  /-- The router gets the next notification. -/
  | notify (beyond : ℕ → UInt8)

/-- ENDSTOP_QUERY. -/
def queryPacket (payload : List UInt8) : KlipPacket := ⟨KlipCommand.endstopQuery.code, payload⟩

/-- ENDSTOP_STATE. -/
def statePacket (idx : UInt8) (triggered : Bool) : KlipPacket :=
  ⟨KlipCommand.endstopState.code, [idx, if triggered then 1 else 0]⟩

namespace EndstopWorld

/-- One event. -/
def step (x : EndstopSetup) (w : EndstopWorld) : EndstopEvent → Option EndstopWorld
  | .level pin high =>
      let level := fun p => if p = pin then high else w.level p
      let sent := if high = w.level pin then [] else x.endstops.edge w.server level pin
      some { w with
        level := level
        notifications := w.notifications ++ sent.filterMap NodeCall.indicated }
  | .query payload =>
      if payload.length ≤ klipMaxPayloadSize then
        some { w with queries := w.queries ++ [payload] }
      else none
  | .write beyond out =>
      match w.queries with
      | [] => none
      | payload :: rest =>
          let written := w.server.writeEvt x.build ((queryPacket payload).written beyond)
            { out with endstopRead := endstopRead x.endstops w.level }
          some { w with
            queries := rest
            server := written.1
            notifications := w.notifications ++ written.2.filterMap NodeCall.indicated
            asked :=
              match payload with
              | [] => w.asked
              | idx :: _ => fun i =>
                  if i = idx then endstopRead x.endstops w.level idx else w.asked i }
  | .notify beyond =>
      match w.notifications with
      | [] => none
      | value :: rest =>
          match gattcEventHandler x.parse w.router (.notify ⟨x.connId, value, beyond⟩) with
          | .error _ => none
          | .ok (router, _) => some { w with notifications := rest, router := router }

/-- No message is in flight. -/
def Idle (w : EndstopWorld) : Prop := w.queries = [] ∧ w.notifications = []

/-- The slot of the node. -/
def node (x : EndstopSetup) (w : EndstopWorld) : Option Node :=
  (nodeByConnId w.router.nodes x.connId).bind (nodeGet w.router.nodes)

end EndstopWorld

/-- `endstops[i].triggered`. -/
def Node.triggered (n : Node) (i : UInt8) : Bool :=
  (n.endstops.toList[i.toNat]?.map NodeEndstop.triggered).getD false

/-- The endstops as a system of events. -/
def endstopWorld (x : EndstopSetup) : System EndstopWorld EndstopEvent := fun w e => w.step x e

/-- The endstop initialised. -/
def EndstopSetup.Initialised (x : EndstopSetup) (i : UInt8) : Prop :=
  i.toNat < x.endstops.table.count

/-- The registry holds the state of every endstop that initialised. -/
def Agrees (x : EndstopSetup) (w : EndstopWorld) : Prop :=
  ∃ n, w.node x = some n ∧
    ∀ i, x.Initialised i → n.triggered i = endstopRead x.endstops w.level i

/-- Every endstop that initialised is as it was when its last query was carried out. -/
def Unchanged (x : EndstopSetup) (w : EndstopWorld) : Prop :=
  ∀ i, x.Initialised i → endstopRead x.endstops w.level i = w.asked i

/-! ### Messages -/

/-- A query with an index is answered with the state that is read. -/
theorem writeEvt_queryPacket {s : GattServer} (hs : Listening s) (build : NodeBuild) (idx : UInt8)
    (rest : List UInt8) (hlen : (idx :: rest).length ≤ klipMaxPayloadSize) (beyond : ℕ → UInt8)
    (out : Outcomes) :
    s.writeEvt build ((queryPacket (idx :: rest)).written beyond) out =
      (s, [.sendIndicate s.connId (statePacket idx (out.endstopRead idx)).bytes]) := by
  obtain ⟨hmagic, hcommand, hbyte⟩ := header_written (queryPacket (idx :: rest)) .endstopQuery rfl
    beyond
  have hlength : (UInt8.ofNat (queryPacket (idx :: rest)).payload.length).toNat =
      rest.length + 1 := toNat_byte (Nat.le_trans hlen (by decide))
  have hidx : ((queryPacket (idx :: rest)).written beyond).byte 4 = idx := rfl
  rw [writeEvt_packet, GattServer.dispatchPacket, hmagic, hcommand, hbyte, hlength, hidx]
  simp only [ne_eq, not_true_eq_false, if_false, Nat.le_add_left, if_true]
  rw [GattServer.endstopChangeCb, hs.notify]
  rfl

/-- A query without an index is not answered. -/
theorem writeEvt_queryPacket_nil (s : GattServer) (build : NodeBuild) (beyond : ℕ → UInt8)
    (out : Outcomes) :
    s.writeEvt build ((queryPacket []).written beyond) out = (s, []) := by
  obtain ⟨hmagic, hcommand, hbyte⟩ := header_written (queryPacket []) .endstopQuery rfl beyond
  have hlength : (UInt8.ofNat (queryPacket []).payload.length).toNat = 0 := rfl
  rw [writeEvt_packet, GattServer.dispatchPacket, hmagic, hcommand, hbyte, hlength]
  simp only [ne_eq, not_true_eq_false, if_false]
  rfl

/-- What a state sets in the slot. -/
theorem triggered_nodeSetEndstop (n : Node) (idx : UInt8) (triggered : Bool) {i : UInt8}
    (h : i.toNat < n.endstopCount) :
    (nodeSetEndstop n idx triggered).triggered i =
      if i = idx then triggered else n.triggered i := by
  have hi : i.toNat < nodeMaxEndstops :=
    Nat.lt_of_lt_of_le h (Nat.le_of_lt_succ n.endstopCount.isLt)
  rw [nodeSetEndstop]
  split
  · next hidx =>
      by_cases heq : i = idx
      · subst heq
        simp [Node.triggered, hi]
      · have hne : idx.toNat ≠ i.toNat := fun hnat => heq (UInt8.toNat_inj.mp hnat.symm)
        simp [Node.triggered, heq, Vector.getElem?_set_ne _ hne]
  · next hidx =>
      have heq : i ≠ idx := fun heq => hidx (heq ▸ h)
      rw [if_neg heq]

theorem endstopCount_nodeSetEndstop (n : Node) (idx : UInt8) (triggered : Bool) :
    (nodeSetEndstop n idx triggered).endstopCount = n.endstopCount := by
  rw [nodeSetEndstop]
  split <;> rfl

/-- **A state reaches the slot of the node.** -/
theorem notify_statePacket {x : EndstopSetup} {w : EndstopWorld} {n : Node}
    (hn : w.node x = some n) (idx : UInt8) (triggered : Bool) (beyond : ℕ → UInt8) :
    ∃ router acts, gattcEventHandler x.parse w.router
        (.notify ⟨x.connId, (statePacket idx triggered).bytes, beyond⟩) = .ok (router, acts) ∧
      ∀ w' : EndstopWorld, w'.router = router →
        w'.node x = some (nodeSetEndstop n idx triggered) := by
  obtain ⟨k, hk, hget⟩ := Option.bind_eq_some_iff.mp hn
  let note : Notification := ⟨x.connId, (statePacket idx triggered).bytes, beyond⟩
  let nodes := w.router.nodes.modifyAt k fun _ => nodeSetEndstop n idx triggered
  have hupdate : updateNode x.parse note n = .ok (nodeSetEndstop n idx triggered) := by
    have hcommand : note.byte 2 = KlipCommand.endstopState.code := rfl
    have hlength : note.byte 3 = 2 := rfl
    have hidx : note.byte 4 = idx := rfl
    have hstate : note.byte 5 = if triggered then 1 else 0 := rfl
    simp only [updateNode, hcommand, hlength, hidx, hstate, KlipCommand.code_inj, reduceCtorEq,
      if_false, if_true]
    cases triggered <;> rfl
  have hnodes : updateRegistry x.parse note w.router.nodes = .ok nodes := by
    have hid : nodeByConnId w.router.nodes note.connId = some k := hk
    simp only [updateRegistry, hid, hget, hupdate]
    rfl
  have hslots := slots_updateRegistry hnodes
  refine ⟨{ w.router with nodes := nodes },
    emitFor nodes note.connId (note.value.take (note.value.length % 256)),
    notifyEvt_of_valid (valid_klipPacket rfl) hnodes, fun w' hw' => ?_⟩
  have hk' : nodeByConnId nodes x.connId = some k := (nodeByConnId_congr hslots x.connId).trans hk
  have hrow : w.router.nodes.rows[k]? = some n := hget
  rw [EndstopWorld.node, hw', hk', Option.bind_some, nodeGet, Table.getElem?_modifyAt, if_pos rfl,
    hrow, Option.map_some]

/-! ### The invariant -/

/-- Once everything on its way is stored, the registry holds what each endstop was when
its last query was carried out. -/
structure Pending (x : EndstopSetup) (w : EndstopWorld) : Prop where
  listening : Listening w.server
  legal : ∀ payload ∈ w.queries, payload.length ≤ klipMaxPayloadSize
  stored : ∃ n states, w.node x = some n ∧ x.endstops.table.count ≤ n.endstopCount ∧
    w.notifications = states.map (fun m => (statePacket m.1 m.2).bytes) ∧
    ∀ i, x.Initialised i → replay n.triggered states i = w.asked i

section Runs

variable {x : EndstopSetup} {w w' : EndstopWorld}
  (hcb : ∀ e ∈ x.endstops.table.rows, e.cb = some .eventCb)

include hcb in
/-- A level change changes only the level. -/
theorem Pending.level (h : Pending x w) {pin : UInt8} {high : Bool}
    (hstep : endstopWorld x w (.level pin high) = some w') : Pending x w' := by
  simp only [endstopWorld, EndstopWorld.step, edge_eq_nil hcb, ite_self, List.filterMap_nil,
    List.append_nil, Option.some.injEq] at hstep
  subst hstep
  exact ⟨h.listening, h.legal, h.stored⟩

/-- A query joins the others. -/
theorem Pending.query (h : Pending x w) {payload : List UInt8}
    (hstep : endstopWorld x w (.query payload) = some w') : Pending x w' := by
  simp only [endstopWorld, EndstopWorld.step] at hstep
  split at hstep
  · next hlen =>
      cases hstep
      refine ⟨h.listening, fun p hp => ?_, h.stored⟩
      rcases List.mem_append.mp hp with hold | hnew
      · exact h.legal p hold
      · rw [List.mem_singleton.mp hnew]
        exact hlen
  · cases hstep

/-- A query that is carried out is answered with the state it finds. -/
theorem Pending.write (h : Pending x w) {beyond : ℕ → UInt8} {out : Outcomes}
    (hstep : endstopWorld x w (.write beyond out) = some w') : Pending x w' := by
  obtain ⟨n, states, hn, hcount, hnotified, hsettled⟩ := h.stored
  have hlegal := h.legal
  simp only [endstopWorld, EndstopWorld.step] at hstep
  split at hstep
  · cases hstep
  · next payload rest hqueries =>
      rw [hqueries] at hlegal
      obtain ⟨hpayload, hrest⟩ := List.forall_mem_cons.mp hlegal
      cases payload with
      | nil =>
          rw [writeEvt_queryPacket_nil] at hstep
          cases hstep
          exact ⟨h.listening, hrest, n, states, hn, hcount, by simpa using hnotified, hsettled⟩
      | cons idx more =>
          rw [writeEvt_queryPacket h.listening x.build idx more hpayload] at hstep
          cases hstep
          refine ⟨h.listening, hrest, n, states ++ [(idx, endstopRead x.endstops w.level idx)], hn,
            hcount, ?_, fun i hi => ?_⟩
          · rw [hnotified, List.map_append]
            rfl
          · rw [replay_concat]
            change (if i = idx then endstopRead x.endstops w.level idx else _) =
              if i = idx then endstopRead x.endstops w.level idx else w.asked i
            rw [hsettled i hi]

/-- A state that is delivered is stored. -/
theorem Pending.notify (h : Pending x w) {beyond : ℕ → UInt8}
    (hstep : endstopWorld x w (.notify beyond) = some w') : Pending x w' := by
  obtain ⟨n, states, hn, hcount, hnotified, hsettled⟩ := h.stored
  simp only [endstopWorld, EndstopWorld.step] at hstep
  split at hstep
  · cases hstep
  · next value rest hnotifications =>
      rw [hnotifications] at hnotified
      obtain ⟨m, states, rfl, rfl, rfl⟩ := List.map_eq_cons_iff.mp hnotified.symm
      obtain ⟨router, acts, hhandler, hnode⟩ := notify_statePacket hn m.1 m.2 beyond
      rw [hhandler] at hstep
      cases hstep
      refine ⟨h.listening, h.legal, _, states, hnode _ rfl, ?_, rfl, fun i hi => ?_⟩
      · rw [endstopCount_nodeSetEndstop]
        exact hcount
      · rw [← hsettled i hi, replay_cons]
        refine replay_congr states ?_
        rw [triggered_nodeSetEndstop n m.1 m.2 (Nat.lt_of_lt_of_le hi hcount),
          Function.update_apply]

include hcb in
/-- **Every step keeps what will be stored.** -/
theorem pending_step (w : EndstopWorld) (e : EndstopEvent) (w' : EndstopWorld) (h : Pending x w)
    (hstep : endstopWorld x w e = some w') : Pending x w' := by
  cases e with
  | level pin high => exact h.level hcb hstep
  | query payload => exact h.query hstep
  | write beyond out => exact h.write hstep
  | notify beyond => exact h.notify hstep

end Runs

/-! ### Endstop state at the router -/

/-- With nothing in flight the registry holds what each endstop was when it was asked. -/
theorem Pending.idle {x : EndstopSetup} {w : EndstopWorld} (h : Pending x w) (hidle : w.Idle) :
    ∃ n, w.node x = some n ∧ ∀ i, x.Initialised i → n.triggered i = w.asked i := by
  obtain ⟨n, states, hn, -, hnotified, hsettled⟩ := h.stored
  have hnil : states = [] := List.map_eq_nil_iff.mp (hnotified.symm.trans hidle.2)
  subst hnil
  exact ⟨n, hn, hsettled⟩

/-- **Endstop state reaches the router only in answers.**  The node was started with a
configuration, the central is subscribed, and the router has a slot for the connection
with the configured number of endstops.  In every state reached in which no message is
in flight, the registry holds the logical state of every endstop that initialised
exactly when each of them is as it was when its last query was carried out; at first,
as the registry has it. -/
theorem endstops_agree_iff {cfg : DeviceCfg} {out : BootOutcomes} {d : Devices}
    (hd : appMain cfg out = some d) (x : EndstopSetup) (hx : x.endstops = d.endstops)
    (level : UInt8 → Bool) (server : GattServer) (hserver : Listening server) (router : Router)
    (n : Node) (hn : (nodeByConnId router.nodes x.connId).bind (nodeGet router.nodes) = some n)
    (hcount : (n.endstopCount : ℕ) = cfg.endstops.count) :
    ∀ es w, System.run (endstopWorld x) ⟨level, server, [], [], router, n.triggered⟩ es = some w →
      w.Idle → (Agrees x w ↔ Unchanged x w) := by
  obtain ⟨hcb, hle⟩ := appMain_endstops hd
  rw [← hx] at hcb hle
  have hstart : Pending x ⟨level, server, [], [], router, n.triggered⟩ :=
    ⟨hserver, by simp, n, [], hn, by rw [hcount]; exact hle, rfl, fun _ _ => rfl⟩
  intro es w hrun hidle
  have hpending := System.run_induction (Pending x) (pending_step hcb) es _ w hstart hrun
  obtain ⟨n', hn', hasked⟩ := hpending.idle hidle
  constructor
  · rintro ⟨n'', hn'', hagree⟩ i hi
    rw [hn'] at hn''
    cases hn''
    rw [← hagree i hi, hasked i hi]
  · intro hunchanged
    exact ⟨n', hn', fun i hi => by rw [hasked i hi, hunchanged i hi]⟩

/-! ### Two endstops -/

/-- The router of one node whose device info has arrived. -/
def informedRouter : Router :=
  (gattcEventHandler (deviceInfo twoEndstops).parseOnly searchedNode.router (.notify
    ⟨0, klipPacket KlipCommand.deviceInfoResp.code (deviceInfo twoEndstops).printUnformatted,
      fun _ => 0⟩)).toOption.elim searchedNode.router Prod.fst

/-- The slot of the node. -/
def informedNode : Node := (nodeGet informedRouter.nodes 0).getD (Node.fresh (peer 1) 0)

/-- The node started with both endstops, on pins that are high when they are open. -/
def twoEndstopsSetup : EndstopSetup :=
  ⟨((appMain twoEndstops allInitialise).map Devices.endstops).getD Endstops.start,
    ⟨false, none, crc32⟩, 0, (deviceInfo twoEndstops).parseOnly⟩

/-- The slot that the connection has. -/
theorem informedRouter_node :
    (nodeByConnId informedRouter.nodes 0).bind (nodeGet informedRouter.nodes) =
      some informedNode := by decide +kernel

/-- Nothing has happened since the device info. -/
def quietEndstops : EndstopWorld :=
  ⟨fun _ => true, enabledServer, [], [], informedRouter, informedNode.triggered⟩

/-- The level of another pin changes. -/
theorem endstops_agree_iff_twoEndstops :
    ∃ w, System.run (endstopWorld twoEndstopsSetup) quietEndstops [.level 9 false] = some w ∧
      Agrees twoEndstopsSetup w := by
  have hends : ∃ w, System.run (endstopWorld twoEndstopsSetup) quietEndstops [.level 9 false] =
      some w ∧ w.Idle ∧ Unchanged twoEndstopsSetup w := by
    refine ⟨_, rfl, ⟨rfl, rfl⟩, fun i hi => ?_⟩
    have hlt : i.toNat < 2 := hi
    have hi' : i = 0 ∨ i = 1 := by
      rw [← UInt8.toNat_inj, ← UInt8.toNat_inj, show (0 : UInt8).toNat = 0 from rfl,
        show (1 : UInt8).toNat = 1 from rfl]
      omega
    rcases hi' with rfl | rfl
    · decide +kernel
    · decide +kernel
  obtain ⟨w, hrun, hidle, hunchanged⟩ := hends
  exact ⟨w, hrun, (endstops_agree_iff (show appMain twoEndstops allInitialise = some _ from rfl)
    twoEndstopsSetup rfl (fun _ => true) enabledServer ⟨by decide, rfl⟩ informedRouter informedNode
    informedRouter_node (by decide +kernel) _ w hrun hidle).mpr hunchanged⟩

/-- The first endstop closes, and nothing is sent. -/
theorem closedEndstop_not_agrees :
    ∃ w, System.run (endstopWorld twoEndstopsSetup) quietEndstops [.level 4 false] = some w ∧
      w.Idle ∧ ¬ Agrees twoEndstopsSetup w := by
  refine ⟨_, rfl, ⟨rfl, rfl⟩, ?_⟩
  rintro ⟨n, hn, hagree⟩
  have hnode : some informedNode = some n := informedRouter_node.symm.trans hn
  cases hnode
  have hstored : informedNode.triggered 0 = false := by decide +kernel
  have hread := hagree 0 (show 0 < twoEndstopsSetup.endstops.table.count by decide)
  rw [hstored] at hread
  exact absurd hread (by decide)

end Klippylink
