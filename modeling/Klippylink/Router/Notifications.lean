import Klippylink.Router.Mirror

/-!
# Whose entry a notification updates

The notification handler looks its sender up twice.  `node_by_conn_id` takes the
first slot that holds the connection id, connected or not, and its entry is
updated; `node_id_by_conn_id` takes the first connected one, and the packet is
forwarded under its index.  They agree, on the sender's slot, exactly when the
first slot that holds the id is connected and has the sender's address.

## Main definitions

* `Notification.Valid` — a complete header with the magic.
* `OwnSlot` — the update and the forwarding are the sender's.
* `FirstHolder` — no slot before the sender's has kept its connection id.
* `GivenFirst` — a connection is given the first slot that holds its id.
-/

namespace Klippylink

open Lib

/-- A notification that the handler does not ignore. -/
def Notification.Valid (n : Notification) : Prop :=
  klipHeaderSize ≤ n.value.length ∧ ofLe16 (n.byte 0) (n.byte 1) = klipprotoMagic

/-- The slot that is updated is the one under whose index the packet is forwarded,
it has the sender's address, and no other slot changes. -/
def OwnSlot (parse : List UInt8 → Option CJson) (w : World) (l : Link) (n : Notification) : Prop :=
  ∃ k, nodeByConnId w.router.nodes n.connId = some k ∧
    nodeIdByConnId w.router.nodes n.connId = some k ∧
    w.slots[k]?.map Slot.bda = some l.bda ∧
    ∀ r' acts, notifyEvt parse w.router n = .ok (r', acts) →
      (∃ node node', nodeGet w.router.nodes k = some node ∧ updateNode parse n node = .ok node' ∧
        nodeGet r'.nodes k = some node') ∧
      (∀ j ≠ k, nodeGet r'.nodes j = nodeGet w.router.nodes j) ∧
      acts = [.emit (UInt8.ofNat k) (n.value.take (n.value.length % 256))]

/-- Before the first connected slot with the id and the address of the link, no
slot holds the id. -/
def FirstHolder (w : World) (l : Link) : Prop :=
  ∃ k : ℕ, w.slots[k]? = some ⟨l.connId, l.bda, true⟩ ∧
    ∀ j < k, ∀ s, w.slots[j]? = some s → s.connId ≠ l.connId

/-- No slot before the one a new connection is given holds its id. -/
def GivenFirst (w : World) (e : Event) : Prop :=
  match e with
  | .gattc (.connect gattcIf c b) =>
      ∀ k, w.router.admittedSlot gattcIf c b = some k →
        ∀ j < k, ∀ s, w.slots[j]? = some s → s.connId ≠ c
  | _ => True

/-! ### One notification -/

/-- What a valid notification does: one entry is replaced, one frame is sent. -/
theorem notifyEvt_valid {parse : List UInt8 → Option CJson} {r r' : Router} {n : Notification}
    {acts : List Action} (hvalid : n.Valid) (h : notifyEvt parse r n = .ok (r', acts)) :
    ∃ nodes, updateRegistry parse n r.nodes = .ok nodes ∧ r' = { r with nodes := nodes } ∧
      acts = emitFor nodes n.connId (n.value.take (n.value.length % 256)) := by
  rw [notifyEvt] at h
  rw [if_neg (Nat.not_lt.mpr hvalid.1), if_neg (not_not.mpr hvalid.2)] at h
  obtain ⟨nodes, hupdate, hret⟩ := bind_eq_ok.mp h
  cases hret
  exact ⟨nodes, hupdate, rfl, rfl⟩

/-- When the update goes through, the packet is forwarded. -/
theorem notifyEvt_of_valid {parse : List UInt8 → Option CJson} {r : Router} {n : Notification}
    (hvalid : n.Valid) {nodes : NodeTable} (h : updateRegistry parse n r.nodes = .ok nodes) :
    notifyEvt parse r n = .ok ({ r with nodes := nodes },
      emitFor nodes n.connId (n.value.take (n.value.length % 256))) := by
  rw [notifyEvt, if_neg (Nat.not_lt.mpr hvalid.1), if_neg (not_not.mpr hvalid.2), h]
  rfl

/-- A packet is no value that the handler ignores. -/
theorem valid_klipPacket {n : Notification} {command : UInt8} {payload : List UInt8}
    (h : n.value = klipPacket command payload) : n.Valid := by
  refine ⟨?_, ?_⟩
  · rw [h, length_klipPacket]
    exact Nat.le_add_right 4 _
  · have hmagic : ofLe16 0x4C 0x4B = klipprotoMagic := rfl
    rw [Notification.byte, Notification.byte, h, klipPacket_eq, List.getD_cons_zero,
      List.getD_cons_succ, List.getD_cons_zero]
    exact hmagic

/-- The entry that is updated is the one `node_by_conn_id` names. -/
theorem updateRegistry_spec {parse : List UInt8 → Option CJson} {n : Notification}
    {nodes nodes' : NodeTable} {k : ℕ} (hk : nodeByConnId nodes n.connId = some k)
    (h : updateRegistry parse n nodes = .ok nodes') :
    (∃ node node', nodeGet nodes k = some node ∧ updateNode parse n node = .ok node' ∧
      nodeGet nodes' k = some node') ∧
      ∀ j ≠ k, nodeGet nodes' j = nodeGet nodes j := by
  obtain ⟨node, hnode, -⟩ := Table.row_of_firstIdx hk
  simp only [updateRegistry, hk, nodeGet, hnode] at h
  obtain ⟨node', hupdate, hret⟩ := bind_eq_ok.mp h
  cases hret
  refine ⟨⟨node, node', hnode, hupdate, ?_⟩, fun j hj => ?_⟩
  · rw [nodeGet, Table.getElem?_modifyAt, if_pos rfl, hnode]
    rfl
  · rw [nodeGet, nodeGet, Table.getElem?_modifyAt, if_neg hj.symm]

/-- **A notification goes to the sender's own slot exactly when that is the first
one that holds its connection id.** -/
theorem ownSlot_iff (parse : List UInt8 → Option CJson) {w : World} {l : Link} {n : Notification}
    (hid : n.connId = l.connId) (hvalid : n.Valid) : OwnSlot parse w l n ↔ FirstHolder w l := by
  constructor
  · rintro ⟨k, hupdated, hforwarded, hbda, -⟩
    rw [hid] at hupdated hforwarded
    obtain ⟨-, hfirst⟩ := nodeByConnId_eq_some.mp hupdated
    obtain ⟨⟨b, hk⟩, -⟩ := nodeIdByConnId_eq_some.mp hforwarded
    rw [World.slots, hk, Option.map_some, Option.some.injEq] at hbda
    subst hbda
    exact ⟨k, hk, hfirst⟩
  · rintro ⟨k, hk, hfirst⟩
    have hupdated : nodeByConnId w.router.nodes n.connId = some k := by
      rw [hid]
      exact nodeByConnId_eq_some.mpr ⟨⟨_, hk, rfl⟩, hfirst⟩
    have hforwarded : ∀ t, slots t = w.slots → nodeIdByConnId t n.connId = some k := by
      intro t ht
      rw [hid]
      refine nodeIdByConnId_eq_some.mpr ⟨⟨l.bda, by rw [ht]; exact hk⟩, fun j hj b hjb => ?_⟩
      rw [ht] at hjb
      exact hfirst j hj _ hjb rfl
    refine ⟨k, hupdated, hforwarded _ rfl, by rw [hk]; rfl, ?_⟩
    intro r' acts h
    obtain ⟨nodes, hupdate, rfl, rfl⟩ := notifyEvt_valid hvalid h
    obtain ⟨hentry, hothers⟩ := updateRegistry_spec hupdated hupdate
    refine ⟨hentry, hothers, ?_⟩
    rw [emitFor, hforwarded nodes (slots_updateRegistry hupdate)]

/-! ### Over a run -/

/-- The slot of a live connection is the first one that holds its id. -/
def World.Front (w : World) : Prop :=
  ∀ l ∈ w.live, ∀ k, l.slot = some k → ∀ j < k, ∀ s, w.slots[j]? = some s → s.connId ≠ l.connId

theorem World.front_start : World.start.Front := fun l hl => by cases hl

/-- An id that is in use is not given to a slot again, so the front stays. -/
theorem World.Front.step {parse : List UInt8 → Option CJson} {w w' : World} {e : Event}
    (hf : w.Front) (h : world parse w e = some w') (hguard : GivenFirst w e) : w'.Front := by
  intro l hl k hk j hj s hs
  rcases step_effect h with ⟨gattcIf, c, b, rfl, hconn⟩ | ⟨c, rfl, hdisc⟩ | ⟨-, -, hquiet⟩
  · rw [hconn.live, List.mem_cons] at hl
    cases hslot : w.router.admittedSlot gattcIf c b with
    | none =>
        rw [(hconn.refused hslot).1] at hs
        rcases hl with rfl | hl
        · rw [hslot] at hk
          cases hk
        · exact hf l hl k hk j hj s hs
    | some k' =>
        obtain ⟨-, hadm⟩ := hconn.admitted k' hslot
        rcases hl with rfl | hl
        · rw [hslot] at hk
          cases hk
          rw [hadm.others j (Nat.ne_of_lt hj)] at hs
          exact hguard k hslot j hj s hs
        · by_cases hjk : j = k'
          · subst hjk
            rw [hadm.given] at hs
            cases hs
            exact (hconn.fresh l hl).symm
          · rw [hadm.others j hjk] at hs
            exact hf l hl k hk j hj s hs
  · rw [hdisc.slots j] at hs
    have hold := hf l (hdisc.mem_live.mp hl).1 k hk j hj
    split at hs
    · rw [Option.map_eq_some_iff] at hs
      obtain ⟨s', hs', rfl⟩ := hs
      exact hold s' hs'
    · exact hold s hs
  · rw [hquiet.slots] at hs
    rw [hquiet.live] at hl
    exact hf l hl k hk j hj s hs

/-- In a sound world whose live connections are in front, each is the first holder
of its id. -/
theorem World.Front.firstHolder {w : World} (hf : w.Front) (hs : w.Sound) {l : Link}
    (hl : l ∈ w.live) (hslot : l.slot.isSome = true) : FirstHolder w l := by
  obtain ⟨k, hk⟩ := Option.isSome_iff_exists.mp hslot
  exact ⟨k, (hs.admitted l hl k hk).1, hf l hl k hk⟩

/-- **Whose entry a notification updates.**  In every reachable world and for every
valid notification of a live admitted connection, the update and the forwarding are
the sender's exactly when no slot before the sender's has kept its connection id.
So they are in every world of a run in which each connection is given the first slot
that holds its id. -/
theorem notifications_own_slot (parse : List UInt8 → Option CJson) (es : List Event) (w : World)
    (hrun : System.run (world parse) World.start es = some w) (l : Link) (hl : l ∈ w.live)
    (hslot : l.slot.isSome = true) (n : Notification) (hid : n.connId = l.connId)
    (hvalid : n.Valid) :
    (OwnSlot parse w l n ↔ FirstHolder w l) ∧
      (System.Along (world parse) (fun w e _ => GivenFirst w e) World.start es →
        OwnSlot parse w l n) := by
  have hiff : OwnSlot parse w l n ↔ FirstHolder w l := ownSlot_iff parse hid hvalid
  refine ⟨hiff, fun halong => hiff.mpr ?_⟩
  have hfront := System.Along.induction World.Front (fun _ _ _ hf h hguard => hf.step h hguard)
    es World.start w World.front_start halong hrun
  exact hfront.firstHolder (sound_of_reaches ⟨es, hrun⟩) hl hslot

/-- A pong from connection 0. -/
def pong : Notification := ⟨0, bareHeader .pong, fun _ => 0⟩

theorem notifications_own_slot_oneNode :
    (OwnSlot noJson oneNode ⟨0, peer 1, some 0⟩ pong ↔ FirstHolder oneNode ⟨0, peer 1, some 0⟩) ∧
      (System.Along (world noJson) (fun w e _ => GivenFirst w e) World.start
        [connectTo 0 (peer 1)] → OwnSlot noJson oneNode ⟨0, peer 1, some 0⟩ pong) :=
  notifications_own_slot noJson [connectTo 0 (peer 1)] oneNode rfl ⟨0, peer 1, some 0⟩ (by decide)
    rfl pong rfl ⟨by decide, by decide⟩

/-- Two peers that use the id 0 one after the other; the second is connected. -/
def secondPeerRun : List Event := [connectTo 0 (peer 1), disconnectOf 0, connectTo 0 (peer 2)]

/-- A notification of the second peer updates the entry of the first. -/
theorem secondPeerRun_not_ownSlot :
    ∃ w, (world noJson).run World.start secondPeerRun = some w ∧
      (⟨0, peer 2, some 1⟩ : Link) ∈ w.live ∧ nodeByConnId w.router.nodes 0 = some 0 ∧
      nodeIdByConnId w.router.nodes 0 = some 1 ∧
      ¬ OwnSlot noJson w ⟨0, peer 2, some 1⟩ pong := by
  have hend : ((world noJson).run World.start secondPeerRun).map (fun w => (w.live,
      nodeByConnId w.router.nodes 0, nodeIdByConnId w.router.nodes 0)) =
      some ([⟨0, peer 2, some 1⟩], some 0, some 1) := by decide
  obtain ⟨w, hrun, hw⟩ := Option.map_eq_some_iff.mp hend
  obtain ⟨hlive, hupdated, hforwarded⟩ : w.live = [⟨0, peer 2, some 1⟩] ∧
      nodeByConnId w.router.nodes 0 = some 0 ∧ nodeIdByConnId w.router.nodes 0 = some 1 := by
    simpa using hw
  refine ⟨w, hrun, by rw [hlive]; exact List.mem_singleton.mpr rfl, hupdated, hforwarded, ?_⟩
  rintro ⟨k, hu, hf, -⟩
  have hzero : some 0 = some k := hupdated.symm.trans hu
  have hone : some 1 = some k := hforwarded.symm.trans hf
  exact absurd (hzero.trans hone.symm) (by decide)

end Klippylink
