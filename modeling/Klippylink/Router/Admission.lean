import Klippylink.Router.World

/-!
# Admitting a connection

The `CONNECT` callback takes a connection record, then a slot of the registry.  The
records are given back at a disconnect; a slot is kept for its address, so that the
registry fills with every new address.  When there is a record and no slot the callback
returns in between.

## Main definitions

* `Router.Holds`, `AllOrNothing` — the connection is in both tables, or nothing has
  changed.
* `Router.Settles` — there is no record, or there is a slot.
* `all_or_nothing_iff` — when a connection is admitted or changes nothing.
-/

namespace Klippylink

open Lib

/-- Both tables have an entry for the connection. -/
structure Router.Holds (r : Router) (gattcIf connId : UInt16) (bda : BdAddr) : Prop where
  record : ∃ c ∈ r.conns.rows, c.connId = connId ∧ c.gattcIf = gattcIf
  slot : ⟨connId, bda, true⟩ ∈ slots r.nodes

/-- The connection is in both tables, the PING has been emitted and the service search
started; or neither table has changed. -/
def AllOrNothing (r : Router) (gattcIf connId : UInt16) (bda : BdAddr)
    (after : Router × List Action) : Prop :=
  (after.1.Holds gattcIf connId bda ∧
      ∃ nid, after.2 = [.emit nid (bareHeader .ping), .searchService gattcIf connId]) ∨
    after.1.conns = r.conns ∧ after.1.nodes = r.nodes

/-- Every connection record is taken; or there is a slot, one that was never used or the
one that was kept for the address. -/
def Router.Settles (r : Router) (bda : BdAddr) : Prop :=
  maxConns ≤ r.conns.rows.length ∨ (slots r.nodes).length < nodeMaxCount ∨
    ∃ s ∈ slots r.nodes, s.bda = bda ∧ s.connected = false

instance (r : Router) (bda : BdAddr) : Decidable (r.Settles bda) :=
  inferInstanceAs (Decidable (_ ∨ _ ∨ ∃ s ∈ slots r.nodes, s.bda = bda ∧ s.connected = false))

/-- A connected slot is found, and the PING goes out under the index of one. -/
theorem emitFor_of_mem {t : NodeTable} {connId : UInt16} {bda : BdAddr}
    (h : ⟨connId, bda, true⟩ ∈ slots t) (data : List UInt8) :
    ∃ nid, emitFor t connId data = [.emit nid data] := by
  obtain ⟨n, hn, hslot⟩ := List.mem_map.mp h
  have hmatch : (decide (n.connId = connId) && n.connected) = true := by
    rw [Node.slot, Slot.mk.injEq] at hslot
    simp [hslot.1, hslot.2.2]
  cases hfind : nodeIdByConnId t connId with
  | none =>
      obtain ⟨i, hi⟩ := List.getElem?_of_mem hn
      rw [nodeIdByConnId, Table.firstIdx_eq_none] at hfind
      rw [hfind i n hi] at hmatch
      cases hmatch
  | some nid => exact ⟨UInt8.ofNat nid, by rw [emitFor, hfind]⟩

/-- A slot is given when one was never used or one was kept for the address. -/
theorem Admitted.settles {t t' : NodeTable} {connId : UInt16} {bda : BdAddr} {k : ℕ}
    (h : Admitted (slots t) (slots t') connId bda k) :
    (slots t).length < nodeMaxCount ∨ ∃ s ∈ slots t, s.bda = bda ∧ s.connected = false := by
  cases hk : (slots t)[k]? with
  | some s => exact .inr ⟨s, List.mem_of_getElem? hk, h.reused s hk⟩
  | none =>
      left
      have hbefore := List.getElem?_eq_none_iff.mp hk
      have hafter := (List.getElem?_eq_some_iff.mp h.given).1
      have hfits := t'.fits
      rw [length_slots] at hafter
      omega

/-- **What the `CONNECT` callback comes to.** -/
theorem allOrNothing_connectEvt_iff (r : Router) (gattcIf connId : UInt16) (bda : BdAddr) :
    AllOrNothing r gattcIf connId bda (connectEvt r gattcIf connId bda) ↔ r.Settles bda := by
  rw [connectEvt]
  cases halloc : allocConn r.conns connId gattcIf with
  | none => exact iff_of_true (.inr ⟨rfl, rfl⟩) (.inl (Table.push_eq_none.mp halloc).ge)
  | some conns =>
      obtain ⟨hroom, hrows⟩ := Table.push_eq_some.mp halloc
      rcases nodeAdd_spec r.nodes bda connId with ⟨k, hk, hadmitted⟩ | ⟨heq, hfull, hall⟩
      · have hslot := List.mem_of_getElem? hadmitted.given
        obtain ⟨nid, hnid⟩ := emitFor_of_mem hslot (bareHeader .ping)
        simp only [hk, hnid]
        have hrecord : ⟨connId, gattcIf, 0, 0, 0, false, false, false⟩ ∈ conns.rows := by
          rw [hrows]
          exact List.mem_append_right _ List.mem_cons_self
        exact iff_of_true (.inl ⟨⟨⟨_, hrecord, rfl, rfl⟩, hslot⟩, nid, rfl⟩)
          (.inr hadmitted.settles)
      · simp only [heq]
        refine iff_of_false (fun hafter => ?_) (fun hsettles => ?_)
        · rcases hafter with ⟨-, nid, hacts⟩ | ⟨hconns, -⟩
          · cases hacts
          · -- the record that was taken is still there
            have hlen : conns.rows.length = r.conns.rows.length + 1 := by rw [hrows]; simp
            rw [show conns = r.conns from hconns] at hlen
            omega
        · rw [Router.Settles, length_slots] at hsettles
          rcases hsettles with hrecords | hslots | ⟨s, hs, hbda, hoff⟩
          · omega
          · omega
          · rw [hall s hs hbda] at hoff
            cases hoff

/-- The event is a connection, and it is admitted or changes nothing. -/
def ConnectsOrNot (parse : List UInt8 → Option CJson) (w : World) (e : Event) (w' : World) :
    Prop :=
  ∀ gattcIf connId bda acts, e = .gattc (.connect gattcIf connId bda) →
    w.step parse e = some (w', acts) →
      AllOrNothing w.router gattcIf connId bda (w'.router, acts)

theorem connectsOrNot_iff {parse : List UInt8 → Option CJson} {w w' : World} {e : Event}
    (hstep : world parse w e = some w') :
    ConnectsOrNot parse w e w' ↔ ∀ gattcIf connId bda,
      e = .gattc (.connect gattcIf connId bda) → w.router.Settles bda := by
  obtain ⟨acts, hacts⟩ := world_eq_some.mp hstep
  refine forall₃_congr fun gattcIf connId bda => ?_
  have hafter : e = .gattc (.connect gattcIf connId bda) →
      (w'.router, acts) = connectEvt w.router gattcIf connId bda := by
    intro he
    subst he
    simp only [World.step, gattcEventHandler] at hacts
    split at hacts
    · cases hacts
      rw [World.router_perform]
    · cases hacts
  constructor
  · intro h he
    rw [← allOrNothing_connectEvt_iff w.router gattcIf connId bda, ← hafter he]
    exact h acts he hacts
  · intro h acts' he hacts'
    rw [hacts] at hacts'
    cases hacts'
    rw [hafter he, allOrNothing_connectEvt_iff]
    exact h he

/-- **A connection that cannot be admitted changes nothing**, at every step of a run,
exactly when each connection finds every record taken, or a slot. -/
theorem all_or_nothing_iff (parse : List UInt8 → Option CJson) (es : List Event) :
    System.Along (world parse) (ConnectsOrNot parse) World.start es ↔
      System.Along (world parse) (fun w e _ => ∀ gattcIf connId bda,
        e = .gattc (.connect gattcIf connId bda) → w.router.Settles bda) World.start es := by
  refine System.along_iff (fun _ => True) (fun _ => True) _ _ (fun _ _ _ _ _ => trivial) ?_
    (fun _ _ _ _ _ _ _ => trivial) es _ trivial trivial
  intro w e w' _ _ hstep
  exact connectsOrNot_iff hstep

/-- Eight nodes connect and leave. -/
def eightNodes : List Event :=
  (List.range 8).flatMap fun i =>
    [connectTo (UInt16.ofNat i) (peer (UInt8.ofNat i)), disconnectOf (UInt16.ofNat i)]

/-- After that none is connected, and a ninth node takes a record without being in the
registry. -/
theorem ninthNode_half :
    ¬ System.Along (world noJson) (ConnectsOrNot noJson) World.start
      (eightNodes ++ [connectTo 8 (peer 8)]) := by
  intro halong
  obtain ⟨w, hrun, hlive, hsettles⟩ : ∃ w, System.run (world noJson) World.start eightNodes =
      some w ∧ w.live = [] ∧ ¬ w.router.Settles (peer 8) := ⟨_, rfl, rfl, by decide +kernel⟩
  have hlast := ((System.along_append hrun).mp halong).2
  have hdeliverable : w.Deliverable (.connect 3 8 (peer 8)) := by
    rw [World.Deliverable, World.Fresh, hlive]
    simp
  obtain ⟨w', hstep⟩ : ∃ w', world noJson w (connectTo 8 (peer 8)) = some w' := by
    simp only [world, World.step, connectTo, if_pos hdeliverable, gattcEventHandler]
    exact ⟨_, rfl⟩
  rw [System.along_cons hstep, connectsOrNot_iff hstep] at hlast
  exact hsettles (hlast.1 3 8 (peer 8) rfl)

end Klippylink
