import Klippylink.Bridge.Line

/-!
# Which nodes the host believes are connected

The router tells the host about connections with packets of its own: a PING under
the node id when a connection is given a slot, an ERROR when it ends.  The host
reads them among the packets that are forwarded from the nodes.

What the host believes is compared with the registry once it has read everything
in flight.  The two agree along a run exactly as long as every disconnect is
unshadowed: the ERROR names the connected slot, and `node_remove` marks the first
slot with the id.

## Main definitions

* `Bridge.Agrees` — the host's table and the registry say the same.
* `presence_along_iff` — when they do.
-/

namespace Klippylink

open Lib

/-- Slot `i` is marked connected. -/
def World.SlotOn (w : World) (i : ℕ) : Prop := ∃ c a, w.slots[i]? = some ⟨c, a, true⟩

/-- For every node id the host has a connected entry exactly when the slot is
marked connected. -/
def Bridge.Agrees (b : Bridge) : Prop :=
  ∀ i : UInt8, b.manager.Present i ↔ b.world.SlotOn i.toNat

/-- The condition on an event at the router. -/
def BridgeUnshadowed (b : Bridge) (e : BridgeEvent) : Prop :=
  match e with
  | .router e => Unshadowed b.world e
  | .poll _ _ => True

/-! ### Presence after the frames in flight -/

section Presence

variable {loads : List UInt8 → Option PyValue}

/-- Who is present after a packet depends only on who was present before. -/
theorem present_onPacket_congr {m m' : DeviceManager} (now now' : ℕ) (f : Frame)
    (h : ∀ i, m.Present i ↔ m'.Present i) (i : UInt8) :
    (m.onPacket loads now f).Present i ↔ (m'.onPacket loads now' f).Present i := by
  by_cases hping : f.packet.command = KlipCommand.ping.code
  · rw [DeviceManager.present_ping loads now m hping,
      DeviceManager.present_ping loads now' m' hping, h]
  · by_cases herror : f.packet.command = KlipCommand.error.code
    · rw [DeviceManager.present_error loads now m herror,
        DeviceManager.present_error loads now' m' herror, h]
    · rw [DeviceManager.present_other loads now m hping herror,
        DeviceManager.present_other loads now' m' hping herror, h]

theorem present_foldl_congr (fs : List Frame) (now now' : ℕ) :
    ∀ {m m' : DeviceManager}, (∀ i, m.Present i ↔ m'.Present i) → ∀ i,
      (fs.foldl (DeviceManager.onPacket loads now) m).Present i ↔
        (fs.foldl (DeviceManager.onPacket loads now') m').Present i := by
  induction fs with
  | nil => intro m m' h; exact h
  | cons f fs ih => intro m m' h; exact ih (present_onPacket_congr now now' f h)

/-- Packets of nodes do not change who is present. -/
theorem present_foldl_other (fs : List Frame) (now : ℕ)
    (hfs : ∀ f ∈ fs, f.packet.command ≠ KlipCommand.ping.code ∧
      f.packet.command ≠ KlipCommand.error.code) (m : DeviceManager) (i : UInt8) :
    (fs.foldl (DeviceManager.onPacket loads now) m).Present i ↔ m.Present i := by
  induction fs generalizing m with
  | nil => rfl
  | cons f fs ih =>
      obtain ⟨⟨hping, herror⟩, hfs⟩ := List.forall_mem_cons.mp hfs
      rw [List.foldl_cons, ih hfs, DeviceManager.present_other loads now m hping herror]

end Presence

/-! ### What an event at the router sends -/

/-- A packet of a node is forwarded as it is, under at most one node id. -/
theorem frames_notify {parse : List UInt8 → Option CJson} {r r' : Router} {n : Notification}
    {acts : List Action} (h : notifyEvt parse r n = .ok (r', acts))
    (htraffic : NodeTraffic (.gattc (.notify n))) :
    ∃ fs, emitted acts = frameStream fs ∧ ∀ f ∈ fs, f.packet.payload.length ≤ 255 ∧
      f.packet.command ≠ KlipCommand.ping.code ∧ f.packet.command ≠ KlipCommand.error.code := by
  simp only [NodeTraffic] at htraffic
  split at htraffic
  · exact htraffic.elim
  · next p hdecode =>
      obtain ⟨hvalue, hlen, hping, herror⟩ := htraffic
      have hsize : n.value.length = 4 + p.payload.length := by
        rw [hvalue, length_klipPacket]
      have hall : n.value.take (n.value.length % 256) = n.value := by
        apply List.take_of_length_le
        have hle : p.payload.length ≤ 244 := hlen
        omega
      rw [notifyEvt] at h
      split at h
      · cases h
        exact ⟨[], rfl, by simp⟩
      · split at h
        · cases h
          exact ⟨[], rfl, by simp⟩
        · obtain ⟨nodes, -, hret⟩ := bind_eq_ok.mp h
          cases hret
          rw [hall, hvalue]
          refine ⟨_, emitted_emitFor nodes n.connId p, fun f hf => ?_⟩
          rw [mem_framesFor hf]
          exact ⟨Nat.le_trans hlen (by decide), hping, herror⟩

/-- The notification that an event delivers. -/
def Event.notifies : Event → Option Notification
  | .gattc (.notify n) => some n
  | _ => none

/-- A notification is handled by its callback. -/
theorem step_notify {parse : List UInt8 → Option CJson} {w w' : World} {n : Notification}
    {acts : List Action} (h : w.step parse (.gattc (.notify n)) = some (w', acts)) :
    notifyEvt parse w.router n = .ok (w'.router, acts) := by
  simp only [World.step] at h
  split at h
  · split at h
    · cases h
    · next r acts' hhandler =>
        cases h
        rw [World.router_perform]
        exact hhandler
  · cases h

/-- An event other than a connect, a disconnect or a notification sends nothing. -/
theorem emitted_silent {parse : List UInt8 → Option CJson} {w w' : World} {e : Event}
    {acts : List Action} (h : w.step parse e = some (w', acts)) (hconnect : e.connects = none)
    (hdisconnect : e.disconnects = none) (hnotify : e.notifies = none) : emitted acts = [] := by
  cases e with
  | serialRx data =>
      cases h
      exact emitted_of_target (target_feed w.router data)
  | gap e =>
      cases h
      simp only [gapEventHandler]
      split
      · rfl
      · split <;> rfl
      · rfl
  | gattc e =>
      simp only [World.step] at h
      split at h
      · split at h
        · cases h
        · next r acts' hhandler =>
            cases h
            cases e with
            | connect => cases hconnect
            | disconnect => cases hdisconnect
            | notify n => cases hnotify
            | searchCmpl gattcIf connId db =>
                simp only [gattcEventHandler, searchCmplEvt] at hhandler
                split at hhandler
                · cases hhandler
                  rfl
                · obtain ⟨c', -, hret⟩ := bind_eq_ok.mp hhandler
                  cases hret
                  rw [emitted_append]
                  split <;> split <;> rfl
            | reg => cases hhandler; rfl
            | searchRes => cases hhandler; rfl
            | openFailed => cases hhandler; rfl
            | other => cases hhandler; rfl
      · cases h

/-- An event other than a connect or a disconnect sends packets of nodes only. -/
theorem frames_quiet {parse : List UInt8 → Option CJson} {w w' : World} {e : Event}
    {acts : List Action} (h : w.step parse e = some (w', acts)) (htraffic : NodeTraffic e)
    (hconnect : e.connects = none) (hdisconnect : e.disconnects = none) :
    ∃ fs, emitted acts = frameStream fs ∧ ∀ f ∈ fs, f.packet.payload.length ≤ 255 ∧
      f.packet.command ≠ KlipCommand.ping.code ∧ f.packet.command ≠ KlipCommand.error.code := by
  cases hnotify : e.notifies with
  | none => exact ⟨[], emitted_silent h hconnect hdisconnect hnotify, by simp⟩
  | some n =>
      match e, hnotify with
      | .gattc (.notify _), rfl => exact frames_notify (step_notify h) htraffic

/-- A connect that is given a slot sends a PING, and one that is refused nothing. -/
theorem frames_connectEvt (r : Router) (gattcIf c : UInt16) (a : BdAddr) :
    emitted (connectEvt r gattcIf c a).2 = frameStream (if (r.admittedSlot gattcIf c a).isSome then
      framesFor (connectEvt r gattcIf c a).1.nodes c ⟨KlipCommand.ping.code, []⟩ else []) := by
  cases halloc : allocConn r.conns c gattcIf with
  | none => simp [connectEvt, Router.admittedSlot, halloc, emitted]
  | some conns =>
      cases hadd : (nodeAdd r.nodes a c).2 with
      | none => simp [connectEvt, Router.admittedSlot, halloc, hadd, emitted]
      | some k =>
          simp only [connectEvt, Router.admittedSlot, halloc, hadd, Option.isSome_some, if_true,
            emitted_append]
          rw [bareHeader, ← emitted_emitFor]
          exact List.append_nil _

theorem frames_connect {parse : List UInt8 → Option CJson} {w w' : World} {gattcIf c : UInt16}
    {a : BdAddr} {acts : List Action}
    (h : w.step parse (.gattc (.connect gattcIf c a)) = some (w', acts)) :
    emitted acts = frameStream (if (w.router.admittedSlot gattcIf c a).isSome then
      framesFor w'.router.nodes c ⟨KlipCommand.ping.code, []⟩ else []) := by
  simp only [World.step] at h
  split at h
  · simp only [gattcEventHandler] at h
    cases h
    rw [World.router_perform]
    exact frames_connectEvt w.router gattcIf c a
  · cases h

/-- A disconnect sends an ERROR under the connected slot of the id. -/
theorem frames_disconnect {parse : List UInt8 → Option CJson} {w w' : World} {c : UInt16}
    {acts : List Action} (h : w.step parse (.gattc (.disconnect c)) = some (w', acts)) :
    emitted acts =
      frameStream (framesFor w.router.nodes c ⟨KlipCommand.error.code, []⟩) := by
  simp only [World.step] at h
  split at h
  · simp only [gattcEventHandler, disconnectEvt] at h
    cases h
    rw [emitted_append, bareHeader, ← emitted_emitFor]
    exact List.append_nil _
  · cases h

/-! ### Agreement after one event -/

/-- A slot index is a node id. -/
theorem toNat_slot {w : World} {k : ℕ} {s : Slot} (h : w.slots[k]? = some s) :
    (UInt8.ofNat k).toNat = k := by
  have hlt := (List.getElem?_eq_some_iff.mp h).1
  have hfits := w.router.nodes.fits
  rw [World.slots, length_slots] at hlt
  have hmax : nodeMaxCount = 8 := rfl
  exact toNat_byte (by omega)

theorem eq_ofNat_iff {i : UInt8} {k : ℕ} (h : (UInt8.ofNat k).toNat = k) :
    i = UInt8.ofNat k ↔ i.toNat = k := by
  rw [← UInt8.toNat_inj, h]

/-- In a mirrored world the id of a connected slot is looked up to it. -/
theorem World.Mirror.nodeIdByConnId {w : World} (hm : w.Mirror) {k : ℕ} {c : UInt16} {a : BdAddr}
    (h : w.slots[k]? = some ⟨c, a, true⟩) : nodeIdByConnId w.router.nodes c = some k := by
  refine nodeIdByConnId_eq_some.mpr ⟨⟨a, h⟩, fun j hj a' hja => ?_⟩
  have := hm.unique j k c a' a hja h
  omega

variable {parse : List UInt8 → Option CJson} {loads : List UInt8 → Option PyValue}

/-- A connect turns on the slot that the PING names, if the peer is given one. -/
theorem agrees_connect (loads : List UInt8 → Option PyValue) {m : DeviceManager} {w w' : World}
    {slot : Option ℕ} {c : UInt16} {a : BdAddr} (hm' : w'.Mirror) (hconn : Connects w w' c a slot)
    (hagree : ∀ i, m.Present i ↔ w.SlotOn i.toNat) (i : UInt8) :
    ((if slot.isSome then framesFor w'.router.nodes c ⟨KlipCommand.ping.code, []⟩
        else []).foldl (DeviceManager.onPacket loads 0) m).Present i ↔ w'.SlotOn i.toNat := by
  cases slot with
  | none =>
      simp only [Option.isSome_none, Bool.false_eq_true, if_false, List.foldl_nil]
      rw [hagree, World.SlotOn, World.SlotOn, (hconn.refused rfl).1]
  | some k =>
      obtain ⟨-, hadm⟩ := hconn.admitted k rfl
      have hk := toNat_slot hadm.given
      simp only [Option.isSome_some, if_true, framesFor, hm'.nodeIdByConnId hadm.given,
        List.foldl_cons, List.foldl_nil]
      rw [DeviceManager.present_ping loads 0 m rfl, eq_ofNat_iff hk, hagree, World.SlotOn,
        World.SlotOn]
      by_cases hik : i.toNat = k
      · rw [hik]
        exact iff_of_true (.inl rfl) ⟨c, a, hadm.given⟩
      · rw [hadm.others _ hik]
        exact or_iff_right hik

/-- No connected slot holds the id: the slot that a disconnect marks was off. -/
theorem slotOn_unheld {w w' : World} {c : UInt16} (hdisc : Disconnects w w' c)
    (hfind : nodeIdByConnId w.router.nodes c = none) (i : ℕ) : w.SlotOn i ↔ w'.SlotOn i := by
  have hoff := nodeIdByConnId_eq_none.mp hfind
  rw [World.SlotOn, World.SlotOn, hdisc.slots]
  split
  · next hmark =>
      obtain ⟨⟨s, hs', hid⟩, -⟩ := nodeByConnId_eq_some.mp hmark
      rw [World.slots, hs']
      constructor
      · rintro ⟨c', b, hb⟩
        cases hb
        subst hid
        exact absurd hs' (hoff _ b)
      · rintro ⟨c', b, hb⟩
        cases hb
  · rfl

/-- A disconnect turns off the slot that is marked. -/
theorem slotOn_marked {w w' : World} {c : UInt16} {k : ℕ} (hdisc : Disconnects w w' c)
    (hmark : nodeByConnId w.router.nodes c = some k) (i : ℕ) :
    w'.SlotOn i ↔ i ≠ k ∧ w.SlotOn i := by
  rw [World.SlotOn, World.SlotOn, hdisc.slots, hmark]
  by_cases hik : i = k
  · rw [hik, if_pos rfl]
    refine iff_of_false ?_ fun hne => hne.1 rfl
    rintro ⟨c', b, hb⟩
    obtain ⟨s, -, hs'⟩ := Option.map_eq_some_iff.mp hb
    cases hs'
  · rw [if_neg fun h => hik (Option.some.inj h).symm]
    exact (and_iff_right hik).symm

/-- **The ERROR of a disconnect names the slot that is marked** exactly when no slot
in front has kept the id. -/
theorem agrees_disconnect (loads : List UInt8 → Option PyValue) {m : DeviceManager}
    {w w' : World} {c : UInt16} (hm : w.Mirror) (hdisc : Disconnects w w' c)
    (hagree : ∀ i, m.Present i ↔ w.SlotOn i.toNat) :
    (∀ i, ((framesFor w.router.nodes c ⟨KlipCommand.error.code, []⟩).foldl
        (DeviceManager.onPacket loads 0) m).Present i ↔ w'.SlotOn i.toNat) ↔
      Unshadowed w (.gattc (.disconnect c)) := by
  rw [framesFor]
  cases hfind : nodeIdByConnId w.router.nodes c with
  | none =>
      refine iff_of_true (fun i => ?_) fun d hd k b hk => ?_
      · rw [List.foldl_nil, hagree, slotOn_unheld hdisc hfind]
      · cases hd
        exact absurd hk (nodeIdByConnId_eq_none.mp hfind k b)
  | some k =>
      obtain ⟨⟨a, hk⟩, -⟩ := nodeIdByConnId_eq_some.mp hfind
      have hkn := toNat_slot hk
      simp only [List.foldl_cons, List.foldl_nil]
      constructor
      · intro hall d hd k' b hk' j hj s hs' hid
        cases hd
        -- the ERROR names the connected slot, so it has to be off now
        have hkk : k' = k := hm.unique k' k _ b a hk' hk
        subst hkk
        have hgone : ¬ w'.SlotOn k' := by
          intro hon
          rw [← hkn] at hon
          have hpresent := (hall (UInt8.ofNat k')).mpr hon
          rw [DeviceManager.present_error loads 0 m rfl] at hpresent
          exact hpresent.1 rfl
        have hmiss : nodeByConnId w.router.nodes c ≠ some k' := by
          intro hmark
          exact (nodeByConnId_eq_some.mp hmark).2 j hj s hs' hid
        apply hgone
        refine ⟨c, b, ?_⟩
        rw [hdisc.slots, if_neg hmiss, hk']
      · intro hguard i
        have hmark := nodeByConnId_of_unshadowed hguard rfl hk
        rw [DeviceManager.present_error loads 0 m rfl, Ne, eq_ofNat_iff hkn, hagree,
          slotOn_marked hdisc hmark]

/-- What an event at the router does to presence, in terms of the frames it
sends. -/
theorem agrees_router (loads : List UInt8 → Option PyValue) {m : DeviceManager} {w w' : World}
    {e : Event} {acts : List Action} (hs : w.Sound) (hm : w.Mirror)
    (hagree : ∀ i, m.Present i ↔ w.SlotOn i.toNat) (h : w.step parse e = some (w', acts))
    (htraffic : NodeTraffic e) :
    ∃ fs, emitted acts = frameStream fs ∧ (∀ f ∈ fs, f.packet.payload.length ≤ 255) ∧
      ((∀ i, (fs.foldl (DeviceManager.onPacket loads 0) m).Present i ↔ w'.SlotOn i.toNat) ↔
        Unshadowed w e) := by
  have hworld : world parse w e = some w' := world_eq_some.mpr ⟨acts, h⟩
  rcases step_effect hworld with ⟨gattcIf, c, a, rfl, hconn⟩ | ⟨c, rfl, hdisc⟩ | ⟨hc, hd, hquiet⟩
  · have hguard : Unshadowed w (.gattc (.connect gattcIf c a)) := fun d hd => by cases hd
    have hm' : w'.Mirror := (mirror_step_iff hs hm hworld).mpr hguard
    refine ⟨_, frames_connect h, ?_, iff_of_true (agrees_connect loads hm' hconn hagree) hguard⟩
    intro f hf
    split at hf
    · rw [mem_framesFor hf]
      exact Nat.zero_le _
    · cases hf
  · refine ⟨_, frames_disconnect h, ?_, agrees_disconnect loads hm hdisc hagree⟩
    intro f hf
    rw [mem_framesFor hf]
    exact Nat.zero_le _
  · obtain ⟨fs, hfs, hall⟩ := frames_quiet h htraffic hc hd
    refine ⟨fs, hfs, fun f hf => (hall f hf).1, iff_of_true (fun i => ?_) fun d hd' => ?_⟩
    · rw [present_foldl_other fs 0 (fun f hf => (hall f hf).2), hagree, World.SlotOn,
        World.SlotOn, hquiet.slots]
    · rw [hd] at hd'
      cases hd'

/-! ### Agreement over a run -/

/-- The frames in flight, once read, leave the host with what the registry says. -/
def Bridge.Settled (loads : List UInt8 → Option PyValue) (b : Bridge) : Prop :=
  b.world.Mirror ∧ ∃ pending, Framed b pending ∧ ∀ i,
    (pending.foldl (DeviceManager.onPacket loads 0) b.manager).Present i ↔ b.world.SlotOn i.toNat

theorem Framed.agrees_drain {b : Bridge} {pending : List Frame} (h : Framed b pending) :
    (b.drain loads).Agrees ↔ ∀ i,
      (pending.foldl (DeviceManager.onPacket loads 0) b.manager).Present i ↔
        b.world.SlotOn i.toNat := by
  rw [Bridge.Agrees, h.drain]
  rfl

theorem Bridge.settled_start : Bridge.start.Settled loads := by
  refine ⟨World.mirror_start, [], ⟨rfl, by simp, rfl, fun _ => rfl⟩, fun i => ?_⟩
  refine iff_of_false ?_ ?_
  · rintro ⟨n, hn, -⟩
    cases hn
  · rintro ⟨c, a, h⟩
    cases h

/-- Frames that the router sends join those in flight. -/
theorem Framed.send {b : Bridge} {pending fs : List Frame} (h : Framed b pending) (w' : World)
    (hfs : ∀ f ∈ fs, f.packet.payload.length ≤ 255) :
    Framed { b with world := w', wire := b.wire ++ frameStream fs } (pending ++ fs) where
  isOpen := h.isOpen
  legal := by
    intro f hf
    exact (List.mem_append.mp hf).elim (h.legal f) (hfs f)
  bytes := by
    simp only
    rw [← List.append_assoc, h.bytes, frameStream_append]
  idle := by
    intro hnil
    obtain ⟨hwire, hsent⟩ := List.append_eq_nil_iff.mp hnil
    rw [h.idle hwire, frameStream_eq_nil hsent]
    rfl

/-- **One event keeps the bridge settled exactly when it is unshadowed.** -/
theorem settled_step {b b' : Bridge} {e : BridgeEvent} (hs : b.world.Sound)
    (hsettled : b.Settled loads) (h : b.step parse loads e = some b') :
    ((b'.drain loads).Agrees ↔ BridgeUnshadowed b e) ∧
      (BridgeUnshadowed b e → b'.Settled loads) := by
  obtain ⟨hm, pending, hframed, hagree⟩ := hsettled
  cases e with
  | poll count now =>
      cases h
      obtain ⟨done, rest, rfl, hrest, hmanager⟩ := hframed.poll loads count now
      have hlater : ∀ i, (rest.foldl (DeviceManager.onPacket loads 0)
          (b.poll loads count now).manager).Present i ↔ b.world.SlotOn i.toNat := by
        intro i
        rw [← hagree, List.foldl_append, hmanager]
        exact present_foldl_congr rest 0 0 (present_foldl_congr done now 0 fun _ => Iff.rfl) i
      exact ⟨iff_of_true (hrest.agrees_drain.mpr hlater) trivial,
        fun _ => ⟨hm, rest, hrest, hlater⟩⟩
  | router e =>
      simp only [Bridge.step] at h
      split at h
      · next htraffic =>
          obtain ⟨⟨w', acts⟩, hstep, rfl⟩ := Option.map_eq_some_iff.mp h
          obtain ⟨fs, hfs, hlegal, hiff⟩ := agrees_router loads hs hm hagree hstep htraffic
          have hsent := hframed.send w' hlegal
          rw [← hfs] at hsent
          simp only [← List.foldl_append] at hiff
          refine ⟨hsent.agrees_drain.trans hiff, fun hguard => ?_⟩
          have hworld : world parse b.world e = some w' := world_eq_some.mpr ⟨acts, hstep⟩
          exact ⟨(mirror_step_iff hs hm hworld).mpr hguard, _, hsent, hiff.mpr hguard⟩
      · cases h

theorem sound_bridge_step {b b' : Bridge} {e : BridgeEvent} (hs : b.world.Sound)
    (h : b.step parse loads e = some b') : b'.world.Sound := by
  cases e with
  | poll count now =>
      cases h
      exact hs
  | router e =>
      simp only [Bridge.step] at h
      split at h
      · obtain ⟨⟨w', acts⟩, hstep, rfl⟩ := Option.map_eq_some_iff.mp h
        exact hs.step (world_eq_some.mpr ⟨acts, hstep⟩)
      · cases h

/-- **When the host and the router agree.**  Along a run, the host agrees with the
registry after every event, once it has read what is in flight, exactly when every
disconnect of the run is unshadowed.  So in such a run they agree whenever nothing
is in flight. -/
theorem presence_along_iff (parse : List UInt8 → Option CJson)
    (loads : List UInt8 → Option PyValue) (es : List BridgeEvent) :
    (System.Along (bridge parse loads) (fun _ _ b' => (b'.drain loads).Agrees) Bridge.start es ↔
        System.Along (bridge parse loads) (fun b e _ => BridgeUnshadowed b e) Bridge.start es) ∧
      (System.Along (bridge parse loads) (fun b e _ => BridgeUnshadowed b e) Bridge.start es →
        ∀ b, System.run (bridge parse loads) Bridge.start es = some b → b.wire = [] →
          b.Agrees) := by
  constructor
  · exact System.along_iff (fun b => b.world.Sound) (Bridge.Settled loads) _ _
      (fun _ _ _ hs h => sound_bridge_step hs h) (fun _ _ _ hs hp h => (settled_step hs hp h).1)
      (fun _ _ _ hs hp h => (settled_step hs hp h).2) es Bridge.start World.sound_start
      Bridge.settled_start
  · intro halong b hrun hempty
    have hend : b.world.Sound ∧ b.Settled loads :=
      System.Along.induction (fun b => b.world.Sound ∧ b.Settled loads)
        (fun _ _ _ hb h hguard => ⟨sound_bridge_step hb.1 h, (settled_step hb.1 hb.2 h).2 hguard⟩)
        es Bridge.start b ⟨World.sound_start, Bridge.settled_start⟩ halong hrun
    obtain ⟨-, -, pending, hframed, hagree⟩ := hend
    rw [hframed.idle hempty] at hagree
    exact hagree

/-- `sharedIdRun`, and the host reads everything. -/
def sharedIdRead : List BridgeEvent := sharedIdRun.map .router ++ [.poll 64 0]

/-- Nothing is in flight; the host has the second peer disconnected and the router
has its slot connected. -/
theorem sharedIdRead_not_agrees :
    ∃ b, System.run (bridge noJson fun _ => none) Bridge.start sharedIdRead = some b ∧
      b.wire = [] ∧ ¬ b.manager.Present 1 ∧ b.world.SlotOn 1 ∧ ¬ b.Agrees := by
  have hend : (System.run (bridge noJson fun _ => none) Bridge.start sharedIdRead).map
      (fun b => (b.wire, (b.manager.get 1).map NodeInfo.connected, b.world.slots)) =
      some ([], some false, [⟨0, peer 1, false⟩, ⟨0, peer 2, true⟩]) := by decide
  obtain ⟨b, hrun, hb⟩ := Option.map_eq_some_iff.mp hend
  obtain ⟨hwire, hhost, hslots⟩ : b.wire = [] ∧
      (b.manager.get 1).map NodeInfo.connected = some false ∧
      b.world.slots = [⟨0, peer 1, false⟩, ⟨0, peer 2, true⟩] := by simpa using hb
  have hoff : ¬ b.manager.Present 1 := by
    rintro ⟨n, hn, hon⟩
    rw [hn, Option.map_some, hon] at hhost
    cases hhost
  have hon : b.world.SlotOn 1 := ⟨0, peer 2, by rw [hslots]; rfl⟩
  exact ⟨b, hrun, hwire, hoff, hon, fun h => hoff ((h 1).mpr hon)⟩

end Klippylink
