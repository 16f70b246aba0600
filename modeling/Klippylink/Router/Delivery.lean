import Klippylink.Router.Mirror

/-!
# Which connection a command goes to

A command names a slot.  The parser takes the connection id the slot holds and
writes to the record of that id; notifications go the other way, from the id to the
first connected slot that holds it.  A slot that stayed connected after its
connection ended still holds an id, and when the id is in use again a command for
that slot is written to a connection that is not its own.

## Main definitions

* `commandWrite` — the one write of a packet to a connection.
* `World.tagged` — the live connection whose notifications carry a node id.
* `DeliversUnicast`, `DeliversBroadcast`, `Delivers` — what the writes should be.
* `World.Unshared`, `World.NoEcho`, `Undisturbed` — when they are.
-/

namespace Klippylink

open Lib

/-- The write of a packet to a connection whose command characteristic is
discovered. -/
def commandWrite (r : Router) (connId : UInt16) (packet : List UInt8) : Option Action :=
  (findConn r.conns connId).bind fun c =>
    if c.cmdFound then some (.writeChar c.gattcIf connId c.cmdHandle packet) else none

/-- The live connection whose notifications are forwarded under this node id. -/
def World.tagged (w : World) (nodeId : UInt8) : Option Link :=
  w.live.find? fun l => nodeIdByConnId w.router.nodes l.connId = some nodeId.toNat

/-- One write, to the connection tagged with the node id; none when there is no
such connection or its command characteristic is not discovered. -/
def DeliversUnicast (w : World) (d : Dispatch) : Prop :=
  w.router.dispatch d =
    ((w.tagged d.nodeId).bind fun l => commandWrite w.router l.connId d.packet).toList

/-- One write to every live admitted connection whose command characteristic is
discovered, and no other call. -/
def DeliversBroadcast (w : World) (d : Dispatch) : Prop :=
  (∀ a ∈ w.router.dispatch d, a.target.isSome) ∧
    ∀ c, (w.router.dispatch d).filter (fun a => a.target = some c) =
      if ∃ l ∈ w.live, l.connId = c ∧ l.slot.isSome then
        (commandWrite w.router c d.packet).toList
      else []

/-- What a completed packet should come to. -/
def Delivers (w : World) (d : Dispatch) : Prop :=
  if d.nodeId = 0xFF then DeliversBroadcast w d else DeliversUnicast w d

/-- The command characteristic of a connection is discovered. -/
def World.Discovered (w : World) (c : UInt16) : Prop :=
  ∃ rec, findConn w.router.conns c = some rec ∧ rec.cmdFound = true

/-- When slot `i` is connected and its connection id is that of a discovered
connection, no connected slot before it holds the same id. -/
def World.Unshared (w : World) (i : ℕ) : Prop :=
  ∀ c b, w.slots[i]? = some ⟨c, b, true⟩ → w.Discovered c →
    ∀ j < i, ∀ b', w.slots[j]? ≠ some ⟨c, b', true⟩

/-- A connected slot with the id of a discovered connection is the one that
connection was given. -/
def World.NoEcho (w : World) : Prop :=
  ∀ (k : ℕ) c b, w.slots[k]? = some ⟨c, b, true⟩ → w.Discovered c →
    ∃ l ∈ w.live, l.connId = c ∧ l.slot = some k

/-- The condition for a packet to be delivered as it should. -/
def Undisturbed (w : World) (d : Dispatch) : Prop :=
  if d.nodeId = 0xFF then w.NoEcho else w.Unshared d.nodeId.toNat

/-! ### The writes -/

theorem bleCentralSendToNode_eq (r : Router) (c : UInt16) (packet : List UInt8) :
    bleCentralSendToNode r c packet = (commandWrite r c packet).toList := by
  rw [bleCentralSendToNode, commandWrite]
  cases findConn r.conns c with
  | none => rfl
  | some rec => cases h : rec.cmdFound <;> simp [h]

theorem commandWrite_eq_none {w : World} {c : UInt16} {packet : List UInt8}
    (h : ¬ w.Discovered c) : commandWrite w.router c packet = none := by
  rw [commandWrite]
  cases hrec : findConn w.router.conns c with
  | none => rfl
  | some rec =>
      have hoff : rec.cmdFound = false :=
        Bool.eq_false_iff.mpr fun hon => h ⟨rec, hrec, hon⟩
      simp [hoff]

theorem commandWrite_eq_some {w : World} {c : UInt16} (packet : List UInt8)
    (h : w.Discovered c) :
    ∃ a, commandWrite w.router c packet = some a ∧ a.target = some c := by
  obtain ⟨rec, hrec, hon⟩ := h
  exact ⟨.writeChar rec.gattcIf c rec.cmdHandle packet, by simp [commandWrite, hrec, hon], rfl⟩

/-- A discovered connection is live. -/
theorem World.Discovered.live {w : World} (hs : w.Sound) {c : UInt16} (h : w.Discovered c) :
    ∃ l ∈ w.live, l.connId = c := by
  obtain ⟨rec, hrec, -⟩ := h
  have hid : rec.connId = c := by simpa using List.find?_some hrec
  exact hs.recordLive c (List.mem_map.mpr ⟨rec, List.mem_of_find?_eq_some hrec, hid⟩)

/-- What is sent to one slot, by what the slot holds. -/
def slotWrite (r : Router) (packet : List UInt8) (s : Option Slot) : List Action :=
  match s with
  | some ⟨c, _, true⟩ => (commandWrite r c packet).toList
  | _ => []

theorem sendToSlot_eq (r : Router) (packet : List UInt8) (k : ℕ) :
    sendToSlot r packet (nodeGet r.nodes k) = slotWrite r packet (slots r.nodes)[k]? := by
  rw [getElem?_slots, nodeGet]
  cases r.nodes.rows[k]? with
  | none => rfl
  | some n =>
      cases h : n.connected <;>
        simp [sendToSlot, slotWrite, Node.slot, h, bleCentralSendToNode_eq]

/-! ### One addressee -/

/-- The connection tagged with a node id is the one whose id leads to that slot. -/
theorem World.nodeIdByConnId_of_tagged {w : World} {n : UInt8} {l : Link}
    (h : w.tagged n = some l) : nodeIdByConnId w.router.nodes l.connId = some n.toNat := by
  simpa using List.find?_some h

/-- The slot of a tagged connection holds its id. -/
theorem World.slot_of_tagged {w : World} {n : UInt8} {l : Link} (h : w.tagged n = some l) :
    ∃ b, w.slots[n.toNat]? = some ⟨l.connId, b, true⟩ :=
  (nodeIdByConnId_eq_some.mp (w.nodeIdByConnId_of_tagged h)).1

/-- **One write to the connection of a slot** comes from a tagged connection exactly
when the slot is the first that holds the id. -/
theorem deliversUnicast_discovered {w : World} (hs : w.Sound) {d : Dispatch} {c : UInt16}
    {b : BdAddr} (hsend : w.router.dispatch d =
      slotWrite w.router d.packet w.slots[d.nodeId.toNat]?)
    (hk : w.slots[d.nodeId.toNat]? = some ⟨c, b, true⟩) (hdisc : w.Discovered c) :
    DeliversUnicast w d ↔ w.Unshared d.nodeId.toNat := by
  obtain ⟨a, ha, -⟩ := commandWrite_eq_some d.packet hdisc
  rw [DeliversUnicast, hsend, hk]
  simp only [slotWrite, ha, Option.toList_some]
  constructor
  · intro hone c' b' hk' _ j hj b'' hjb
    rw [hk] at hk'
    cases hk'
    cases htagged : w.tagged d.nodeId with
    | none => simp [htagged] at hone
    | some m =>
        obtain ⟨b₁, hm⟩ := w.slot_of_tagged htagged
        rw [hk] at hm
        cases hm
        exact (nodeIdByConnId_eq_some.mp (w.nodeIdByConnId_of_tagged htagged)).2 j hj b'' hjb
  · intro hunshared
    have hfirst : nodeIdByConnId w.router.nodes c = some d.nodeId.toNat :=
      nodeIdByConnId_eq_some.mpr ⟨⟨b, hk⟩, hunshared c b hk hdisc⟩
    cases htagged : w.tagged d.nodeId with
    | none =>
        obtain ⟨l, hl, hid⟩ := hdisc.live hs
        have hnot := List.find?_eq_none.mp htagged l hl
        rw [hid, hfirst] at hnot
        simp at hnot
    | some m =>
        obtain ⟨b₁, hm⟩ := w.slot_of_tagged htagged
        rw [hk] at hm
        cases hm
        simp [ha]

/-- **A command goes to the named node exactly when no slot before its own shares
the connection id.** -/
theorem deliversUnicast_iff {w : World} (hs : w.Sound) (d : Dispatch) (hd : d.nodeId ≠ 0xFF) :
    DeliversUnicast w d ↔ w.Unshared d.nodeId.toNat := by
  have hsend : w.router.dispatch d = slotWrite w.router d.packet w.slots[d.nodeId.toNat]? := by
    rw [Router.dispatch, if_neg hd, sendToSlot_eq]
    rfl
  by_cases hslot : ∃ c b, w.slots[d.nodeId.toNat]? = some ⟨c, b, true⟩
  · obtain ⟨c, b, hk⟩ := hslot
    by_cases hdisc : w.Discovered c
    · exact deliversUnicast_discovered hs hsend hk hdisc
    · have hnone : commandWrite w.router c d.packet = none := commandWrite_eq_none hdisc
      refine iff_of_true ?_ fun c' b' hk' hdisc' => ?_
      · rw [DeliversUnicast, hsend, hk]
        simp only [slotWrite, hnone]
        cases htagged : w.tagged d.nodeId with
        | none => rfl
        | some m =>
            obtain ⟨b₁, hm⟩ := w.slot_of_tagged htagged
            rw [hk] at hm
            cases hm
            simp [hnone]
      · rw [hk] at hk'
        cases hk'
        exact absurd hdisc' hdisc
  · refine iff_of_true ?_ fun c b hk => absurd ⟨c, b, hk⟩ hslot
    have hnone : w.tagged d.nodeId = none := by
      cases htagged : w.tagged d.nodeId with
      | none => rfl
      | some m =>
          obtain ⟨b, hm⟩ := w.slot_of_tagged htagged
          exact absurd ⟨_, b, hm⟩ hslot
    rw [DeliversUnicast, hsend, hnone]
    simp only [slotWrite]
    split
    · next c b hk => exact absurd ⟨c, b, hk⟩ hslot
    · rfl

/-! ### All addressees -/

/-- The connected slots that hold an id. -/
def World.holders (w : World) (c : UInt16) : List Slot :=
  w.slots.filter fun s => s.connId = c && s.connected

/-- The part of what is sent to one slot that goes to the connection `c`. -/
theorem filter_slotWrite (w : World) (packet : List UInt8) (c : UInt16) (s : Slot) :
    (slotWrite w.router packet (some s)).filter (fun a => a.target = some c) =
      if s.connId = c && s.connected then (commandWrite w.router c packet).toList else [] := by
  obtain ⟨d, b, on⟩ := s
  cases on with
  | false => simp [slotWrite]
  | true =>
      by_cases hdisc : w.Discovered d
      · obtain ⟨a, ha, htarget⟩ := commandWrite_eq_some packet hdisc
        by_cases hdc : d = c
        · subst hdc
          simp [slotWrite, ha, htarget]
        · simp [slotWrite, ha, htarget, hdc]
      · have hnone : commandWrite w.router d packet = none := commandWrite_eq_none hdisc
        by_cases hdc : d = c
        · subst hdc
          simp [slotWrite, hnone]
        · simp [slotWrite, hnone, hdc]

theorem dispatch_broadcast (w : World) (d : Dispatch) (hd : d.nodeId = 0xFF) :
    w.router.dispatch d = w.slots.flatMap fun s => slotWrite w.router d.packet (some s) := by
  rw [Router.dispatch, if_pos hd]
  simp only [sendToSlot_eq, Table.count, ← length_slots]
  exact flatMap_range_getElem? w.slots (slotWrite w.router d.packet)

/-- A broadcast writes to a discovered connection once for every connected slot
that holds its id. -/
theorem filter_broadcast (w : World) (d : Dispatch) (hd : d.nodeId = 0xFF) (c : UInt16) :
    (w.router.dispatch d).filter (fun a => a.target = some c) =
      (w.holders c).flatMap fun _ => (commandWrite w.router c d.packet).toList := by
  rw [dispatch_broadcast w d hd, List.filter_flatMap]
  simp only [filter_slotWrite]
  exact flatMap_ite w.slots (fun s => s.connId = c && s.connected) _

/-- A connected slot that holds `c`. -/
theorem mem_holders {w : World} {c : UInt16} {s : Slot} :
    s ∈ w.holders c ↔ s ∈ w.slots ∧ s.connId = c ∧ s.connected = true := by
  simp [World.holders]

/-- The slot of a live admitted connection holds its id. -/
theorem World.Sound.holders_pos {w : World} (hs : w.Sound) {l : Link} (hl : l ∈ w.live)
    (hslot : l.slot.isSome = true) : 0 < (w.holders l.connId).length := by
  obtain ⟨k, hk⟩ := Option.isSome_iff_exists.mp hslot
  have hrow := (hs.admitted l hl k hk).1
  exact List.length_pos_of_mem (mem_holders.mpr ⟨List.mem_of_getElem? hrow, rfl, rfl⟩)

/-- A connection held by one slot is held by its own. -/
theorem World.Sound.slot_of_holders {w : World} (hs : w.Sound) {l : Link} (hl : l ∈ w.live)
    (hslot : l.slot.isSome = true) (hone : (w.holders l.connId).length = 1) {k : ℕ} {b : BdAddr}
    (hk : w.slots[k]? = some ⟨l.connId, b, true⟩) : l.slot = some k := by
  obtain ⟨k', hk'⟩ := Option.isSome_iff_exists.mp hslot
  obtain ⟨hrow, -⟩ := hs.admitted l hl k' hk'
  rw [World.holders] at hone
  -- two different holders would be written to twice
  rcases Nat.lt_trichotomy k k' with hlt | rfl | hlt
  · have := two_le_length_filter (p := fun s : Slot => s.connId = l.connId && s.connected) hlt hk
      hrow (by simp) (by simp)
    omega
  · exact hk'
  · have := two_le_length_filter (p := fun s : Slot => s.connId = l.connId && s.connected) hlt hrow
      hk (by simp) (by simp)
    omega

/-- Without echoes a discovered connection is held by one slot at most. -/
theorem World.NoEcho.length_holders {w : World} (hecho : w.NoEcho) (hs : w.Sound) {c : UInt16}
    (hdisc : w.Discovered c) : (w.holders c).length ≤ 1 := by
  refine length_filter_le_one fun i j s t hi hj hps hpt => ?_
  obtain ⟨c₁, b₁, on₁⟩ := s
  obtain ⟨c₂, b₂, on₂⟩ := t
  simp only [Bool.and_eq_true, decide_eq_true_eq] at hps hpt
  obtain ⟨rfl, rfl⟩ := hps
  obtain ⟨rfl, rfl⟩ := hpt
  obtain ⟨l, hl, hid, hslot⟩ := hecho i _ b₁ hi hdisc
  obtain ⟨m, hm, hmid, hmslot⟩ := hecho j _ b₂ hj hdisc
  have hlm := hs.link_eq hl hm (hid.trans hmid.symm)
  rw [hlm, hmslot] at hslot
  exact (Option.some.inj hslot).symm

/-- Without echoes no slot holds the id of a discovered connection that was given
none. -/
theorem World.NoEcho.holders_eq_nil {w : World} (hecho : w.NoEcho) {c : UInt16}
    (hdisc : w.Discovered c) (hnone : ¬ ∃ l ∈ w.live, l.connId = c ∧ l.slot.isSome) :
    w.holders c = [] := by
  rw [List.eq_nil_iff_forall_not_mem]
  intro s hmem
  obtain ⟨hin, rfl, hon⟩ := mem_holders.mp hmem
  obtain ⟨k, hk⟩ := List.getElem?_of_mem hin
  obtain ⟨d, b, on⟩ := s
  cases hon
  obtain ⟨l, hl, hid, hslot⟩ := hecho k d b hk hdisc
  exact hnone ⟨l, hl, hid, by rw [hslot]; rfl⟩

/-- **A broadcast reaches every connection once exactly when no connected slot
echoes the id of a discovered connection.** -/
theorem deliversBroadcast_iff {w : World} (hs : w.Sound) (d : Dispatch) (hd : d.nodeId = 0xFF) :
    DeliversBroadcast w d ↔ w.NoEcho := by
  rw [DeliversBroadcast, and_iff_right (target_dispatch w.router d)]
  simp only [filter_broadcast w d hd]
  constructor
  · intro hall k c b hk hdisc
    obtain ⟨a, ha, -⟩ := commandWrite_eq_some d.packet hdisc
    have hmem : (⟨c, b, true⟩ : Slot) ∈ w.holders c :=
      mem_holders.mpr ⟨List.mem_of_getElem? hk, rfl, rfl⟩
    have hone := congrArg List.length (hall c)
    simp only [ha, Option.toList_some] at hone
    rw [← List.map_eq_flatMap, List.length_map] at hone
    have hpos := List.length_pos_of_mem hmem
    split at hone
    · next hadmitted =>
        obtain ⟨l, hl, rfl, hslot⟩ := hadmitted
        exact ⟨l, hl, rfl, hs.slot_of_holders hl hslot hone hk⟩
    · rw [hone] at hpos
      cases hpos
  · intro hecho c
    by_cases hdisc : w.Discovered c
    · split
      · next hadmitted =>
          obtain ⟨l, hl, rfl, hslot⟩ := hadmitted
          have hone : (w.holders l.connId).length = 1 :=
            Nat.le_antisymm (hecho.length_holders hs hdisc) (hs.holders_pos hl hslot)
          obtain ⟨s, hs'⟩ := List.length_eq_one_iff.mp hone
          rw [hs', List.flatMap_cons, List.flatMap_nil, List.append_nil]
      · next hnone =>
          rw [hecho.holders_eq_nil hdisc hnone]
          rfl
    · have hnone : commandWrite w.router c d.packet = none := commandWrite_eq_none hdisc
      simp [hnone]

/-! ### Over a run -/

/-- Without stale slots nothing is disturbed. -/
theorem World.NoStale.undisturbed {w : World} (hs : w.Sound) (hn : w.NoStale) (d : Dispatch) :
    Undisturbed w d := by
  rw [Undisturbed]
  split
  · intro k c b hk _
    obtain ⟨l, hl, hid, -, hslot⟩ := hn k c b hk
    exact ⟨l, hl, hid, hslot⟩
  · intro c b hk _ j hj b' hjb
    have hunique := (hs.mirror_iff.mpr hn).unique j d.nodeId.toNat c b' b hjb hk
    omega

theorem delivers_iff {w : World} (hs : w.Sound) (d : Dispatch) :
    Delivers w d ↔ Undisturbed w d := by
  rw [Delivers, Undisturbed]
  split
  · next hd => exact deliversBroadcast_iff hs d hd
  · next hd => exact deliversUnicast_iff hs d hd

/-- **When a command is delivered once and to the named node.**  In every reachable
world and for every completed packet, the writes are the ones they should be exactly
when the packet's slots are undisturbed.  So they are in every world of a run whose
disconnects are all unshadowed. -/
theorem commands_delivered (parse : List UInt8 → Option CJson) (es : List Event) (w : World)
    (hrun : System.run (world parse) World.start es = some w) (d : Dispatch) :
    (Delivers w d ↔ Undisturbed w d) ∧
      (System.Along (world parse) (fun w e _ => Unshadowed w e) World.start es →
        Delivers w d) := by
  have hs := sound_of_reaches ⟨es, hrun⟩
  refine ⟨delivers_iff hs d, fun halong => (delivers_iff hs d).mpr ?_⟩
  have hmirror : w.Sound ∧ w.Mirror :=
    System.Along.induction (fun w => w.Sound ∧ w.Mirror)
      (fun _ _ _ h hstep hguard => ⟨h.1.step hstep, (mirror_step_iff h.1 h.2 hstep).mpr hguard⟩)
      es World.start w ⟨World.sound_start, World.mirror_start⟩ halong hrun
  exact (hs.mirror_iff.mp hmirror.2).undisturbed hs d

/-- Two peers connect, and their command characteristics are found. -/
def twoNodesRun : List Event :=
  [connectTo 0 (peer 1), .gattc (.searchCmpl 3 0 ⟨.found 7, .notFound, .notFound⟩),
    connectTo 1 (peer 2), .gattc (.searchCmpl 3 1 ⟨.found 7, .notFound, .notFound⟩)]

theorem commands_delivered_twoNodes :
    ∃ w, (world noJson).run World.start twoNodesRun = some w ∧
      w.router.dispatch ⟨1, bareHeader .ping⟩ = [.writeChar 3 1 7 (bareHeader .ping)] ∧
      Delivers w ⟨1, bareHeader .ping⟩ := by
  have hquiet : System.Along (world noJson) (fun w e _ => Unshadowed w e) World.start
      twoNodesRun :=
    ⟨fun _ h => (nomatch h), fun _ h => (nomatch h), fun _ h => (nomatch h),
      fun _ h => (nomatch h), trivial⟩
  exact ⟨_, rfl, rfl, (commands_delivered noJson twoNodesRun _ rfl ⟨1, bareHeader .ping⟩).2 hquiet⟩

/-- After `sharedIdRun` the first peer comes back under the id 0. -/
def echoRun : List Event :=
  sharedIdRun ++
    [connectTo 0 (peer 1), .gattc (.searchCmpl 3 0 ⟨.found 7, .notFound, .notFound⟩)]

/-- A command for node 1, whose peer is gone, is written to the first peer. -/
theorem echoRun_not_delivers :
    ∃ w, (world noJson).run World.start echoRun = some w ∧
      w.live = [⟨0, peer 1, some 0⟩] ∧
      w.router.dispatch ⟨1, bareHeader .ping⟩ = [.writeChar 3 0 7 (bareHeader .ping)] ∧
      ¬ Delivers w ⟨1, bareHeader .ping⟩ := by
  have hend : ((world noJson).run World.start echoRun).map (fun w => (w.live,
      w.router.dispatch ⟨1, bareHeader .ping⟩, w.tagged 1)) =
      some ([⟨0, peer 1, some 0⟩], [.writeChar 3 0 7 (bareHeader .ping)], none) := by decide
  obtain ⟨w, hrun, hw⟩ := Option.map_eq_some_iff.mp hend
  obtain ⟨hlive, hwrites, htagged⟩ : w.live = [⟨0, peer 1, some 0⟩] ∧
      w.router.dispatch ⟨1, bareHeader .ping⟩ = [.writeChar 3 0 7 (bareHeader .ping)] ∧
      w.tagged 1 = none := by simpa using hw
  refine ⟨w, hrun, hlive, hwrites, fun h => ?_⟩
  rw [Delivers, if_neg (by decide), DeliversUnicast, hwrites, htagged] at h
  cases h

end Klippylink
