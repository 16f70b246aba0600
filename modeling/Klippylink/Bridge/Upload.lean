import Klippylink.Bridge.Line
import Klippylink.Host.OtaHandler
import Klippylink.Node.Flashing
import Klippylink.Router.Delivery
import Klippylink.Router.Notifications
import Klippylink.Router.RoundTrip

/-!
# A firmware upload, from the host to the flash of a node

The host runs `push_firmware`; its frames go down the serial line to the router, the
router writes their packets to the node, the node answers with notifications, and the
router sends these up the line.  All four links are lossless queues.  Every party
takes its steps when it likes, and reads as many bytes at a time as it likes.

The links are put into terms of packets: `DownLink` says which packets are on their
way to the node, `UpLink` which statuses are on their way to the host, and each party's
step takes from one end or adds to the other.

## Main definitions

* `UploadSetup`, `Upload` — what is fixed, and the state.
* `Upload.step`, `upload` — the system.
* `RouterReady` — the router knows the node, and can write to it.
* `DownLink`, `UpLink` — what the links carry.
-/

namespace Klippylink

open Lib

/-- What is fixed during an upload: the firmware, the node's id at the router and its
connection, how the node was built, and the components that are linked against. -/
structure UploadSetup where
  firmware : List UInt8
  nodeId : UInt8
  connId : UInt16
  build : NodeBuild
  zlibCrc32 : List UInt8 → UInt32
  parse : List UInt8 → Option CJson
  loads : List UInt8 → Option PyValue

/-- The host, the serial line down, the router, the writes on their way to the node,
the node, its notifications on their way to the router, and the serial line up. -/
structure Upload where
  host : Host
  push : Push
  transport : SerialTransport
  down : List UInt8
  router : Router
  writes : List (List UInt8)
  device : NodeDevice
  notifications : List (List UInt8)
  up : List UInt8

/-- What can happen. -/
inductive UploadEvent
  /-- `push_firmware` runs to its next `await`; the timeouts do not fire. -/
  | push
  /-- The router reads so many bytes. -/
  | serial (count : ℕ)
  /-- The node gets the next write. -/
  | write (beyond : ℕ → UInt8) (out : Outcomes)
  /-- The router gets the next notification. -/
  | notify (beyond : ℕ → UInt8)
  /-- The host reads so many bytes, at time `now`. -/
  | poll (count now : ℕ)

/-- The values that calls write to a connection. -/
def writesTo (connId : UInt16) (acts : List Action) : List (List UInt8) :=
  acts.filterMap fun a =>
    match a with
    | .writeChar _ c _ value => if c = connId then some value else none
    | _ => none

namespace Upload

/-- Nothing has been sent. -/
def start (host : Host) (router : Router) (server : GattServer) (boot : Option Partition) :
    Upload :=
  ⟨host, .ready, ⟨true, []⟩, [], router, [], ⟨server, ⟨none, [], boot⟩, []⟩, [], []⟩

/-- One event. -/
def step (x : UploadSetup) (u : Upload) : UploadEvent → Option Upload
  | .push =>
      (u.push.turn u.transport u.host.ota x.nodeId.toNat x.zlibCrc32 x.firmware false).map
        fun t =>
          { u with
            host := { u.host with ota := t.handler }
            push := t.push
            down := u.down ++ t.written }
  | .serial count =>
      if 0 < count ∧ count ≤ u.down.length then
        let fed := u.router.feed (u.down.take count)
        some { u with
          down := u.down.drop count
          router := fed.1
          writes := u.writes ++ writesTo x.connId fed.2 }
      else none
  | .write beyond out =>
      match u.writes with
      | [] => none
      | value :: rest =>
          if out.Good u.device.flash then
            let written := u.device.write x.build ⟨value, beyond⟩ out
            some { u with
              writes := rest
              device := written.1
              notifications := u.notifications ++ written.2 }
          else none
  | .notify beyond =>
      match u.notifications with
      | [] => none
      | value :: rest =>
          match gattcEventHandler x.parse u.router (.notify ⟨x.connId, value, beyond⟩) with
          | .error _ => none
          | .ok (router, acts) =>
              some { u with
                notifications := rest
                router := router
                up := u.up ++ emitted acts }
  | .poll count now =>
      if 0 < count ∧ count ≤ u.up.length then
        let read := u.transport.poll (u.up.take count)
        some { u with
          up := u.up.drop count
          transport := read.1
          host := read.2.foldl (Host.onPacket x.loads now) u.host }
      else none

end Upload

/-- An upload as a system of events. -/
def upload (x : UploadSetup) : System Upload UploadEvent := fun u e => u.step x e

/-! ### The router -/

/-- The router forwards the notifications of the connection under the node id, and
the connection's command characteristic is discovered. -/
structure RouterReady (x : UploadSetup) (r : Router) : Prop where
  tag : nodeIdByConnId r.nodes x.connId = some x.nodeId.toNat
  conn : ∃ rec, findConn r.conns x.connId = some rec ∧ rec.cmdFound = true

variable {x : UploadSetup}

/-- A packet for the node is written to its connection. -/
theorem RouterReady.dispatch {r : Router} (h : RouterReady x r) (p : KlipPacket) :
    ∃ a, r.dispatch (Frame.dispatch ⟨x.nodeId, p⟩) = [a] ∧
      writesTo x.connId [a] = [p.bytes] := by
  obtain ⟨⟨bda, hslot⟩, -⟩ := nodeIdByConnId_eq_some.mp h.tag
  obtain ⟨rec, hrec, hfound⟩ := h.conn
  have hid : (Frame.dispatch ⟨x.nodeId, p⟩).nodeId ≠ 0xFF := by
    intro hff
    have hff : x.nodeId = 0xFF := hff
    have hlt := (List.getElem?_eq_some_iff.mp hslot).1
    have hfits := r.nodes.fits
    have hmax : nodeMaxCount = 8 := rfl
    rw [length_slots, hff] at hlt
    have hnat : (0xFF : UInt8).toNat = 255 := rfl
    omega
  refine ⟨.writeChar rec.gattcIf x.connId rec.cmdHandle p.bytes, ?_, ?_⟩
  · have hsend : slotWrite r (klipPacket p.command p.payload) (slots r.nodes)[x.nodeId.toNat]? =
        [.writeChar rec.gattcIf x.connId rec.cmdHandle p.bytes] := by
      simp [hslot, slotWrite, commandWrite, hrec, hfound, KlipPacket.bytes]
    rw [Router.dispatch, if_neg hid, sendToSlot_eq]
    exact hsend
  · simp [writesTo]

/-- Frames for the node become writes to its connection. -/
theorem RouterReady.writesTo_dispatches {r : Router} (h : RouterReady x r)
    (ps : List KlipPacket) :
    writesTo x.connId ((ps.map fun p => Frame.dispatch ⟨x.nodeId, p⟩).flatMap r.dispatch) =
      ps.map KlipPacket.bytes := by
  induction ps with
  | nil => rfl
  | cons p ps ih =>
      obtain ⟨a, ha, hwrite⟩ := h.dispatch p
      rw [List.map_cons, List.flatMap_cons, ha, List.map_cons, ← ih]
      simp only [writesTo, List.filterMap_append] at hwrite ⊢
      rw [hwrite]
      rfl

/-- Feeding changes only the parser. -/
theorem RouterReady.feed {r : Router} (h : RouterReady x r) (data : List UInt8) :
    RouterReady x (r.feed data).1 := ⟨h.tag, h.conn⟩

/-- A status is no packet the registry reads. -/
theorem updateNode_status (parse : List UInt8 → Option CJson) (connId : UInt16) (status : UInt8)
    (beyond : ℕ → UInt8) (node : Node) :
    updateNode parse ⟨connId, (statusPacket status).bytes, beyond⟩ node = .ok node := by
  have hcommand : Notification.byte ⟨connId, (statusPacket status).bytes, beyond⟩ 2 =
      KlipCommand.otaStatus.code := rfl
  simp only [updateNode, hcommand, KlipCommand.code_inj, reduceCtorEq, if_false]

/-- **A status is forwarded under the node id**, and the router is as ready as
before. -/
theorem RouterReady.notify {r : Router} (h : RouterReady x r) (status : UInt8)
    (beyond : ℕ → UInt8) :
    ∃ r' acts, gattcEventHandler x.parse r
        (.notify ⟨x.connId, (statusPacket status).bytes, beyond⟩) = .ok (r', acts) ∧
      emitted acts = Frame.bytes ⟨x.nodeId, statusPacket status⟩ ∧ r'.rx = r.rx ∧
      RouterReady x r' := by
  obtain ⟨nodes, hnodes⟩ : ∃ nodes, updateRegistry x.parse
      ⟨x.connId, (statusPacket status).bytes, beyond⟩ r.nodes = .ok nodes := by
    rw [updateRegistry]
    split
    · exact ⟨_, rfl⟩
    · split
      · exact ⟨_, rfl⟩
      · rw [updateNode_status]
        exact ⟨_, rfl⟩
  have hslots := slots_updateRegistry hnodes
  have htag : nodeIdByConnId nodes x.connId = some x.nodeId.toNat :=
    (nodeIdByConnId_congr hslots x.connId).trans h.tag
  refine ⟨{ r with nodes := nodes }, emitFor nodes x.connId (statusPacket status).bytes,
    notifyEvt_of_valid (valid_klipPacket rfl) hnodes, ?_, rfl, ⟨htag, h.conn⟩⟩
  · have hframes : framesFor nodes x.connId (statusPacket status) =
        [⟨x.nodeId, statusPacket status⟩] := by
      simp [framesFor, htag]
    rw [KlipPacket.bytes, emitted_emitFor, hframes, frameStream_cons, frameStream_nil,
      List.append_nil]

/-! ### The links -/

/-- The packets on their way to the node, the next one first: those written and not
received, and those on the serial line or in the parser. -/
structure DownLink (nodeId : UInt8) (down : List UInt8) (rx : Rx) (writes : List (List UInt8))
    (queue : List KlipPacket) : Prop where
  legal : ∀ p ∈ queue, p.payload.length ≤ klipMaxPayloadSize
  split : ∃ air serial part, queue = air ++ serial ∧ writes = air.map KlipPacket.bytes ∧
    rx.Fed part ∧ part ++ down = frameStream (serial.map (Frame.mk nodeId)) ∧
    (down = [] → serial = [])

/-- The statuses on their way to the host, the next one first: those on the serial
line or in the buffer, and those notified and not received. -/
structure UpLink (nodeId : UInt8) (notifications : List (List UInt8)) (up buffer : List UInt8)
    (statuses : List UInt8) : Prop where
  split : ∃ serial air, statuses = serial ++ air ∧
    notifications = air.map (fun status => (statusPacket status).bytes) ∧
    buffer ++ up = frameStream (serial.map fun status => ⟨nodeId, statusPacket status⟩) ∧
    (up = [] → serial = [])

section Links

variable {nodeId : UInt8} {down up buffer : List UInt8} {rx : Rx} {writes : List (List UInt8)}
  {notifications : List (List UInt8)} {queue : List KlipPacket} {statuses : List UInt8}

theorem DownLink.start (h : rx.Idle) : DownLink nodeId [] rx [] [] :=
  ⟨by simp, [], [], [], rfl, rfl, h.fed, rfl, fun _ => rfl⟩

/-- Frames that are sent are the last ones on the line. -/
theorem DownLink.send (h : DownLink nodeId down rx writes queue) {sent : List KlipPacket}
    (hsent : ∀ p ∈ sent, p.payload.length ≤ klipMaxPayloadSize) :
    DownLink nodeId (down ++ frameStream (sent.map (Frame.mk nodeId))) rx writes
      (queue ++ sent) := by
  obtain ⟨air, serial, part, rfl, hwrites, hfed, hbytes, hend⟩ := h.split
  refine ⟨?_, air, serial ++ sent, part, List.append_assoc _ _ _, hwrites, hfed, ?_, ?_⟩
  · intro p hp
    exact (List.mem_append.mp hp).elim (h.legal p) (hsent p)
  · rw [← List.append_assoc, hbytes, List.map_append, frameStream_append]
  · intro hnil
    obtain ⟨hdown, hframes⟩ := List.append_eq_nil_iff.mp hnil
    rw [hend hdown, List.map_eq_nil_iff.mp (frameStream_eq_nil hframes)]
    rfl

/-- **The router reads some bytes**: the packets that are complete go from the line
into the air. -/
theorem DownLink.feed (h : DownLink nodeId down rx writes queue) (count : ℕ) :
    ∃ done : List KlipPacket,
      (Transducer.run commandParserByte rx (down.take count)).2 =
        done.map (fun p => Frame.dispatch ⟨nodeId, p⟩) ∧
      DownLink nodeId (down.drop count)
        (Transducer.run commandParserByte rx (down.take count)).1
        (writes ++ done.map KlipPacket.bytes) queue := by
  obtain ⟨air, serial, part, hqueue, hwrites, hfed, hbytes, -⟩ := h.split
  have hlegal : ∀ f ∈ serial.map (Frame.mk nodeId),
      f.packet.payload.length ≤ klipMaxPayloadSize := by
    intro f hf
    obtain ⟨p, hp, rfl⟩ := List.mem_map.mp hf
    exact h.legal p (by rw [hqueue]; exact List.mem_append_right _ hp)
  have hdata : part ++ down.take count ++ down.drop count =
      frameStream (serial.map (Frame.mk nodeId)) := by
    rw [List.append_assoc, List.take_append_drop, hbytes]
  obtain ⟨done, rest, part', hsplit, hout, hfed', hrest, hend⟩ := hfed.feed hlegal hdata
  obtain ⟨done, rest, rfl, rfl, rfl⟩ := List.map_eq_append_iff.mp hsplit
  refine ⟨done, ?_, h.legal, air ++ done, rest, part', ?_, ?_, hfed', hrest, ?_⟩
  · rw [hout, List.map_map]
    rfl
  · rw [hqueue, List.append_assoc]
  · rw [hwrites, List.map_append]
  · intro hnil
    exact List.map_eq_nil_iff.mp (hend hnil)

/-- The next write is the next packet. -/
theorem DownLink.receive {value : List UInt8}
    (h : DownLink nodeId down rx (value :: writes) queue) :
    ∃ p rest, queue = p :: rest ∧ value = p.bytes ∧ DownLink nodeId down rx writes rest := by
  obtain ⟨air, serial, part, rfl, hwrites, hfed, hbytes, hend⟩ := h.split
  obtain ⟨p, air, rfl, rfl, rfl⟩ := List.map_eq_cons_iff.mp hwrites.symm
  refine ⟨p, air ++ serial, rfl, rfl, ?_, air, serial, part, rfl, rfl, hfed, hbytes, hend⟩
  intro q hq
  exact h.legal q (List.mem_cons_of_mem p hq)

/-- With nothing written and nothing on the line no packet is on its way. -/
theorem DownLink.empty (h : DownLink nodeId [] rx [] queue) : queue = [] := by
  obtain ⟨air, serial, part, rfl, hwrites, -, -, hend⟩ := h.split
  rw [hend rfl, List.append_nil]
  exact List.map_eq_nil_iff.mp hwrites.symm

theorem UpLink.start : UpLink nodeId [] [] [] [] := ⟨[], [], rfl, rfl, rfl, fun _ => rfl⟩

/-- Statuses that are notified are the last ones on their way. -/
theorem UpLink.report (h : UpLink nodeId notifications up buffer statuses)
    (later : List UInt8) :
    UpLink nodeId (notifications ++ later.map fun status => (statusPacket status).bytes) up buffer
      (statuses ++ later) := by
  obtain ⟨serial, air, rfl, hnotified, hbytes, hend⟩ := h.split
  refine ⟨serial, air ++ later, List.append_assoc _ _ _, ?_, hbytes, hend⟩
  rw [hnotified, List.map_append]

/-- **The router forwards a notification**: it goes from the air onto the line. -/
theorem UpLink.forward {value : List UInt8}
    (h : UpLink nodeId (value :: notifications) up buffer statuses) :
    ∃ status, value = (statusPacket status).bytes ∧
      UpLink nodeId notifications (up ++ Frame.bytes ⟨nodeId, statusPacket status⟩) buffer
        statuses := by
  obtain ⟨serial, air, rfl, hnotified, hbytes, -⟩ := h.split
  obtain ⟨status, air, rfl, rfl, rfl⟩ := List.map_eq_cons_iff.mp hnotified.symm
  refine ⟨status, rfl, serial ++ [status], air, by simp, rfl, ?_, fun hnil => ?_⟩
  · rw [← List.append_assoc, hbytes]
    simp
  · exact absurd (List.append_eq_nil_iff.mp hnil).2 (Frame.bytes_ne_nil _)

/-- **The host reads some bytes**: the statuses that are complete are handed out. -/
theorem UpLink.poll (h : UpLink nodeId notifications up buffer statuses) (count : ℕ) :
    ∃ done rest, statuses = done ++ rest ∧
      (SerialTransport.processBuffer (buffer ++ up.take count)).2 =
        done.map (fun status => ⟨nodeId, statusPacket status⟩) ∧
      UpLink nodeId notifications (up.drop count)
        (SerialTransport.processBuffer (buffer ++ up.take count)).1 rest := by
  obtain ⟨serial, air, rfl, hnotified, hbytes, -⟩ := h.split
  have hlegal : ∀ f ∈ serial.map (fun status => (⟨nodeId, statusPacket status⟩ : Frame)),
      f.packet.payload.length ≤ 255 := by
    intro f hf
    obtain ⟨status, -, rfl⟩ := List.mem_map.mp hf
    exact Nat.one_le_iff_ne_zero.mpr (by decide)
  have hdata : (buffer ++ up.take count) ++ up.drop count =
      frameStream (serial.map fun status => ⟨nodeId, statusPacket status⟩) := by
    rw [List.append_assoc, List.take_append_drop, hbytes]
  obtain ⟨done, rest, hsplit, hout, hrest, hend⟩ := processBuffer_frames hlegal hdata
  obtain ⟨done, rest, rfl, rfl, rfl⟩ := List.map_eq_append_iff.mp hsplit
  refine ⟨done, rest ++ air, List.append_assoc _ _ _, hout, rest, air, rfl, hnotified, hrest, ?_⟩
  intro hnil
  exact List.map_eq_nil_iff.mp (hend hnil)

/-- With nothing notified and nothing on the line no status is on its way. -/
theorem UpLink.empty (h : UpLink nodeId [] [] buffer statuses) : statuses = [] := by
  obtain ⟨serial, air, rfl, hnotified, -, hend⟩ := h.split
  rw [hend rfl, List.nil_append]
  exact List.map_eq_nil_iff.mp hnotified.symm

end Links

end Klippylink
