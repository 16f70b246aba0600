import Klippylink.Bridge.Upload
import Klippylink.Host.Turns

/-!
# A firmware upload writes the firmware

`Stage` says, for each place where `push_firmware` can stand, which packets and which
statuses are on their way and what the node has done.  A party's step leads from one
stage to the next; a step that only moves bytes along a link keeps the stage.  A rank
goes down with every step, so every run ends, and it can end only where the upload has
succeeded.

## Main definitions

* `Stage` — the stages of an upload.
* `Push.rank`, `Upload.rank` — what is left to do.
* `Flowing` — the links carry what the stage says.
* `upload_faithful` — the upload succeeds and has written the firmware.
-/

namespace Klippylink

open Lib

/-! ### Stages -/

/-- The update as it is announced, with what has been accepted. -/
def UploadSetup.session (x : UploadSetup) (accepted : List UInt8) : Session :=
  ⟨UInt32.ofNat x.firmware.length, x.zlibCrc32 x.firmware, accepted⟩

/-- OTA_BEGIN for the firmware. -/
def UploadSetup.beginPacket (x : UploadSetup) : KlipPacket :=
  Klippylink.beginPacket (UInt32.ofNat x.firmware.length) (x.zlibCrc32 x.firmware)

/-- The node before the upload. -/
structure Fresh (d : NodeDevice) : Prop where
  listening : Listening d.server
  written : d.flash.written = []
  notified : d.notified = []

/-- Where the coroutine stands, the packets on their way to the node and the statuses
on their way to the host. -/
inductive Stage (x : UploadSetup) (o : OtaHandler) (d : NodeDevice) :
    Push → List KlipPacket → List UInt8 → Prop
  | ready : Fresh d → Stage x o d .ready [] []
  | asked {future : ℕ} : Waits o x.nodeId.toNat future → Fresh d →
      Stage x o d (.awaitBegin future) [x.beginPacket] []
  | begun {future : ℕ} : Waits o x.nodeId.toNat future → Receiving d (x.session []) →
      Stage x o d (.awaitBegin future) [] [klipOtaInProgress]
  | granted {future : ℕ} : o.futures[future]? = some (some klipOtaInProgress) →
      Receiving d (x.session []) → Stage x o d (.awaitBegin future) [] []
  /-- What the node has, what is on its way and what is left make up the firmware. -/
  | sending {sent : ℕ} {accepted : List UInt8} {queue rest : List (List UInt8)} :
      Receiving d (x.session accepted) → accepted ++ queue.flatten ++ rest.flatten = x.firmware →
      (∀ c ∈ queue ++ rest, c.length ≤ klipMaxPayloadSize) →
      Stage x o d (.sending sent rest) (queue.map dataPacket) []
  | ending {future : ℕ} {accepted : List UInt8} {queue : List (List UInt8)} :
      Waits o x.nodeId.toNat future → Receiving d (x.session accepted) →
      accepted ++ queue.flatten = x.firmware → (∀ c ∈ queue, c.length ≤ klipMaxPayloadSize) →
      Stage x o d (.awaitEnd future) (queue.map dataPacket ++ [endPacket]) []
  | ended {future : ℕ} : Waits o x.nodeId.toNat future → Committed d x.firmware →
      Stage x o d (.awaitEnd future) [] [klipOtaOk]
  | confirmed {future : ℕ} : o.futures[future]? = some (some klipOtaOk) →
      Committed d x.firmware → Stage x o d (.awaitEnd future) [] []
  | done : Committed d x.firmware → Stage x o d (.returned true) [] []

/-! ### What is left to do -/

/-- The chunks left to send, and OTA_END.  A packet of `n` bytes counts its frame's
`5 + n`, 8 for its way to the node and back, and 1 for the turn. -/
def chunksRank : List (List UInt8) → ℕ
  | [] => 15
  | c :: rest => 14 + c.length + chunksRank rest

/-- What the coroutine has left to do. -/
def Push.rank (x : UploadSetup) : Push → ℕ
  | .ready => 23 + chunksRank (blocks chunkSize x.firmware)
  | .awaitBegin _ => 1 + chunksRank (blocks chunkSize x.firmware)
  | .sending _ rest => chunksRank rest
  | .awaitEnd _ => 1
  | .returned _ => 0
  | .raised _ => 0

/-- What is left to do, with `queued` packets on their way to the node: a packet may
be answered by a notification, and a notification by six bytes on the line. -/
def Upload.rank (x : UploadSetup) (u : Upload) (queued : ℕ) : ℕ :=
  u.push.rank x + u.down.length + 8 * queued + 7 * u.notifications.length + u.up.length

/-! ### The coroutine's turn -/

section Turn

variable {x : UploadSetup} {o : OtaHandler} {d : NodeDevice} {t : SerialTransport}

/-- What a turn comes to: the packets it sends join the queue, and less is left to
do. -/
structure Advances (x : UploadSetup) (d : NodeDevice) (push : Push) (queue : List KlipPacket)
    (turn : Turn) (sent : List KlipPacket) : Prop where
  legal : ∀ p ∈ sent, p.payload.length ≤ klipMaxPayloadSize
  written : turn.written = frameStream (sent.map (Frame.mk x.nodeId))
  stage : Stage x turn.handler d turn.push (queue ++ sent) []
  rank : turn.push.rank x + turn.written.length + 8 * sent.length < push.rank x

/-- **A turn of the loop over the chunks** sends the next chunk, or OTA_END after the
last. -/
theorem advances_loopTurn (ht : t.isOpen = true) {accepted : List UInt8}
    (queue : List (List UInt8)) {rest : List (List UInt8)}
    (hd : Receiving d (x.session accepted))
    (hsplit : accepted ++ queue.flatten ++ rest.flatten = x.firmware)
    (hlegal : ∀ c ∈ queue ++ rest, c.length ≤ klipMaxPayloadSize) {push : Push}
    (hrank : chunksRank rest ≤ push.rank x) (o : OtaHandler) (total sent : ℕ) :
    ∃ ps, Advances x d push (queue.map dataPacket)
      (Push.loopTurn t o x.nodeId.toNat total sent rest) ps := by
  cases rest with
  | nil =>
      have hend : endPacket.payload.length ≤ klipMaxPayloadSize := Nat.zero_le _
      rw [Push.loopTurn_nil ht]
      refine ⟨[endPacket], ?_, ?_, ?_, ?_⟩
      · simpa using hend
      · simp
      · rw [List.flatten_nil, List.append_nil] at hsplit
        rw [List.append_nil] at hlegal
        exact .ending (o.createFuture_waits _) hd hsplit hlegal
      · simp only [chunksRank] at hrank
        change 1 + (Frame.bytes ⟨x.nodeId, endPacket⟩).length + 8 * 1 < push.rank x
        have hframe : (Frame.bytes ⟨x.nodeId, endPacket⟩).length = 5 := rfl
        omega
  | cons chunk rest =>
      have hchunk : chunk.length ≤ klipMaxPayloadSize := hlegal chunk (by simp)
      rw [Push.loopTurn_cons ht o x.nodeId hchunk]
      refine ⟨[dataPacket chunk], ?_, ?_, ?_, ?_⟩
      · intro p hp
        rw [List.mem_singleton.mp hp]
        exact hchunk
      · simp
      · have hstage : Stage x o d (.sending (sent + chunk.length) rest)
            ((queue ++ [chunk]).map dataPacket) [] := by
          refine .sending hd ?_ (by simpa using hlegal)
          rw [← hsplit]
          simp
        rw [List.map_append] at hstage
        exact hstage
      · simp only [chunksRank] at hrank
        change chunksRank rest + (Frame.bytes ⟨x.nodeId, dataPacket chunk⟩).length + 8 * 1 <
          push.rank x
        rw [Frame.length_bytes]
        simp only [dataPacket]
        omega

/-- While the future is not completed the coroutine does not run. -/
theorem Waits.awaited {nodeId : ℤ} {future : ℕ} (h : Waits o nodeId future) :
    Push.awaited o future false = none := by
  rw [Push.awaited, h.unset]
  rfl

/-- **Every turn of the coroutine leads to the next stage.** -/
theorem Stage.turn {push : Push} {queue : List KlipPacket} {statuses : List UInt8} {turn : Turn}
    (h : Stage x o d push queue statuses) (ht : t.isOpen = true)
    (hlen : x.firmware.length < UInt32.size)
    (hturn : push.turn t o x.nodeId.toNat x.zlibCrc32 x.firmware false = some turn) :
    statuses = [] ∧ ∃ sent, Advances x d push queue turn sent := by
  cases h with
  | ready hd =>
      have hbegin : x.beginPacket.payload.length ≤ klipMaxPayloadSize := by
        simp only [UploadSetup.beginPacket, beginPacket, List.length_append, length_le32]
        decide
      have hframe : (Frame.bytes ⟨x.nodeId, x.beginPacket⟩).length = 13 := by
        rw [Frame.length_bytes]
        rfl
      have hbegun : Push.beginTurn t o x.nodeId.toNat x.zlibCrc32 x.firmware =
          ⟨(o.createFuture x.nodeId.toNat).1, .awaitBegin (o.createFuture x.nodeId.toNat).2,
            Frame.bytes ⟨x.nodeId, x.beginPacket⟩, []⟩ := Push.beginTurn_eq ht _ _ hlen
      simp only [Push.turn, hbegun, Option.some.injEq] at hturn
      subst hturn
      refine ⟨rfl, [x.beginPacket], ?_, ?_, ?_, ?_⟩
      · simpa using hbegin
      · simp
      · exact .asked (o.createFuture_waits _) hd
      · simp only [Push.rank, hframe, List.length_cons, List.length_nil]
        omega
  | asked hwaits => simp [Push.turn, hwaits.awaited] at hturn
  | begun hwaits => simp [Push.turn, hwaits.awaited] at hturn
  | @granted future hset hd =>
      have hawaited : Push.awaited o future false = some (some klipOtaInProgress) := by
        rw [Push.awaited, hset]
      have hchunks : (blocks chunkSize x.firmware).flatten = x.firmware :=
        flatten_blocks (by decide) x.firmware
      simp only [Push.turn, hawaited, Option.map_some, Push.begunTurn, if_true,
        Option.some.injEq] at hturn
      subst hturn
      refine ⟨rfl, advances_loopTurn ht [] hd hchunks ?_ (Nat.le_add_left _ _) _ _ _⟩
      intro c hc
      exact (mem_blocks (by decide) hc).2
  | sending hd hsplit hlegal =>
      cases hturn
      exact ⟨rfl, advances_loopTurn ht _ hd hsplit hlegal (Nat.le_refl _) _ _ _⟩
  | ending hwaits => simp [Push.turn, hwaits.awaited] at hturn
  | ended hwaits => simp [Push.turn, hwaits.awaited] at hturn
  | @confirmed future hset hd =>
      have hawaited : Push.awaited o future false = some (some klipOtaOk) := by
        rw [Push.awaited, hset]
      simp only [Push.turn, hawaited, Option.map_some, Push.endedTurn, Option.some.injEq] at hturn
      subst hturn
      exact ⟨rfl, [], by simp, by simp, by simpa using .done hd, by simp [Push.rank]⟩
  | done => cases hturn

end Turn

/-! ### The node's step -/

/-- A list of packets that begins with a chunk. -/
theorem map_dataPacket_eq_cons {queue : List (List UInt8)} {p : KlipPacket}
    {rest : List KlipPacket} (h : queue.map dataPacket = p :: rest) :
    ∃ chunk chunks, queue = chunk :: chunks ∧ p = dataPacket chunk ∧
      rest = chunks.map dataPacket := by
  obtain ⟨chunk, chunks, rfl, rfl, rfl⟩ := List.map_eq_cons_iff.mp h
  exact ⟨chunk, chunks, rfl, rfl, rfl⟩

/-- **Every packet that the node gets leads to the next stage**, with at most one
status. -/
theorem Stage.write {x : UploadSetup} {o : OtaHandler} {d : NodeDevice} {push : Push}
    {p : KlipPacket} {queue : List KlipPacket} {statuses : List UInt8}
    (h : Stage x o d push (p :: queue) statuses) (hcrc : Chainable x.build.crc)
    (hzlib : ∀ bs, x.build.crc 0 bs = x.zlibCrc32 bs) (hlen : x.firmware.length < UInt32.size)
    {out : Outcomes} (hgood : out.Good d.flash) (beyond : ℕ → UInt8) :
    ∃ d' later, d.write x.build (p.written beyond) out =
        (d', later.map fun status => (statusPacket status).bytes) ∧
      later.length ≤ 1 ∧ Stage x o d' push queue (statuses ++ later) := by
  generalize hqueue : p :: queue = packets at h
  cases h with
  | ready => cases hqueue
  | asked hwaits hd =>
      cases hqueue
      obtain ⟨d', hwrite, hd'⟩ := hd.listening.begin hd.notified hgood
        (UInt32.ofNat x.firmware.length) (x.zlibCrc32 x.firmware) beyond
      exact ⟨d', [klipOtaInProgress], hwrite, Nat.le_refl 1, .begun hwaits hd'⟩
  | begun => cases hqueue
  | granted => cases hqueue
  | sending hd hsplit hlegal =>
      obtain ⟨chunk, chunks, rfl, rfl, rfl⟩ := map_dataPacket_eq_cons hqueue.symm
      have hchunk : chunk.length ≤ 255 := Nat.le_trans (hlegal chunk (by simp)) (by decide)
      obtain ⟨d', hwrite, hd'⟩ := hd.data hgood hchunk beyond
      refine ⟨d', [], hwrite, Nat.zero_le 1, .sending hd' ?_ ?_⟩
      · rw [← hsplit]
        simp [UploadSetup.session]
      · intro c hc
        exact hlegal c (List.mem_cons_of_mem chunk hc)
  | @ending future accepted data hwaits hd hsplit hlegal =>
      cases data with
      | nil =>
          cases hqueue
          rw [List.flatten_nil, List.append_nil] at hsplit
          obtain ⟨d', hwrite, hd'⟩ := hd.finish hcrc hgood (by rw [← hsplit] at hlen; exact hlen)
            (by rw [hzlib]; simp only [UploadSetup.session, hsplit]) beyond
          refine ⟨d', [klipOtaOk], hwrite, Nat.le_refl 1, .ended hwaits ?_⟩
          rw [← hsplit]
          exact hd'
      | cons chunk chunks =>
          cases hqueue
          have hchunk : chunk.length ≤ 255 := Nat.le_trans (hlegal chunk (by simp)) (by decide)
          obtain ⟨d', hwrite, hd'⟩ := hd.data hgood hchunk beyond
          refine ⟨d', [], hwrite, Nat.zero_le 1, .ending hwaits hd' ?_ ?_⟩
          · rw [← hsplit]
            simp [UploadSetup.session]
          · intro c hc
            exact hlegal c (List.mem_cons_of_mem chunk hc)
  | ended => cases hqueue
  | confirmed => cases hqueue
  | done => cases hqueue

/-! ### Statuses at the host -/

/-- **Every status that the host gets leads to the next stage.** -/
theorem Stage.poll {x : UploadSetup} {host : Host} {d : NodeDevice} {push : Push}
    {queue : List KlipPacket} {done rest : List UInt8}
    (h : Stage x host.ota d push queue (done ++ rest)) (now : ℕ) :
    Stage x ((done.map fun status => (⟨x.nodeId, statusPacket status⟩ : Frame)).foldl
      (Host.onPacket x.loads now) host).ota d push queue rest := by
  cases done with
  | nil => exact h
  | cons status done =>
      have hcommand : (statusPacket status).command = KlipCommand.otaStatus.code := rfl
      have hota : (host.onPacket x.loads now ⟨x.nodeId, statusPacket status⟩).ota =
          host.ota.onOtaStatus x.nodeId.toNat (statusPacket status) := by
        rw [Host.onPacket, if_pos hcommand]
      generalize hall : status :: done ++ rest = statuses at h
      -- only two stages have a status on its way, and they have one
      cases h with
      | begun hwaits hd =>
          obtain ⟨rfl, hnil⟩ := List.cons.inj hall
          obtain ⟨rfl, rfl⟩ := List.append_eq_nil_iff.mp hnil
          refine .granted ?_ hd
          rw [List.map_cons, List.map_nil, List.foldl_cons, List.foldl_nil, hota]
          exact hwaits.onOtaStatus _
      | ended hwaits hd =>
          obtain ⟨rfl, hnil⟩ := List.cons.inj hall
          obtain ⟨rfl, rfl⟩ := List.append_eq_nil_iff.mp hnil
          refine .confirmed ?_ hd
          rw [List.map_cons, List.map_nil, List.foldl_cons, List.foldl_nil, hota]
          exact hwaits.onOtaStatus _
      | _ => cases hall

/-! ### Runs -/

/-- The links carry what the stage says. -/
structure Flowing (x : UploadSetup) (u : Upload) (queue : List KlipPacket)
    (statuses : List UInt8) : Prop where
  isOpen : u.transport.isOpen = true
  router : RouterReady x u.router
  down : DownLink x.nodeId u.down u.router.rx u.writes queue
  up : UpLink x.nodeId u.notifications u.up u.transport.buffer statuses
  stage : Stage x u.host.ota u.device u.push queue statuses

/-- The upload is on its way, with so much left to do. -/
def Upload.Ranked (x : UploadSetup) (u : Upload) (n : ℕ) : Prop :=
  ∃ queue statuses, Flowing x u queue statuses ∧ u.rank x queue.length = n

section Runs

variable {x : UploadSetup} {u u' : Upload} {queue : List KlipPacket} {statuses : List UInt8}

/-- The router reads from the serial line. -/
theorem Flowing.serial (h : Flowing x u queue statuses) {count : ℕ}
    (hstep : upload x u (.serial count) = some u') :
    ∃ m < u.rank x queue.length, u'.Ranked x m := by
  simp only [upload, Upload.step] at hstep
  split at hstep
  · next hcount =>
      cases hstep
      obtain ⟨done, hout, hdown⟩ := h.down.feed count
      refine ⟨_, ?_, queue, statuses, ⟨h.isOpen, h.router.feed _, ?_, h.up, h.stage⟩, rfl⟩
      · simp only [Upload.rank, List.length_drop]
        omega
      · simp only [Router.feed, hout]
        rw [h.router.writesTo_dispatches]
        exact hdown
  · cases hstep

/-- The router is notified of a status. -/
theorem Flowing.notify (h : Flowing x u queue statuses) {beyond : ℕ → UInt8}
    (hstep : upload x u (.notify beyond) = some u') :
    ∃ m < u.rank x queue.length, u'.Ranked x m := by
  simp only [upload, Upload.step] at hstep
  split at hstep
  · cases hstep
  · next value rest hnotified =>
      have hup := h.up
      rw [hnotified] at hup
      obtain ⟨status, rfl, hsent⟩ := hup.forward
      obtain ⟨r', acts, hhandler, hemitted, hrx, hrouter⟩ := h.router.notify status beyond
      rw [hhandler] at hstep
      cases hstep
      refine ⟨_, ?_, queue, statuses, ⟨h.isOpen, hrouter, ?_, ?_, h.stage⟩, rfl⟩
      · simp only [Upload.rank, hemitted, hnotified, List.length_append, List.length_cons,
          Frame.length_bytes, statusPacket, List.length_nil]
        omega
      · simp only [hrx]
        exact h.down
      · simp only [hemitted]
        exact hsent

/-- The host reads from the serial line. -/
theorem Flowing.poll (h : Flowing x u queue statuses) {count now : ℕ}
    (hstep : upload x u (.poll count now) = some u') :
    ∃ m < u.rank x queue.length, u'.Ranked x m := by
  simp only [upload, Upload.step] at hstep
  split at hstep
  · next hcount =>
      cases hstep
      obtain ⟨done, rest, rfl, hout, hup⟩ := h.up.poll count
      have hread : u.up.take count ≠ [] := by
        intro hnil
        have := congrArg List.length hnil
        rw [List.length_take, List.length_nil] at this
        omega
      have hpoll : u.transport.poll (u.up.take count) =
          ({ u.transport with buffer := (SerialTransport.processBuffer
            (u.transport.buffer ++ u.up.take count)).1 },
            done.map fun status => ⟨x.nodeId, statusPacket status⟩) := by
        rw [SerialTransport.poll, if_pos ⟨h.isOpen, hread⟩, ← hout]
      refine ⟨_, ?_, queue, rest, ⟨?_, h.router, h.down, ?_, ?_⟩, rfl⟩
      · simp only [Upload.rank, List.length_drop]
        omega
      · simp only [hpoll]
        exact h.isOpen
      · simp only [hpoll]
        exact hup
      · simp only [hpoll]
        exact h.stage.poll now
  · cases hstep

variable (hcrc : Chainable x.build.crc) (hzlib : ∀ bs, x.build.crc 0 bs = x.zlibCrc32 bs)
  (hlen : x.firmware.length < UInt32.size)

include hlen in
/-- `push_firmware` runs to its next suspension. -/
theorem Flowing.push (h : Flowing x u queue statuses) (hstep : upload x u .push = some u') :
    ∃ m < u.rank x queue.length, u'.Ranked x m := by
  obtain ⟨turn, hturn, rfl⟩ := Option.map_eq_some_iff.mp hstep
  obtain ⟨rfl, sent, hadv⟩ := h.stage.turn h.isOpen hlen hturn
  refine ⟨_, ?_, queue ++ sent, [], ⟨h.isOpen, h.router, ?_, h.up, hadv.stage⟩, rfl⟩
  · have hrank := hadv.rank
    simp only [Upload.rank, List.length_append]
    omega
  · simp only
    rw [hadv.written]
    exact h.down.send hadv.legal

include hcrc hzlib hlen

/-- The node receives a write. -/
theorem Flowing.write (h : Flowing x u queue statuses) {beyond : ℕ → UInt8} {out : Outcomes}
    (hstep : upload x u (.write beyond out) = some u') :
    ∃ m < u.rank x queue.length, u'.Ranked x m := by
  simp only [upload, Upload.step] at hstep
  split at hstep
  · cases hstep
  · next value rest hwrites =>
      split at hstep
      · next hgood =>
          cases hstep
          have hdown := h.down
          rw [hwrites] at hdown
          obtain ⟨p, queue, rfl, rfl, hrest⟩ := hdown.receive
          obtain ⟨d', later, hwrite, hlater, hstage⟩ :=
            h.stage.write hcrc hzlib hlen hgood beyond
          have hwrite' : u.device.write x.build ⟨p.bytes, beyond⟩ out =
              (d', later.map fun status => (statusPacket status).bytes) := hwrite
          refine ⟨_, ?_, queue, statuses ++ later, ⟨h.isOpen, h.router, hrest, ?_, ?_⟩, rfl⟩
          · simp only [Upload.rank, hwrite', List.length_append, List.length_map,
              List.length_cons]
            omega
          · simp only [hwrite']
            exact h.up.report later
          · simp only [hwrite']
            exact hstage
      · cases hstep

/-- **Every step goes on with the upload and leaves less to do.** -/
theorem ranked_step (u : Upload) (e : UploadEvent) (u' : Upload) (n : ℕ) (h : u.Ranked x n)
    (hstep : upload x u e = some u') : ∃ m < n, u'.Ranked x m := by
  obtain ⟨queue, statuses, hflow, rfl⟩ := h
  cases e with
  | push => exact hflow.push hlen hstep
  | serial count => exact hflow.serial hstep
  | write beyond out => exact hflow.write hcrc hzlib hlen hstep
  | notify beyond => exact hflow.notify hstep
  | poll count now => exact hflow.poll hstep

end Runs

/-! ### Where a run can end -/

/-- Every call succeeds, and the partition reads back as the flash holds it. -/
def Outcomes.ok (flash : Flash) : Outcomes :=
  ⟨fun _ => false, ⟨some 1, espOk, 0⟩, espOk, .ok flash.written⟩

theorem Outcomes.good_ok (flash : Flash) : (Outcomes.ok flash).Good flash where
  part := rfl
  begin := rfl
  write := rfl
  malloc := rfl
  finish := rfl
  setBoot := rfl
  read := by
    apply List.ext_getElem
    · simp
    · intro i hi hi'
      rw [List.getElem_map, List.getElem_range]
      exact List.getD_eq_getElem _ _ hi'

section Stuck

variable {x : UploadSetup} {u : Upload} {queue : List KlipPacket} {statuses : List UInt8}

/-- Where nothing can happen the links are empty. -/
theorem Flowing.empty (h : Flowing x u queue statuses) (hstuck : ∀ e, upload x u e = none) :
    queue = [] ∧ statuses = [] := by
  have hdown : u.down = [] := by
    by_contra hne
    have hpos := List.length_pos_iff.mpr hne
    have hstep := hstuck (.serial 1)
    simp only [upload, Upload.step] at hstep
    rw [if_pos ⟨Nat.one_pos, hpos⟩] at hstep
    cases hstep
  have hup : u.up = [] := by
    by_contra hne
    have hpos := List.length_pos_iff.mpr hne
    have hstep := hstuck (.poll 1 0)
    simp only [upload, Upload.step] at hstep
    rw [if_pos ⟨Nat.one_pos, hpos⟩] at hstep
    cases hstep
  have hwrites : u.writes = [] := by
    cases hwrites : u.writes with
    | nil => rfl
    | cons value rest =>
        have hstep := hstuck (.write (fun _ => 0) (.ok u.device.flash))
        simp only [upload, Upload.step, hwrites] at hstep
        rw [if_pos (Outcomes.good_ok _)] at hstep
        cases hstep
  have hnotified : u.notifications = [] := by
    cases hnotified : u.notifications with
    | nil => rfl
    | cons value rest =>
        have hlink := h.up
        rw [hnotified] at hlink
        obtain ⟨status, rfl, -⟩ := hlink.forward
        obtain ⟨r', acts, hhandler, -⟩ := h.router.notify status fun _ => 0
        have hstep := hstuck (.notify fun _ => 0)
        simp only [upload, Upload.step, hnotified, hhandler] at hstep
        cases hstep
  have hqueue := h.down
  have hstatuses := h.up
  rw [hdown, hwrites] at hqueue
  rw [hup, hnotified] at hstatuses
  exact ⟨hqueue.empty, hstatuses.empty⟩

/-- **A run ends only where the upload has succeeded.** -/
theorem Flowing.stuck (h : Flowing x u queue statuses) (hstuck : ∀ e, upload x u e = none) :
    u.push = .returned true ∧ Committed u.device x.firmware := by
  obtain ⟨rfl, rfl⟩ := h.empty hstuck
  have hturn : u.push.turn u.transport u.host.ota x.nodeId.toNat x.zlibCrc32 x.firmware false =
      none := Option.map_eq_none_iff.mp (hstuck .push)
  have hstage := h.stage
  generalize u.push = push at hturn hstage
  generalize hqueue : ([] : List KlipPacket) = queue at hstage
  cases hstage with
  | ready => cases hturn
  | asked => cases hqueue
  | granted hset => simp [Push.turn, Push.awaited, hset] at hturn
  | sending => cases hturn
  | ending =>
      exact absurd hqueue.symm (List.append_ne_nil_of_right_ne_nil _ (List.cons_ne_nil _ _))
  | confirmed hset => simp [Push.turn, Push.awaited, hset] at hturn
  | done hd => exact ⟨rfl, hd⟩

/-- At every stage the flash holds the beginning of the firmware. -/
theorem Stage.written_prefix {o : OtaHandler} {d : NodeDevice} {push : Push}
    (h : Stage x o d push queue statuses) : d.flash.written <+: x.firmware := by
  cases h with
  | ready hd => rw [hd.written]; exact List.nil_prefix
  | asked _ hd => rw [hd.written]; exact List.nil_prefix
  | begun _ hd => rw [hd.written]; exact List.nil_prefix
  | granted _ hd => rw [hd.written]; exact List.nil_prefix
  | sending hd hsplit =>
      rw [hd.written, ← hsplit, List.append_assoc]
      exact List.prefix_append _ _
  | ending _ hd hsplit =>
      rw [hd.written, ← hsplit]
      exact List.prefix_append _ _
  | ended _ hd => exact hd.written ▸ List.prefix_rfl
  | confirmed _ hd => exact hd.written ▸ List.prefix_rfl
  | done hd => exact hd.written ▸ List.prefix_rfl

/-- Where the coroutine has ended it has returned success. -/
theorem Stage.returned {o : OtaHandler} {d : NodeDevice} {push : Push}
    (h : Stage x o d push queue statuses) :
    (∀ result, push = .returned result → result = true ∧ Committed d x.firmware) ∧
      ∀ e, push ≠ .raised e := by
  cases h with
  | done hd =>
      refine ⟨fun result hresult => ?_, fun e => Push.noConfusion⟩
      cases hresult
      exact ⟨rfl, hd⟩
  | _ => exact ⟨fun result => Push.noConfusion, fun e => Push.noConfusion⟩

end Stuck

/-! ### The upload -/

/-- **A firmware upload writes the firmware.**  The router forwards the connection's
notifications under the node id and can write to it, its parser is idle, and the node
is connected with notifications enabled.  Then no run goes on for ever; in every state
of a run the flash holds the beginning of the firmware and the coroutine has neither
raised nor returned failure; and where a run can go no further, `push_firmware` has
returned success, the node has written exactly the firmware, selected it for booting
and reported `KLIP_OTA_OK`. -/
theorem upload_faithful (x : UploadSetup) (hcrc : Chainable x.build.crc)
    (hzlib : ∀ bs, x.build.crc 0 bs = x.zlibCrc32 bs) (hlen : x.firmware.length < UInt32.size)
    (host : Host) (router : Router) (server : GattServer) (boot : Option Partition)
    (hidle : router.rx.Idle) (hrouter : RouterReady x router) (hserver : Listening server) :
    ∃ bound, ∀ es u, System.run (upload x) (Upload.start host router server boot) es = some u →
      es.length ≤ bound ∧ u.device.flash.written <+: x.firmware ∧
        (∀ result, u.push = .returned result → result = true ∧ Committed u.device x.firmware) ∧
        (∀ e, u.push ≠ .raised e) ∧
        ((∀ e, upload x u e = none) →
          u.push = .returned true ∧ Committed u.device x.firmware) := by
  have hstart : (Upload.start host router server boot).Ranked x
      ((Upload.start host router server boot).rank x 0) :=
    ⟨[], [], ⟨rfl, hrouter, .start hidle, .start, .ready ⟨hserver, rfl, rfl⟩⟩, rfl⟩
  refine ⟨(Upload.start host router server boot).rank x 0, fun es u hrun => ?_⟩
  obtain ⟨left, hbound, queue, statuses, hflow, -⟩ :=
    System.run_ranked (Upload.Ranked x) (ranked_step hcrc hzlib hlen) es _ u _ hstart hrun
  obtain ⟨hreturned, hraised⟩ := hflow.stage.returned
  exact ⟨by omega, hflow.stage.written_prefix, hreturned, hraised, hflow.stuck⟩

/-- A router with one node, whose service has been searched. -/
def searchedNode : World :=
  ((world noJson).run World.start [connectTo 0 (peer 1),
    .gattc (.searchCmpl 3 0 ⟨.found 7, .found 9, .found 10⟩)]).getD World.start

/-- A node that a central has connected to, and the router's write to the descriptor. -/
def enabledServer : GattServer :=
  (GattServer.start.connectEvt 0).cccdWriteEvt ⟨le16 0x0001, fun _ => 0⟩

/-- Three bytes of firmware for the node. -/
def threeBytes : UploadSetup :=
  ⟨[1, 2, 3], 0, 0, ⟨false, none, crc32⟩, crc32 0, noJson, fun _ => none⟩

theorem upload_faithful_threeBytes :
    ∃ bound, ∀ es u, System.run (upload threeBytes)
        (Upload.start ⟨DeviceManager.start, OtaHandler.start⟩ searchedNode.router enabledServer
          none) es = some u →
      es.length ≤ bound ∧ u.device.flash.written <+: [1, 2, 3] ∧
        (∀ result, u.push = .returned result → result = true ∧ Committed u.device [1, 2, 3]) ∧
        (∀ e, u.push ≠ .raised e) ∧
        ((∀ e, upload threeBytes u e = none) →
          u.push = .returned true ∧ Committed u.device [1, 2, 3]) :=
  upload_faithful threeBytes chainable_crc32 (fun _ => rfl) (by decide) _ _ _ _ ⟨rfl, rfl⟩
    ⟨by decide, ⟨0, 3, 7, 9, 10, true, true, true⟩, by decide, rfl⟩ ⟨by decide, rfl⟩

end Klippylink
