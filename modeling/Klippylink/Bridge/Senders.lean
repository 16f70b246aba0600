import Klippylink.Bridge.Fidelity
import Klippylink.Router.OtaHandler

/-!
# The two firmware senders

A node can be updated by the router itself, with `ota_push_to_node`, or by the host,
whose `push_firmware` sends frames that the router's parser turns into writes.  Both
write the packets `firmwarePackets`, one after another.

The host's side is followed turn by turn: between two turns the handler may change in
any way, since other tasks run.

## Main definitions

* `hostPush` — the turns of one `push_firmware`, and what they have written.
* `Sent` — what has been written, by where the coroutine stands.
* `bleWrites` — the writes that calls issue.
* `ota_senders_agree` — the two senders issue the same writes.
-/

namespace Klippylink

open Lib

variable {x : UploadSetup} {t : SerialTransport}

/-- The packets of the update. -/
def UploadSetup.packets (x : UploadSetup) : List KlipPacket :=
  firmwarePackets (x.zlibCrc32 x.firmware) x.firmware

/-! ### The host -/

/-- The turns of one call of `push_firmware`, each with the handler it finds and
whether a timeout fires, and what they have written to the port. -/
def hostPush (t : SerialTransport) (x : UploadSetup) :
    System (Push × List UInt8) (OtaHandler × Bool) := fun p e =>
  (p.1.turn t e.1 x.nodeId.toNat x.zlibCrc32 x.firmware e.2).map fun turn =>
    (turn.push, p.2 ++ turn.written)

/-- The frames of packets for the node. -/
def UploadSetup.frames (x : UploadSetup) (ps : List KlipPacket) : List UInt8 :=
  frameStream (ps.map (Frame.mk x.nodeId))

/-- What has been written to the port. -/
def Sent (x : UploadSetup) (p : Push × List UInt8) : Prop :=
  match p.1 with
  | .ready => p.2 = []
  | .awaitBegin _ => p.2 = x.frames [x.beginPacket]
  | .sending _ rest => ∃ done, blocks chunkSize x.firmware = done ++ rest ∧
      p.2 = x.frames (x.beginPacket :: done.map dataPacket)
  | .awaitEnd _ => p.2 = x.frames x.packets
  | .returned _ => True
  | .raised _ => False

theorem UploadSetup.frames_append (x : UploadSetup) (ps qs : List KlipPacket) :
    x.frames (ps ++ qs) = x.frames ps ++ x.frames qs := by
  rw [frames, List.map_append, frameStream_append]
  rfl

theorem UploadSetup.frames_singleton (x : UploadSetup) (p : KlipPacket) :
    x.frames [p] = Frame.bytes ⟨x.nodeId, p⟩ := List.append_nil _

theorem legal_beginPacket (x : UploadSetup) :
    x.beginPacket.payload.length ≤ klipMaxPayloadSize := Nat.le_of_ble_eq_true rfl

/-- Every packet of an update fits. -/
theorem legal_packets (x : UploadSetup) :
    ∀ p ∈ x.packets, p.payload.length ≤ klipMaxPayloadSize := by
  intro p hp
  rw [UploadSetup.packets, firmwarePackets, List.mem_cons, List.mem_append,
    List.mem_singleton] at hp
  rcases hp with rfl | hdata | rfl
  · exact legal_beginPacket x
  · obtain ⟨chunk, hchunk, rfl⟩ := List.mem_map.mp hdata
    exact (mem_blocks (by decide) hchunk).2
  · exact Nat.zero_le _

/-- The next turn of the loop sends the next chunk, or OTA_END. -/
theorem sent_loopTurn (ht : t.isOpen = true) (o : OtaHandler) (total sent : ℕ)
    {done rest : List (List UInt8)} (hsplit : blocks chunkSize x.firmware = done ++ rest) :
    Sent x ((Push.loopTurn t o x.nodeId.toNat total sent rest).push,
      x.frames (x.beginPacket :: done.map dataPacket) ++
        (Push.loopTurn t o x.nodeId.toNat total sent rest).written) := by
  cases rest with
  | nil =>
      have hturn : Push.loopTurn t o x.nodeId.toNat total sent [] = _ :=
        Push.send_eq ht _ _  (Nat.zero_le _) _ _
      rw [hturn, ← x.frames_singleton, ← x.frames_append]
      rw [List.append_nil] at hsplit
      rw [Sent, UploadSetup.packets, firmwarePackets]
      change x.frames _ = x.frames (x.beginPacket :: ((blocks chunkSize _).map _ ++ _))
      rw [hsplit]
      rfl
  | cons chunk rest =>
      have hchunk : chunk.length ≤ klipMaxPayloadSize :=
        (mem_blocks (by decide) (hsplit ▸ List.mem_append_right _ List.mem_cons_self)).2
      have hturn : Push.loopTurn t o x.nodeId.toNat total sent (chunk :: rest) = _ :=
        Push.send_eq ht _ _  hchunk _ _
      rw [hturn, ← x.frames_singleton, ← x.frames_append]
      refine ⟨done ++ [chunk], ?_, ?_⟩
      · rw [hsplit, List.append_assoc]
        rfl
      · rw [List.map_append, List.cons_append]
        rfl

/-- **Every turn writes the next packets of the update.** -/
theorem sent_step (ht : t.isOpen = true) (hlen : x.firmware.length < UInt32.size)
    (p : Push × List UInt8) (e : OtaHandler × Bool) (p' : Push × List UInt8) (h : Sent x p)
    (hstep : hostPush t x p e = some p') : Sent x p' := by
  obtain ⟨push, written⟩ := p
  obtain ⟨o, timeout⟩ := e
  obtain ⟨turn, hturn, rfl⟩ := Option.map_eq_some_iff.mp hstep
  cases push with
  | ready =>
      cases hturn
      have hbegun : Push.beginTurn t o x.nodeId.toNat x.zlibCrc32 x.firmware =
          ⟨(o.createFuture x.nodeId.toNat).1, .awaitBegin (o.createFuture x.nodeId.toNat).2,
            Frame.bytes ⟨x.nodeId, x.beginPacket⟩, []⟩ := by
        rw [Push.beginTurn, if_neg (Nat.not_le.mpr hlen)]
        exact Push.send_eq ht _ _ (legal_beginPacket x) _ _
      have hnil : written = [] := h
      rw [hbegun, hnil, List.nil_append]
      exact (x.frames_singleton _).symm
  | awaitBegin future =>
      have hwritten : written = x.frames [x.beginPacket] := h
      obtain ⟨status, -, rfl⟩ := Option.map_eq_some_iff.mp hturn
      simp only [Push.begunTurn]
      split
      · rw [hwritten]
        have hsplit : blocks chunkSize x.firmware = [] ++ blocks chunkSize x.firmware := rfl
        exact sent_loopTurn ht _ _ _ hsplit
      · trivial
  | sending sent rest =>
      obtain ⟨done, hsplit, hwritten⟩ := h
      have hwritten : written = x.frames (x.beginPacket :: done.map dataPacket) := hwritten
      cases hturn
      rw [hwritten]
      exact sent_loopTurn ht _ _ _ hsplit
  | awaitEnd future =>
      obtain ⟨status, -, rfl⟩ := Option.map_eq_some_iff.mp hturn
      trivial
  | returned result => cases hturn
  | raised e => exact h.elim

/-- From the loop on the coroutine gets to OTA_END by itself. -/
theorem exists_run_loopTurn (ht : t.isOpen = true) (o : OtaHandler) (rest : List (List UInt8)) :
    ∀ (sent : ℕ) (written : List UInt8), (∀ c ∈ rest, c.length ≤ klipMaxPayloadSize) →
      ∃ es future written', System.run (hostPush t x)
        ((Push.loopTurn t o x.nodeId.toNat x.firmware.length sent rest).push, written) es =
          some (.awaitEnd future, written') := by
  induction rest with
  | nil =>
      intro sent written _
      have hturn : Push.loopTurn t o x.nodeId.toNat x.firmware.length sent [] = _ :=
        Push.send_eq ht _ _ (Nat.zero_le _) _ _
      rw [hturn]
      exact ⟨[], _, _, rfl⟩
  | cons chunk rest ih =>
      intro sent written hlegal
      obtain ⟨hchunk, hrest⟩ := List.forall_mem_cons.mp hlegal
      have hturn : Push.loopTurn t o x.nodeId.toNat x.firmware.length sent (chunk :: rest) = _ :=
        Push.send_eq ht _ _ hchunk _ _
      rw [hturn]
      obtain ⟨es, future, written', hrun⟩ := ih (sent + chunk.length)
        (written ++ (Push.loopTurn t o x.nodeId.toNat x.firmware.length
          (sent + chunk.length) rest).written) hrest
      exact ⟨(o, false) :: es, future, written', hrun⟩

/-- With OTA_BEGIN accepted the coroutine gets to OTA_END. -/
theorem exists_run_awaitEnd (ht : t.isOpen = true) (hlen : x.firmware.length < UInt32.size) :
    ∃ es future written, System.run (hostPush t x) (.ready, []) es =
      some (.awaitEnd future, written) := by
  have hbegun : Push.beginTurn t OtaHandler.start x.nodeId.toNat x.zlibCrc32 x.firmware =
      ⟨(OtaHandler.start.createFuture x.nodeId.toNat).1, .awaitBegin 0,
        Frame.bytes ⟨x.nodeId, x.beginPacket⟩, []⟩ := by
    rw [Push.beginTurn, if_neg (Nat.not_le.mpr hlen)]
    exact Push.send_eq ht _ _ (legal_beginPacket x) _ _
  have hlegal : ∀ c ∈ blocks chunkSize x.firmware, c.length ≤ klipMaxPayloadSize := fun c hc =>
    (mem_blocks (by decide) hc).2
  -- the first turn, and a second one that finds the future completed
  let granted : OtaHandler := ⟨[some klipOtaInProgress], fun _ => some 0⟩
  obtain ⟨es, future, written, hrun⟩ := exists_run_loopTurn ht (granted.pop x.nodeId.toNat)
    (blocks chunkSize x.firmware) 0 (Frame.bytes ⟨x.nodeId, x.beginPacket⟩ ++
      (Push.loopTurn t (granted.pop x.nodeId.toNat) x.nodeId.toNat x.firmware.length 0
        (blocks chunkSize x.firmware)).written) hlegal
  refine ⟨(OtaHandler.start, false) :: (granted, false) :: es, future, written, ?_⟩
  rw [System.run_cons_eq_some]
  refine ⟨_, congrArg (fun turn => some (Turn.push turn, [] ++ Turn.written turn)) hbegun, ?_⟩
  rw [System.run_cons_eq_some]
  exact ⟨_, rfl, hrun⟩

/-! ### The router -/

/-- The writes that calls issue: the connection and the value of each. -/
def bleWrites (acts : List Action) : List (UInt16 × List UInt8) :=
  acts.filterMap fun a =>
    match a with
    | .writeChar _ connId _ value => some (connId, value)
    | _ => none

theorem bleWrites_append (as bs : List Action) :
    bleWrites (as ++ bs) = bleWrites as ++ bleWrites bs := List.filterMap_append

/-- A packet becomes one write of its bytes. -/
def UploadSetup.writeOf (x : UploadSetup) (p : KlipPacket) : UInt16 × List UInt8 :=
  (x.connId, p.bytes)

/-- Frames for the node are written to its connection, and nothing else is. -/
theorem RouterReady.bleWrites_dispatches {r : Router} (h : RouterReady x r)
    (ps : List KlipPacket) :
    bleWrites ((ps.map fun p => Frame.dispatch ⟨x.nodeId, p⟩).flatMap r.dispatch) =
      ps.map x.writeOf := by
  induction ps with
  | nil => rfl
  | cons p ps ih =>
      obtain ⟨a, ha, hwrite⟩ := h.dispatch p
      have hone : bleWrites [a] = [x.writeOf p] := by
        cases a with
        | writeChar gattcIf connId handle value =>
            by_cases hconn : connId = x.connId
            · simp only [writesTo, List.filterMap_cons, hconn, if_true, List.filterMap_nil,
                List.cons.injEq, and_true] at hwrite
              rw [UploadSetup.writeOf, ← hwrite, ← hconn]
              rfl
            · simp [writesTo, hconn] at hwrite
        | _ => cases hwrite
      rw [List.map_cons, List.flatMap_cons, ha, bleWrites_append, hone, ih]
      rfl

/-- **The parser turns the frames of the update into its writes**, however they are
split into calls. -/
theorem RouterReady.bleWrites_feed {r : Router} (h : RouterReady x r) (hidle : r.rx.Idle)
    {calls : List (List UInt8)} (hcalls : calls.flatten = x.frames x.packets) :
    bleWrites ((commandParserFeed r.rx calls).2.flatMap r.dispatch) =
      x.packets.map x.writeOf := by
  have hlegal : ∀ f ∈ x.packets.map (Frame.mk x.nodeId),
      f.packet.payload.length ≤ klipMaxPayloadSize := by
    intro f hf
    obtain ⟨p, hp, rfl⟩ := List.mem_map.mp hf
    exact legal_packets x p hp
  rw [(commandParserFeed_frames hidle hlegal hcalls).1, List.map_map]
  exact h.bleWrites_dispatches x.packets

/-! ### The router's sender -/

/-- The send is a write that the stack accepts: the connection has a record with its
characteristic. -/
def SendOutcome.Succeeds (out : SendOutcome) (connId : UInt16) : Prop :=
  out.ret = espOk ∧ ∃ c, findConn out.router.conns connId = some c ∧ c.cmdFound = true

section Sender

variable {connId : UInt16} {sends : ℕ → SendOutcome}

theorem SendOutcome.Succeeds.send {out : SendOutcome} (h : out.Succeeds connId)
    {value : List UInt8} (hvalue : value.length ≤ 255) :
    (out.send connId value (UInt8.ofNat value.length)).ret = espOk ∧
      bleWrites (out.send connId value (UInt8.ofNat value.length)).acts =
        [(connId, value)] := by
  obtain ⟨hret, c, hc, hfound⟩ := h
  simp [SendOutcome.send, bleCentralSendToNode, hc, hfound, hret, toNat_byte hvalue, bleWrites]

/-- A send that does not succeed returns an error; it may have issued its write. -/
theorem SendOutcome.send_fails {out : SendOutcome} (h : ¬ out.Succeeds connId)
    {value : List UInt8} (hvalue : value.length ≤ 255) :
    (out.send connId value (UInt8.ofNat value.length)).ret ≠ espOk ∧
      bleWrites (out.send connId value (UInt8.ofNat value.length)).acts <+:
        [(connId, value)] := by
  have hnotFound : espErrNotFound ≠ espOk := by decide
  simp only [SendOutcome.send, bleCentralSendToNode, toNat_byte hvalue, List.take_length]
  cases hc : findConn out.router.conns connId with
  | none => exact ⟨hnotFound, List.nil_prefix⟩
  | some c =>
      by_cases hfound : c.cmdFound = true
      · simp only [hfound, if_true]
        exact ⟨fun hret => h ⟨hret, c, hc, hfound⟩, List.prefix_rfl⟩
      · simp only [hfound]
        exact ⟨hnotFound, List.nil_prefix⟩

/-- **While sends succeed every value is written.** -/
theorem sendAll_succeeds (values : List (List UInt8)) :
    ∀ k, (∀ v ∈ values, v.length ≤ 255) →
      (∀ i < values.length, (sends (k + i)).Succeeds connId) →
      (sendAll connId sends k values).ret = espOk ∧
        bleWrites (sendAll connId sends k values).acts = values.map fun v => (connId, v) := by
  induction values with
  | nil => intro k _ _; exact ⟨rfl, rfl⟩
  | cons value values ih =>
      intro k hlegal hsends
      obtain ⟨hvalue, hlegal⟩ := List.forall_mem_cons.mp hlegal
      obtain ⟨hret, hwrite⟩ := (hsends 0 (Nat.succ_pos _)).send hvalue
      obtain ⟨hrets, hwrites⟩ := ih (k + 1) hlegal fun i hi => by
        rw [Nat.add_assoc, Nat.add_comm 1]
        exact hsends (i + 1) (Nat.succ_lt_succ hi)
      rw [Nat.add_zero] at hret hwrite
      rw [sendAll, SendReturn.andThen, if_neg (not_not.mpr hret)]
      refine ⟨hrets, ?_⟩
      rw [bleWrites_append, hwrite, hwrites]
      rfl

/-- **Where a send fails the writes stop**, and the error is returned. -/
theorem sendAll_fails (values : List (List UInt8)) :
    ∀ k, (∀ v ∈ values, v.length ≤ 255) →
      (∃ i < values.length, ¬ (sends (k + i)).Succeeds connId) →
      (sendAll connId sends k values).ret ≠ espOk ∧
        bleWrites (sendAll connId sends k values).acts <+:
          values.map fun v => (connId, v) := by
  induction values with
  | nil =>
      rintro k _ ⟨i, hi, -⟩
      exact absurd hi (Nat.not_lt_zero i)
  | cons value values ih =>
      rintro k hlegal ⟨i, hi, hfails⟩
      obtain ⟨hvalue, hlegal⟩ := List.forall_mem_cons.mp hlegal
      by_cases hfirst : (sends k).Succeeds connId
      · obtain ⟨hret, hwrite⟩ := hfirst.send hvalue
        obtain ⟨j, rfl⟩ : ∃ j, i = j + 1 := by
          cases i with
          | zero => exact absurd hfirst hfails
          | succ j => exact ⟨j, rfl⟩
        obtain ⟨hrets, hwrites⟩ := ih (k + 1) hlegal ⟨j, Nat.lt_of_succ_lt_succ hi, by
          rw [Nat.add_assoc, Nat.add_comm 1]
          exact hfails⟩
        rw [sendAll, SendReturn.andThen, if_neg (not_not.mpr hret)]
        refine ⟨hrets, ?_⟩
        rw [bleWrites_append, hwrite, List.map_cons]
        exact (List.prefix_append_right_inj [(connId, value)]).mpr hwrites
      · obtain ⟨hret, hwrite⟩ := SendOutcome.send_fails hfirst hvalue
        rw [sendAll, SendReturn.andThen, if_pos hret]
        exact ⟨hret, hwrite.trans (List.prefix_append [(connId, value)] _)⟩

end Sender

/-! ### The two senders -/

/-- **The two firmware senders are equivalent.**  The port is open, the router's parser
is idle, and the router can write to the node.  With OTA_BEGIN accepted, `push_firmware`
gets to OTA_END, and by then it has written frames from which the parser, however they
are split into calls, makes exactly the writes that `ota_push_to_node` issues for the
same firmware, when all its sends succeed.  When a send fails, what it has issued is a
prefix of them, and it returns an error. -/
theorem ota_senders_agree (x : UploadSetup) {espRomCrc32Le : UInt32 → List UInt8 → UInt32}
    (hcrc : ∀ bs, espRomCrc32Le 0 bs = x.zlibCrc32 bs) (hne : x.firmware ≠ [])
    (hlen : x.firmware.length < UInt32.size) (ht : t.isOpen = true) {router : Router}
    (hidle : router.rx.Idle) (hrouter : RouterReady x router) (buf : PacketBuf)
    (sends : ℕ → SendOutcome) :
    (∃ es future written, System.run (hostPush t x) (.ready, []) es =
        some (.awaitEnd future, written)) ∧
      ∀ es future written, System.run (hostPush t x) (.ready, []) es =
          some (.awaitEnd future, written) →
        ∀ calls : List (List UInt8), calls.flatten = written →
          let host := bleWrites ((commandParserFeed router.rx calls).2.flatMap router.dispatch)
          let pushed := otaPushToNode x.connId sends espRomCrc32Le buf x.firmware
          ((∀ k < host.length, (sends k).Succeeds x.connId) →
              bleWrites pushed.acts = host ∧ pushed.ret = espOk) ∧
            ((∃ k < host.length, ¬ (sends k).Succeeds x.connId) →
              bleWrites pushed.acts <+: host ∧ pushed.ret ≠ espOk) := by
  refine ⟨exists_run_awaitEnd ht hlen, fun es future written hrun calls hcalls => ?_⟩
  have hsent : Sent x (.awaitEnd future, written) :=
    System.run_induction (Sent x) (sent_step ht hlen) es (.ready, []) _ rfl hrun
  have hhost := hrouter.bleWrites_feed hidle (hcalls.trans hsent)
  have hpushed : otaPushToNode x.connId sends espRomCrc32Le buf x.firmware = _ :=
    otaPushToNode_eq espRomCrc32Le buf hne
  have hlegal : ∀ v ∈ x.packets.map KlipPacket.bytes, v.length ≤ 255 := by
    intro v hv
    obtain ⟨p, hp, rfl⟩ := List.mem_map.mp hv
    rw [KlipPacket.bytes, length_klipPacket]
    exact Nat.le_trans (Nat.add_le_add_left (legal_packets x p hp) 4) (by decide)
  have hmap : x.packets.map x.writeOf =
      (x.packets.map KlipPacket.bytes).map fun v => (x.connId, v) := by
    rw [List.map_map]
    rfl
  rw [hcrc] at hpushed
  change otaPushToNode _ _ _ _ _ = sendAll _ _ 0 (x.packets.map KlipPacket.bytes) at hpushed
  intro host pushed
  have hhost : host = _ := hhost.trans hmap
  have hpushed : pushed = _ := hpushed
  have hlength : host.length = (x.packets.map KlipPacket.bytes).length := by
    rw [hhost, List.length_map]
  rw [hlength, hhost, hpushed]
  constructor
  · intro hsends
    obtain ⟨hret, hwrites⟩ := sendAll_succeeds _ 0 hlegal fun i hi => by
      rw [Nat.zero_add]
      exact hsends i hi
    exact ⟨hwrites, hret⟩
  · rintro ⟨k, hk, hfails⟩
    obtain ⟨hret, hwrites⟩ := sendAll_fails _ 0 hlegal ⟨k, hk, by rwa [Nat.zero_add]⟩
    exact ⟨hwrites, hret⟩

/-- Three bytes, sent by the router to a node that takes every write. -/
theorem ota_senders_agree_threeBytes :
    (∃ es future written, System.run (hostPush ⟨true, []⟩ threeBytes) (.ready, []) es =
        some (.awaitEnd future, written)) ∧
      ∀ es future written, System.run (hostPush ⟨true, []⟩ threeBytes) (.ready, []) es =
          some (.awaitEnd future, written) →
        ∀ calls : List (List UInt8), calls.flatten = written →
          let host := bleWrites ((commandParserFeed searchedNode.router.rx calls).2.flatMap
            searchedNode.router.dispatch)
          let pushed := otaPushToNode 0 (fun _ => ⟨searchedNode.router, espOk⟩) crc32
            (Vector.replicate klipMaxPacketSize 0xA5) [1, 2, 3]
          ((∀ k < host.length, SendOutcome.Succeeds ⟨searchedNode.router, espOk⟩ 0) →
              bleWrites pushed.acts = host ∧ pushed.ret = espOk) ∧
            ((∃ k < host.length, ¬ SendOutcome.Succeeds ⟨searchedNode.router, espOk⟩ 0) →
              bleWrites pushed.acts <+: host ∧ pushed.ret ≠ espOk) :=
  ota_senders_agree threeBytes (fun _ => rfl) (by decide) (by decide) rfl ⟨rfl, rfl⟩
    ⟨by decide, ⟨0, 3, 7, 9, 10, true, true, true⟩, by decide, rfl⟩
    (Vector.replicate klipMaxPacketSize 0xA5) fun _ => ⟨searchedNode.router, espOk⟩

end Klippylink
