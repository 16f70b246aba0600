import Klippylink.Host.Api
import Klippylink.Host.Turns
import Klippylink.Lib.Channel
import Klippylink.Lib.System

/-!
# The response to a firmware upload

`upload_firmware` starts a task that runs `push_firmware`, and answers with a stream of events
that a generator takes from a queue.  The task puts the progress into the queue, and the
sentinel after `push_firmware` has returned.  When `push_firmware` raises, the task ends before
that, and the generator waits for ever; when it returns, the generator says `done` whatever the
result is.

The percentage goes through a `float`; it is a parameter, from the bytes sent and the total.

## Main definitions

* `FirmwareUpload` — the task, the queue and the generator.
* `ApiHost.uploadFirmware` — `upload_firmware`, up to its response.
* `FirmwareUpload.step` — what can happen afterwards.
* `FirmwareUpload.EndsWith` — the generator ends, with this event.
* `FirmwareUpload.Tells` — the stream tells how the push has finished.

## Main results

* `FirmwareUpload.not_tells` — no stream does.
-/

namespace Klippylink

open Lib

/-- What `upload_firmware` raises. -/
inductive UploadError
  | api (e : ApiError)
  /-- `HTTPException(400, "Empty firmware file")`. -/
  | emptyFirmware

/-- The node and the firmware, the host's uploader, where `push_firmware` stands, and
`progress_queue` with the generator that reads it. -/
structure FirmwareUpload where
  nodeId : UInt8
  data : List UInt8
  handler : OtaHandler
  push : Push
  progress : Channel (ℕ × ℕ)

/-- `upload_firmware`, up to its response. -/
def ApiHost.uploadFirmware (h : ApiHost) (o : OtaHandler) (name : String) (data : List UInt8) :
    Except UploadError FirmwareUpload :=
  match h.getNode name with
  | .error e => .error (.api e)
  | .ok node =>
      if data = [] then .error .emptyFirmware
      else .ok ⟨node.nodeId, data, o, .ready, .empty⟩

/-- What can happen after the response has begun. -/
inductive UploadStep
  /-- `push_firmware` runs to its next `await`. -/
  | push (port : SerialTransport) (timeout : Bool)
  /-- Another call of it does. -/
  | other (port : SerialTransport) (timeout : Bool) (nodeId : ℤ) (firmware : List UInt8)
      (call : Push)
  /-- `on_ota_status`. -/
  | status (nodeId : ℤ) (pkt : KlipPacket)
  /-- The generator goes on. -/
  | next

namespace FirmwareUpload

/-- `ota_task`, after a turn of `push_firmware`: the calls of `progress_cb`, and the sentinel
when it has returned. -/
def after (u : FirmwareUpload) (r : Turn) : FirmwareUpload :=
  let progress := u.progress.put r.progress
  { u with
    handler := r.handler
    push := r.push
    progress :=
      match r.push with
      | .returned _ => progress.close
      | _ => progress }

/-- One step. -/
def step (zlibCrc32 : List UInt8 → UInt32) : System FirmwareUpload UploadStep := fun u e =>
  match e with
  | .push port timeout =>
      (u.push.turn port u.handler u.nodeId.toNat zlibCrc32 u.data timeout).map u.after
  | .other port timeout nodeId firmware call =>
      (call.turn port u.handler nodeId zlibCrc32 firmware timeout).map fun r =>
        { u with handler := r.handler }
  | .status nodeId pkt => some { u with handler := u.handler.onOtaStatus nodeId pkt }
  | .next => u.progress.take.map fun progress => { u with progress := progress }

/-- The last event. -/
def doneEvent : String := "data: done\n\n"

/-- The event for an item of the queue. -/
def progressEvent (percent : ℕ → ℕ → ℕ) (item : ℕ × ℕ) : String :=
  "data: " ++ toString (percent item.1 item.2) ++ "%  " ++ toString item.1 ++ "/" ++
    toString item.2 ++ "\n\n"

/-- What `event_stream` has yielded. -/
def events (percent : ℕ → ℕ → ℕ) (c : Channel (ℕ × ℕ)) : List String :=
  c.taken.map (progressEvent percent) ++ if c.ended then [doneEvent] else []

/-- `push_firmware` is over. -/
def Finished (u : FirmwareUpload) : Prop :=
  (∃ result, u.push = .returned result) ∨ ∃ e, u.push = .raised e

/-- Reading on, the generator ends, and this was its last event. -/
def EndsWith (percent : ℕ → ℕ → ℕ) (u : FirmwareUpload) (event : String) : Prop :=
  ∃ c, u.progress.Drains c ∧ (events percent c).getLast? = some event

/-- The stream of an upload that began at `u` and whose push is over at `v` ends, and with
another event than when the same push had come out the other way. -/
def Tells (percent : ℕ → ℕ → ℕ) (zlibCrc32 : List UInt8 → UInt32) (u v : FirmwareUpload) : Prop :=
  ∃ event, v.EndsWith percent event ∧
    ∀ w, System.Reaches (step zlibCrc32) u w → w.Finished →
      (w.push = .returned true ↔ v.push ≠ .returned true) → ¬ w.EndsWith percent event

/-! ## The sentinel -/

section Runs

variable {percent : ℕ → ℕ → ℕ} {zlibCrc32 : List UInt8 → UInt32} {u v : FirmwareUpload}

/-- The sentinel was put exactly when `push_firmware` has returned. -/
def Synced (u : FirmwareUpload) : Prop :=
  (∃ result, u.push = .returned result) ↔ ¬ u.progress.Open

/-- A turn puts the sentinel exactly when it returns. -/
theorem synced_after (h : u.progress.Open) (r : Turn) : (u.after r).Synced := by
  have hput : (u.progress.put r.progress).Open := (Channel.open_put r.progress).mpr h
  cases hpush : r.push with
  | returned result => simp [Synced, after, hpush, Channel.not_open_close]
  | _ => simp [Synced, after, hpush, hput]

/-- What a step does: it is a turn of the push, or leaves the push and the sentinel alone. -/
theorem step_cases {e : UploadStep} (hstep : step zlibCrc32 u e = some v) :
    (∃ port timeout r, u.push.turn port u.handler u.nodeId.toNat zlibCrc32 u.data timeout =
      some r ∧ v = u.after r) ∨
      (v.push = u.push ∧ v.data = u.data ∧ (v.progress.Open ↔ u.progress.Open)) := by
  cases e with
  | push port timeout =>
      obtain ⟨r, hturn, rfl⟩ := Option.map_eq_some_iff.mp hstep
      exact Or.inl ⟨port, timeout, r, hturn, rfl⟩
  | other port timeout nodeId firmware call =>
      obtain ⟨r, _, rfl⟩ := Option.map_eq_some_iff.mp hstep
      exact Or.inr ⟨rfl, rfl, Iff.rfl⟩
  | status nodeId pkt =>
      cases hstep
      exact Or.inr ⟨rfl, rfl, Iff.rfl⟩
  | next =>
      obtain ⟨progress, htake, rfl⟩ := Option.map_eq_some_iff.mp hstep
      exact Or.inr ⟨rfl, rfl, Channel.open_take htake⟩

theorem synced_step {e : UploadStep} (h : u.Synced) (hstep : step zlibCrc32 u e = some v) :
    v.Synced := by
  rcases step_cases hstep with ⟨port, timeout, r, hturn, rfl⟩ | ⟨hpush, -, hopen⟩
  · apply synced_after
    by_contra hclosed
    obtain ⟨result, hpush⟩ := h.mpr hclosed
    rw [hpush] at hturn
    cases hturn
  · rw [Synced, hpush, hopen]
    exact h

theorem synced_uploadFirmware {h : ApiHost} {o : OtaHandler} {name : String} {data : List UInt8}
    (hstart : h.uploadFirmware o name data = .ok u) :
    u.Synced ∧ u.push = .ready := by
  rw [ApiHost.uploadFirmware] at hstart
  split at hstart
  · cases hstart
  · split at hstart
    · cases hstart
    · cases hstart
      refine ⟨?_, rfl⟩
      simp [Synced, Channel.open_empty]

/-- What the generator says last, when it ends, is always the same. -/
theorem endsWith_iff {event : String} :
    u.EndsWith percent event ↔ ¬ u.progress.Open ∧ event = doneEvent := by
  have hlast : ∀ c : Channel (ℕ × ℕ), c.ended = true →
      (events percent c).getLast? = some doneEvent := by
    intro c hc
    simp [events, hc]
  constructor
  · rintro ⟨c, hdrains, hevent⟩
    rw [hlast c hdrains.end_ended] at hevent
    cases hevent
    exact ⟨Channel.exists_drains_iff.mp ⟨c, hdrains⟩, rfl⟩
  · rintro ⟨hopen, rfl⟩
    obtain ⟨c, hdrains⟩ := Channel.exists_drains_iff.mpr hopen
    exact ⟨c, hdrains, hlast c hdrains.end_ended⟩

/-! ## Pushes that raise -/

/-- A push that has raised stays so, and no sentinel comes. -/
theorem stuck_step {err : SendError} {e : UploadStep}
    (h : u.push = .raised err ∧ u.progress.Open) (hstep : step zlibCrc32 u e = some v) :
    v.push = .raised err ∧ v.progress.Open := by
  rcases step_cases hstep with ⟨port, timeout, r, hturn, rfl⟩ | ⟨hpush, -, hopen⟩
  · rw [h.1] at hturn
    cases hturn
  · rw [hpush, hopen]
    exact h

/-- A firmware that is too long, whose push is before its first turn or has raised. -/
structure TooLong (u : FirmwareUpload) : Prop where
  length : UInt32.size ≤ u.data.length
  push : u.push = .ready ∨ ∃ e, u.push = .raised e

theorem tooLong_step {e : UploadStep} (h : u.TooLong) (hstep : step zlibCrc32 u e = some v) :
    v.TooLong := by
  rcases step_cases hstep with ⟨port, timeout, r, hturn, rfl⟩ | ⟨hpush, hdata, -⟩
  · rcases h.push with hready | ⟨err, hraised⟩
    · rw [hready, Push.turn, Push.beginTurn, if_pos h.length] at hturn
      cases hturn
      exact ⟨h.length, Or.inr ⟨_, rfl⟩⟩
    · rw [hraised] at hturn
      cases hturn
  · refine ⟨?_, ?_⟩
    · rw [hdata]
      exact h.length
    · rw [hpush]
      exact h.push

/-! ## Pushes that return -/

/-- An open port. -/
def openPort : SerialTransport := ⟨true, []⟩

/-- OTA_BEGIN is sent, and its answer awaited. -/
theorem step_begin (hlen : u.data.length < UInt32.size) (hready : u.push = .ready)
    (zlibCrc32 : List UInt8 → UInt32) :
    ∃ w future, step zlibCrc32 u (.push openPort false) = some w ∧ w.push = .awaitBegin future ∧
      Waits w.handler w.nodeId.toNat future := by
  have hstep : step zlibCrc32 u (.push openPort false) =
      some (u.after (Push.beginTurn openPort u.handler u.nodeId.toNat zlibCrc32 u.data)) := by
    rw [step, hready]
    rfl
  rw [Push.beginTurn_eq rfl u.handler u.nodeId hlen] at hstep
  exact ⟨_, _, hstep, rfl, u.handler.createFuture_waits u.nodeId.toNat⟩

/-- The node's answer has come. -/
def answered (u : FirmwareUpload) (status : UInt8) : FirmwareUpload :=
  { u with handler := u.handler.onOtaStatus u.nodeId.toNat (statusPacket status) }

theorem step_answer (u : FirmwareUpload) (status : UInt8) :
    step zlibCrc32 u (.status u.nodeId.toNat (statusPacket status)) = some (u.answered status) :=
  rfl

/-- The answer is what was awaited. -/
theorem awaited_answered {future : ℕ} (h : Waits u.handler u.nodeId.toNat future)
    (status : UInt8) (timeout : Bool) :
    Push.awaited (u.answered status).handler future timeout = some (some status) := by
  rw [Push.awaited, answered, h.onOtaStatus]

/-- Every push of a firmware that is not too long can return `False`. -/
theorem reaches_false (hlen : u.data.length < UInt32.size) (hready : u.push = .ready) :
    ∃ w, System.Reaches (step zlibCrc32) u w ∧ w.push = .returned false := by
  obtain ⟨w, future, hbegin, hpush, hwaits⟩ := step_begin hlen hready zlibCrc32
  have htimeout : step zlibCrc32 w (.push openPort true) =
      some (w.after ⟨w.handler.pop w.nodeId.toNat, .returned false, [], []⟩) := by
    rw [step, hpush, Push.turn, Push.awaited, hwaits.unset]
    rfl
  exact ⟨_, .head _ hbegin (.head _ htimeout (.refl _)), rfl⟩

/-- The chunks are sent one after another, and then OTA_END. -/
theorem reaches_awaitEnd (zlibCrc32 : List UInt8 → UInt32) {chunks : List (List UInt8)}
    (hchunks : ∀ chunk ∈ chunks, chunk.length ≤ klipMaxPayloadSize) :
    ∀ (u : FirmwareUpload) (o : OtaHandler) (sent : ℕ),
      ∃ w future, System.Reaches (step zlibCrc32)
        (u.after (Push.loopTurn openPort o u.nodeId.toNat u.data.length sent chunks)) w ∧
        w.push = .awaitEnd future ∧ Waits w.handler w.nodeId.toNat future := by
  induction chunks with
  | nil =>
      intro u o sent
      rw [Push.loopTurn_nil rfl]
      exact ⟨_, _, .refl _, rfl, o.createFuture_waits u.nodeId.toNat⟩
  | cons chunk chunks ih =>
      intro u o sent
      obtain ⟨hchunk, hchunks⟩ := List.forall_mem_cons.mp hchunks
      rw [Push.loopTurn_cons rfl o u.nodeId hchunk]
      -- the state after the chunk has the rest to send
      obtain ⟨w, future, hw, hpush, hwaits⟩ := ih hchunks
        (u.after ⟨o, .sending (sent + chunk.length) chunks,
          Frame.bytes ⟨u.nodeId, dataPacket chunk⟩, [(sent + chunk.length, u.data.length)]⟩) o
        (sent + chunk.length)
      exact ⟨w, future, .head (.push openPort false) rfl hw, hpush, hwaits⟩

/-- Every push of a firmware that is not too long can return `True`. -/
theorem reaches_true (hlen : u.data.length < UInt32.size) (hready : u.push = .ready) :
    ∃ w, System.Reaches (step zlibCrc32) u w ∧ w.push = .returned true := by
  obtain ⟨w, future, hbegin, hpush, hwaits⟩ := step_begin hlen hready zlibCrc32
  have hpush : (w.answered klipOtaInProgress).push = .awaitBegin future := hpush
  have hbegun : step zlibCrc32 (w.answered klipOtaInProgress) (.push openPort false) =
      some ((w.answered klipOtaInProgress).after
        (Push.loopTurn openPort ((w.answered klipOtaInProgress).handler.pop w.nodeId.toNat)
          w.nodeId.toNat w.data.length 0 (blocks chunkSize w.data))) := by
    rw [step, hpush, Push.turn, awaited_answered hwaits]
    rfl
  have hblocks : ∀ chunk ∈ blocks chunkSize w.data, chunk.length ≤ klipMaxPayloadSize :=
    fun chunk hchunk => (mem_blocks (by decide) hchunk).2
  obtain ⟨x, future', hx, hpush', hwaits'⟩ := reaches_awaitEnd zlibCrc32 hblocks
    (w.answered klipOtaInProgress) ((w.answered klipOtaInProgress).handler.pop w.nodeId.toNat) 0
  have hpush' : (x.answered klipOtaOk).push = .awaitEnd future' := hpush'
  have hended : step zlibCrc32 (x.answered klipOtaOk) (.push openPort false) =
      some ((x.answered klipOtaOk).after
        (Push.endedTurn (x.answered klipOtaOk).handler x.nodeId.toNat (some klipOtaOk))) := by
    rw [step, hpush', Push.turn, awaited_answered hwaits']
    rfl
  have hfinish := System.Reaches.head _ (step_answer x klipOtaOk) (.head _ hended (.refl _))
  refine ⟨_, .head _ hbegin (.head _ (step_answer w klipOtaInProgress)
    (.head _ hbegun (hx.trans hfinish))), ?_⟩
  simp [after, Push.endedTurn]

/-- The push can come out the other way, unless it raises. -/
theorem exists_otherwise (hready : u.push = .ready) {result : Bool}
    (hreach : System.Reaches (step zlibCrc32) u v) (hpush : v.push = .returned result) :
    ∃ w result', System.Reaches (step zlibCrc32) u w ∧ w.push = .returned result' ∧
      (w.push = .returned true ↔ v.push ≠ .returned true) := by
  have hlen : u.data.length < UInt32.size := by
    by_contra hlong
    have htooLong : v.TooLong := hreach.induction TooLong (fun _ _ _ => tooLong_step)
      ⟨Nat.not_lt.mp hlong, Or.inl hready⟩
    rcases htooLong.push with h | ⟨e, h⟩
    · rw [hpush] at h
      cases h
    · rw [hpush] at h
      cases h
  cases result with
  | true =>
      obtain ⟨w, hw, hfalse⟩ := reaches_false hlen hready
      exact ⟨w, false, hw, hfalse, by simp [hpush, hfalse]⟩
  | false =>
      obtain ⟨w, hw, htrue⟩ := reaches_true hlen hready
      exact ⟨w, true, hw, htrue, by simp [hpush, htrue]⟩

/-- **How the response to an upload ends.**  When `push_firmware` has returned, reading on ends
the stream with `done`, whatever the result.  When it has raised, nothing ends the stream.  No
stream tells how the push has finished. -/
theorem not_tells {h : ApiHost} {o : OtaHandler} {name : String} {data : List UInt8}
    (hstart : h.uploadFirmware o name data = .ok u)
    (hreach : System.Reaches (step zlibCrc32) u v) :
    (∀ event, v.EndsWith percent event ↔
      (∃ result, v.push = .returned result) ∧ event = doneEvent) ∧
      (∀ e, v.push = .raised e →
        ∀ w, System.Reaches (step zlibCrc32) v w → w.progress.ended = false) ∧
        ¬ Tells percent zlibCrc32 u v := by
  obtain ⟨hstarted, hready⟩ := synced_uploadFirmware hstart
  have hsynced : v.Synced := hreach.induction Synced (fun _ _ _ => synced_step) hstarted
  have hends : ∀ event, v.EndsWith percent event ↔
      (∃ result, v.push = .returned result) ∧ event = doneEvent := by
    intro event
    exact endsWith_iff.trans (and_congr_left fun _ => hsynced.symm)
  refine ⟨hends, ?_, ?_⟩
  · intro err hraised w hw
    have hopen : v.progress.Open := by
      by_contra hclosed
      obtain ⟨result, hreturned⟩ := hsynced.mpr hclosed
      rw [hraised] at hreturned
      cases hreturned
    exact (hw.induction _ (fun _ _ _ => stuck_step) ⟨hraised, hopen⟩).2.ended
  · rintro ⟨event, hevent, hother⟩
    obtain ⟨⟨result, hpush⟩, rfl⟩ := (hends event).mp hevent
    obtain ⟨w, result', hw, hpush', hotherwise⟩ := exists_otherwise hready hreach hpush
    apply hother w hw (Or.inl ⟨result', hpush'⟩) hotherwise
    have hsynced' : w.Synced := hw.induction Synced (fun _ _ _ => synced_step) hstarted
    exact endsWith_iff.mpr ⟨hsynced'.mp ⟨result', hpush'⟩, rfl⟩

end Runs

/-- One node, named `lamp`, is connected. -/
def lampHost : ApiHost where
  manager :=
    [(⟨1, ⟨KlipCommand.ping.code, []⟩⟩ : Frame), ⟨1, ⟨KlipCommand.deviceInfoResp.code, []⟩⟩].foldl
      (DeviceManager.onPacket (fun _ => some (.dict [("name", .str "lamp")])) 0) .start
  transport := openPort
  zones := fun _ _ => none

/-- The upload of one byte to it has begun. -/
def lampUpload : FirmwareUpload := ⟨1, [0], .start, .ready, .empty⟩

/-- Its push, up to the answer to OTA_BEGIN. -/
def lampGranted : List UploadStep :=
  [.push openPort false, .status 1 (statusPacket klipOtaInProgress)]

/-- A push that is not answered. -/
theorem not_tells_lampUpload :
    ∃ v, System.Reaches (step fun _ => 0) lampUpload v ∧ v.push = .returned false ∧
      ¬ Tells (fun _ _ => 0) (fun _ => 0) lampUpload v := by
  have hstart : lampHost.uploadFirmware .start "lamp" [0] = .ok lampUpload := rfl
  have hreach : System.Reaches (step fun _ => 0) lampUpload _ :=
    ⟨[.push openPort false, .push openPort true], rfl⟩
  exact ⟨_, hreach, rfl, (not_tells hstart hreach).2.2⟩

/-- The port is closed between two sends, and the stream does not end; a timeout after OTA_BEGIN
and a finished update both end in `done`. -/
theorem streams_lampUpload :
    lampHost.uploadFirmware .start "lamp" [0] = .ok lampUpload ∧
      (∃ v, System.run (step fun _ => 0) lampUpload (lampGranted ++ [.push ⟨false, []⟩ false]) =
        some v ∧ v.push = .raised .portNotOpen ∧ ∀ percent event, ¬ v.EndsWith percent event) ∧
      (∃ v, System.run (step fun _ => 0) lampUpload [.push openPort false, .push openPort true] =
        some v ∧ v.push = .returned false ∧ ∀ percent, v.EndsWith percent doneEvent) ∧
      ∃ v, System.run (step fun _ => 0) lampUpload (lampGranted ++ [.push openPort false,
          .push openPort false, .status 1 (statusPacket klipOtaOk), .push openPort false]) =
        some v ∧ v.push = .returned true ∧ ∀ percent, v.EndsWith percent doneEvent := by
  refine ⟨rfl, ⟨_, rfl, rfl, ?_⟩, ⟨_, rfl, rfl, ?_⟩, ⟨_, rfl, rfl, ?_⟩⟩
  · intro percent event h
    apply (endsWith_iff.mp h).1
    exact ⟨rfl, by decide⟩
  · intro percent
    refine endsWith_iff.mpr ⟨?_, rfl⟩
    intro hopen
    exact hopen.queue (by decide)
  · intro percent
    refine endsWith_iff.mpr ⟨?_, rfl⟩
    intro hopen
    exact hopen.queue (by decide)

end FirmwareUpload
end Klippylink
