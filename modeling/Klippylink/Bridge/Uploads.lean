import Klippylink.Host.Turns
import Klippylink.Lib.System
import Klippylink.Node.Restart
import Mathlib.Logic.Function.Basic

/-!
# Overlapping uploads to one node

Several calls of `push_firmware` for one node share the node's entry in `_pending`, and
a status does not say whose packet it answers.  The links are lossless queues of packets
and of notified values; beside each stands the call it belongs to, which no step of the
code reads.

A call returns the truth when it returns true exactly if the node has committed its
firmware on its own OTA_END.  A call may be bound to return false long before it does: its
future was completed with another status, or has been taken out of `_pending`.  What the
calls have returned or are bound to return is the truth along a run exactly when no step
takes the answer that a call is owed away from it, gives it another, or commits for a call
that no longer listens.

## Main definitions

* `Uploads`, `uploads` — the calls, the links and the node as a system.
* `Uploads.outcome` — what a call has returned or is bound to return.
* `Uploads.Truthful`, `Uploads.Honest` — the outcomes, and the results, are the truth.
* `Uploads.Undisturbed` — the condition on a step.
* `truthful_along_iff` — when they are.
-/

namespace Klippylink

open Lib

/-- What is fixed: the firmware of each call, the node's id at the host, and how the node
was built. -/
structure UploadsSetup (ι : Type) where
  firmware : ι → List UInt8
  nodeId : UInt8
  build : NodeBuild
  zlibCrc32 : List UInt8 → UInt32

/-- A notified value: the call whose packet it answers, and the image that was committed
on that packet, if one was. -/
structure Answer (ι : Type) where
  call : ι
  value : List UInt8
  image : Option (List UInt8)

/-- The uploader, where each call stands, the frames on their way to the node, the node,
the values on their way to the host, and each image that was committed, with the call on
whose packet it was. -/
structure Uploads (ι : Type) where
  ota : OtaHandler
  push : ι → Push
  down : List (ι × List UInt8)
  device : NodeDevice
  up : List (Answer ι)
  commits : List (ι × List UInt8)

/-- What can happen. -/
inductive UploadsEvent (ι : Type)
  /-- A call runs to its next `await`; its wait may have timed out. -/
  | turn (c : ι) (t : SerialTransport) (timeout : Bool)
  /-- The node gets the next packet. -/
  | execute (beyond : ℕ → UInt8) (out : Outcomes)
  /-- The host gets the next value. -/
  | deliver
  /-- After a restart the router connects again. -/
  | reconnect (connId : UInt16) (beyond : ℕ → UInt8)

instance (s : GattServer) : Decidable (Listening s) :=
  decidable_of_iff (s.connId ≠ 0xFFFF ∧ s.notifyEnabled = true)
    ⟨fun h => ⟨h.1, h.2⟩, fun h => ⟨h.connected, h.enabled⟩⟩

namespace Uploads

variable {ι : Type} [DecidableEq ι] (x : UploadsSetup ι)

/-- No call has run, and the node is connected. -/
def start (connId : UInt16) (boot : Option Partition) : Uploads ι :=
  ⟨.start, fun _ => .ready, [], ⟨{ GattServer.start with connId := connId, notifyEnabled := true },
    ⟨none, [], boot⟩, []⟩, [], []⟩

/-- After a turn of a call. -/
def ran (u : Uploads ι) (c : ι) (r : Turn) : Uploads ι :=
  { u with
    ota := r.handler
    push := Function.update u.push c r.push
    down := u.down ++ if r.written = [] then [] else [(c, r.written)] }

/-- After the node got a packet of a call. -/
def executed (u : Uploads ι) (c : ι) (rest : List (ι × List UInt8)) (w : Written)
    (out : Outcomes) : Uploads ι :=
  let image := if u.device.Restarts x.build w out then some u.device.flash.written else none
  { u with
    down := rest
    device := (u.device.write x.build w out).1
    up := u.up ++ (u.device.write x.build w out).2.map fun value => ⟨c, value, image⟩
    commits := u.commits ++ image.toList.map fun i => (c, i) }

/-- After the host got a value. -/
def delivered (u : Uploads ι) (a : Answer ι) (rest : List (Answer ι)) : Uploads ι :=
  { u with ota := u.ota.onPacket x.nodeId.toNat a.value, up := rest }

/-- After the router connected again. -/
def reconnected (u : Uploads ι) (connId : UInt16) (beyond : ℕ → UInt8) : Uploads ι :=
  let server := (u.device.server.connectEvt connId).cccdWriteEvt ⟨[1, 0], beyond⟩
  { u with device := { u.device with server := server } }

/-- One event. -/
def step (u : Uploads ι) : UploadsEvent ι → Option (Uploads ι)
  | .turn c t timeout =>
      ((u.push c).turn t u.ota x.nodeId.toNat x.zlibCrc32 (x.firmware c) timeout).map (u.ran c)
  | .execute beyond out =>
      match u.down with
      | [] => none
      | (c, frame) :: rest =>
          if Listening u.device.server then some (u.executed x c rest ⟨frame.tail, beyond⟩ out)
          else none
  | .deliver =>
      match u.up with
      | [] => none
      | a :: rest => some (u.delivered x a rest)
  | .reconnect connId beyond =>
      if Listening u.device.server then none else some (u.reconnected connId beyond)

/-- What a call has returned or is bound to return.  After OTA_END a call is bound to the
status that its future has, and to false when no status can reach its future any more. -/
def outcome (u : Uploads ι) (c : ι) : Option Bool :=
  match u.push c with
  | .returned result => some result
  | .awaitEnd future =>
      match u.ota.futures[future]? with
      | some (some status) => some (status = klipOtaOk)
      | _ => if u.ota.pending x.nodeId.toNat = some future then none else some false
  | _ => none

/-- The node has committed the call's firmware on the call's OTA_END. -/
def Committed (u : Uploads ι) (c : ι) : Prop := (c, x.firmware c) ∈ u.commits

/-- A call has returned true, or is bound to, exactly when its firmware was committed. -/
def Truthful (u : Uploads ι) : Prop :=
  ∀ c result, u.outcome x c = some result → (result = true ↔ u.Committed x c)

/-- A call that has returned has returned true exactly when its firmware was committed. -/
def Honest (u : Uploads ι) : Prop :=
  ∀ c result, u.push c = .returned result → (result = true ↔ u.Committed x c)

/-- After its OTA_END the call waits for a status, and the next one completes its
future. -/
def Waiting (u : Uploads ι) (c : ι) : Prop :=
  ∃ future, u.push c = .awaitEnd future ∧ u.ota.pending x.nodeId.toNat = some future ∧
    u.ota.futures[future]? = some none

/-- The answer to the call's OTA_END, on which its firmware was committed, is on its way. -/
def Owed (u : Uploads ι) (c : ι) : Prop :=
  ∃ a ∈ u.up, a.call = c ∧ a.image = some (x.firmware c)

/-- The condition on a step.  While a waiting call is owed its answer, turns send chunks:
none registers or clears the entry in `_pending`, and the call does not time out.  A
status that reaches a waiting call is OTA_OK exactly if the call is owed its answer.  A
call whose firmware is committed on its OTA_END is not bound to return false. -/
def Undisturbed (u : Uploads ι) (e : UploadsEvent ι) (_ : Uploads ι) : Prop :=
  match e with
  | .turn c _ _ => ∀ i, u.Waiting x i → u.Owed x i → (u.push c).SendsChunk
  | .execute beyond out =>
      ∀ c frame, u.down.head? = some (c, frame) →
        u.device.Restarts x.build ⟨frame.tail, beyond⟩ out →
          u.device.flash.written = x.firmware c → u.outcome x c ≠ some false
  | .deliver =>
      ∀ a, u.up.head? = some a → ∀ status, statusOf a.value = some status →
        ∀ c, u.Waiting x c → (status = klipOtaOk ↔ u.Owed x c)
  | .reconnect _ _ => True

end Uploads

/-- The calls, the links and the node as a system of events. -/
def uploads {ι : Type} [DecidableEq ι] (x : UploadsSetup ι) : System (Uploads ι) (UploadsEvent ι) :=
  fun u e => u.step x e

/-! ### What holds of every state -/

namespace Uploads

variable {ι : Type} (x : UploadsSetup ι)

/-- What holds of every state: a call awaits a future that was made; before its OTA_END
nothing is committed on it; a call that waits after its firmware was committed is owed the
answer; and the answer to a commit says OTA_OK. -/
structure Consistent (u : Uploads ι) : Prop where
  made : ∀ c future, u.push c = .awaitEnd future → future < u.ota.futures.length
  down : ∀ c, (u.push c).Early → ∀ frame, (c, frame) ∈ u.down → NotEnd frame
  commits : ∀ c, (u.push c).Early → ∀ image, (c, image) ∉ u.commits
  owed : ∀ c, u.Waiting x c → u.Committed x c → u.Owed x c
  image : ∀ a ∈ u.up, ∀ i, a.image = some i →
    (a.call, i) ∈ u.commits ∧ a.value = (statusPacket klipOtaOk).bytes
  reports : u.device.server.ota.Reports

variable {x} {u : Uploads ι}

theorem consistent_start (connId : UInt16) (boot : Option Partition) :
    (start connId boot : Uploads ι).Consistent x where
  made := fun c future h => by cases h
  down := fun c _ frame h => by cases h
  commits := fun c _ image h => by cases h
  owed := fun c ⟨future, h, _⟩ => by cases h
  image := fun a h => by cases h
  reports := by simp [start, GattServer.start, OtaState.start, OtaState.Reports]

/-- A call that is owed its answer has its firmware committed. -/
theorem Consistent.committed (h : u.Consistent x) {c : ι} (howed : u.Owed x c) :
    u.Committed x c := by
  obtain ⟨a, ha, rfl, himage⟩ := howed
  exact (h.image a ha _ himage).1

/-- For a call that waits, to have its firmware committed is to be owed the answer. -/
theorem Consistent.owed_iff (h : u.Consistent x) {c : ι} (hwaits : u.Waiting x c) :
    u.Owed x c ↔ u.Committed x c :=
  ⟨h.committed, h.owed c hwaits⟩

/-- A call that waits is bound to nothing yet. -/
theorem Waiting.outcome {c : ι} (h : u.Waiting x c) : u.outcome x c = none := by
  obtain ⟨future, hpush, hpending, hfuture⟩ := h
  simp [Uploads.outcome, hpush, hpending, hfuture]

/-- How a call stands after its OTA_END: its future is done, or it waits, or nothing can
complete its future any more. -/
theorem Consistent.awaits_cases (h : u.Consistent x) {c : ι} {future : ℕ}
    (hpush : u.push c = .awaitEnd future) :
    (∃ status, u.ota.futures[future]? = some (some status) ∧
      u.outcome x c = some (decide (status = klipOtaOk))) ∨
    u.Waiting x c ∨
    (u.ota.futures[future]? = some none ∧ u.ota.pending x.nodeId.toNat ≠ some future ∧
      u.outcome x c = some false) := by
  obtain ⟨result, hresult⟩ : ∃ result, u.ota.futures[future]? = some result :=
    ⟨_, List.getElem?_eq_getElem (h.made c future hpush)⟩
  cases result with
  | some status => exact .inl ⟨status, hresult, by simp [outcome, hpush, hresult]⟩
  | none =>
      by_cases hpending : u.ota.pending x.nodeId.toNat = some future
      · exact .inr (.inl ⟨future, hpush, hpending, hresult⟩)
      · exact .inr (.inr ⟨hresult, hpending, by simp [outcome, hpush, hresult, hpending]⟩)

/-- Outcomes depend on where the call stands and on the uploader. -/
theorem outcome_congr {u' : Uploads ι} {c : ι} (hpush : u'.push c = u.push c)
    (hota : u'.ota = u.ota) : u'.outcome x c = u.outcome x c := by
  simp only [outcome, hpush, hota]

/-- Of a call that does not await an answer to OTA_END only a result is known. -/
theorem outcome_of_not_awaits {c : ι} (hpush : ∀ future, u.push c ≠ .awaitEnd future)
    {result : Bool} : u.outcome x c = some result ↔ u.push c = .returned result := by
  rw [outcome]
  cases hcall : u.push c with
  | awaitEnd future => exact absurd hcall (hpush future)
  | _ => simp

/-! #### Turns -/

section Ran

variable [DecidableEq ι] {c i : ι} {timeout : Bool} {r : Turn}

theorem ran_push_of_ne (hi : i ≠ c) : (u.ran c r).push i = u.push i := Function.update_of_ne hi _ _

theorem ran_push_self : (u.ran c r).push c = r.push := Function.update_self _ _ _

theorem mem_ran_down {frame : List UInt8} :
    (i, frame) ∈ (u.ran c r).down ↔
      (i, frame) ∈ u.down ∨ (i = c ∧ frame = r.written ∧ r.written ≠ []) := by
  by_cases h : r.written = [] <;> simp [ran, h]

/-- Without a chunk sent, no other call waits any more. -/
theorem Consistent.not_waiting_ran (h : u.Consistent x)
    (hr : Turned u.ota x.nodeId.toNat timeout (u.push c) r) (hi : i ≠ c)
    (hchunk : ¬ (u.push c).SendsChunk) : ¬ (u.ran c r).Waiting x i := by
  rintro ⟨future, hpush, hpending, -⟩
  rw [ran_push_of_ne hi] at hpush
  exact (hr.drops hchunk).pending future (h.made i future hpush) hpending

theorem Consistent.ran (h : u.Consistent x)
    (hr : Turned u.ota x.nodeId.toNat timeout (u.push c) r) : (u.ran c r).Consistent x where
  made := by
    intro i future hpush
    by_cases hi : i = c
    · subst hi
      rw [ran_push_self] at hpush
      obtain ⟨-, hregisters, rfl⟩ := hr.awaits hpush
      simp [Uploads.ran, hregisters.futures]
    · rw [ran_push_of_ne hi] at hpush
      have hlt := h.made i future hpush
      by_cases hchunk : (u.push c).SendsChunk
      · simpa [Uploads.ran, (hr.sends hchunk).1] using hlt
      · exact hlt.trans_le (hr.drops hchunk).length
  down := by
    intro i hearly frame hframe
    rw [mem_ran_down] at hframe
    by_cases hi : i = c
    · subst hi
      rw [ran_push_self] at hearly
      obtain ⟨hbefore, hwritten⟩ := hr.early hearly
      rcases hframe with hframe | ⟨-, rfl, hne⟩
      · exact h.down i hbefore frame hframe
      · exact hwritten.resolve_left hne
    · rw [ran_push_of_ne hi] at hearly
      rcases hframe with hframe | ⟨hic, -⟩
      · exact h.down i hearly frame hframe
      · exact absurd hic hi
  commits := by
    intro i hearly
    by_cases hi : i = c
    · subst hi
      rw [ran_push_self] at hearly
      exact h.commits i (hr.early hearly).1
    · rw [ran_push_of_ne hi] at hearly
      exact h.commits i hearly
  owed := by
    intro i hwaits hcommitted
    by_cases hi : i = c
    · -- the call has only now sent its OTA_END
      subst hi
      obtain ⟨future, hpush, -⟩ := hwaits
      rw [ran_push_self] at hpush
      exact absurd hcommitted (h.commits i (hr.awaits hpush).1 _)
    · by_cases hchunk : (u.push c).SendsChunk
      · obtain ⟨hhandler, -⟩ := hr.sends hchunk
        obtain ⟨future, hpush, hpending, hfuture⟩ := hwaits
        rw [ran_push_of_ne hi] at hpush
        exact h.owed i ⟨future, hpush, hhandler ▸ hpending, hhandler ▸ hfuture⟩ hcommitted
      · exact absurd hwaits (h.not_waiting_ran hr hi hchunk)
  image := h.image
  reports := h.reports

/-- A turn that takes the entry from a waiting call binds the call to return false. -/
theorem Consistent.outcome_ran_waiting (h : u.Consistent x)
    (hr : Turned u.ota x.nodeId.toNat timeout (u.push c) r) (hchunk : ¬ (u.push c).SendsChunk)
    (hwaits : u.Waiting x i) : (u.ran c r).outcome x i = some false := by
  obtain ⟨future, hpush, hpending, hfuture⟩ := hwaits
  by_cases hi : i = c
  · -- the call itself can only go on by a timeout
    subst hi
    obtain ⟨status, hawaited, hreturned⟩ := hr.of_awaits hpush
    have hnone : status = none := by
      simp only [Push.awaited, hfuture] at hawaited
      split at hawaited <;> cases hawaited
      rfl
    simp [outcome, ran_push_self, hreturned, hnone]
  · have hlt := h.made i future hpush
    have hdrops := hr.drops hchunk
    have hfuture' : (u.ran c r).ota.futures[future]? = some none :=
      (hdrops.futures future hlt).trans hfuture
    have hpending' : (u.ran c r).ota.pending x.nodeId.toNat ≠ some future :=
      hdrops.pending future hlt
    simp [outcome, ran_push_of_ne hi, hpush, hfuture', hpending']

/-- The call itself keeps its outcome, is refused, or runs into its timeout. -/
theorem Consistent.outcome_ran_self (h : u.Consistent x)
    (hr : Turned u.ota x.nodeId.toNat timeout (u.push c) r) {result : Bool}
    (hout : (u.ran c r).outcome x c = some result) :
    u.outcome x c = some result ∨ ((u.push c).Early ∧ result = false) ∨
      (u.Waiting x c ∧ ¬ (u.push c).SendsChunk) := by
  have hreturned : r.push = .returned result := by
    by_cases hawaits : ∃ future, r.push = .awaitEnd future
    · -- a future just made is not done
      obtain ⟨future, hpush⟩ := hawaits
      obtain ⟨-, hregisters, rfl⟩ := hr.awaits hpush
      have hwaits : (u.ran c r).Waiting x c :=
        ⟨_, ran_push_self.trans hpush, hregisters.pending,
          by simp [Uploads.ran, hregisters.futures]⟩
      rw [hwaits.outcome] at hout
      cases hout
    · rw [← ran_push_self (u := u) (c := c)]
      refine (outcome_of_not_awaits fun future hpush => hawaits ⟨future, ?_⟩).mp hout
      rw [← hpush, ran_push_self]
  rcases hr.returns hreturned with hrefused | ⟨future, status, hpush, hawaited, rfl⟩
  · exact .inr (.inl hrefused)
  · rcases h.awaits_cases hpush with ⟨s, hdone, houtcome⟩ | hwaits | ⟨hopen, -, houtcome⟩
    · rw [Push.awaited, hdone] at hawaited
      cases hawaited
      exact .inl (by simpa using houtcome)
    · exact .inr (.inr ⟨hwaits, by rw [hpush]; exact fun h => h⟩)
    · simp only [Push.awaited, hopen] at hawaited
      split at hawaited <;> cases hawaited
      exact .inl (by simpa using houtcome)

/-- Another call keeps its outcome, or waited until its entry was taken. -/
theorem Consistent.outcome_ran_other (h : u.Consistent x)
    (hr : Turned u.ota x.nodeId.toNat timeout (u.push c) r) (hi : i ≠ c) {result : Bool}
    (hout : (u.ran c r).outcome x i = some result) :
    u.outcome x i = some result ∨ (u.Waiting x i ∧ ¬ (u.push c).SendsChunk) := by
  by_cases hchunk : (u.push c).SendsChunk
  · rw [outcome_congr (ran_push_of_ne hi) (hr.sends hchunk).1] at hout
    exact .inl hout
  · by_cases hawaits : ∃ future, u.push i = .awaitEnd future
    · obtain ⟨future, hpush⟩ := hawaits
      have hdrops := hr.drops hchunk
      have hfuture : (u.ran c r).ota.futures[future]? = u.ota.futures[future]? :=
        hdrops.futures future (h.made i future hpush)
      have hpending : (u.ran c r).ota.pending x.nodeId.toNat ≠ some future :=
        hdrops.pending future (h.made i future hpush)
      rcases h.awaits_cases hpush with ⟨s, hdone, houtcome⟩ | hwaits | ⟨hopen, -, houtcome⟩
      · rw [houtcome, ← hout]
        simp [outcome, ran_push_of_ne hi, hpush, hfuture, hdone]
      · exact .inr ⟨hwaits, hchunk⟩
      · rw [houtcome, ← hout]
        simp [outcome, ran_push_of_ne hi, hpush, hfuture, hopen, hpending]
    · have hpush : ∀ future, u.push i ≠ .awaitEnd future := fun f hf => hawaits ⟨f, hf⟩
      refine .inl ((outcome_of_not_awaits hpush).mpr ?_)
      rw [← ran_push_of_ne (u := u) (r := r) hi]
      refine (outcome_of_not_awaits fun future hf => hpush future ?_).mp hout
      rw [← hf, ran_push_of_ne hi]

/-- Otherwise a turn leaves the outcomes, but for a call that is refused. -/
theorem Consistent.outcome_ran (h : u.Consistent x)
    (hr : Turned u.ota x.nodeId.toNat timeout (u.push c) r) {result : Bool}
    (hout : (u.ran c r).outcome x i = some result) :
    u.outcome x i = some result ∨ ((u.push i).Early ∧ result = false) ∨
      (u.Waiting x i ∧ ¬ (u.push c).SendsChunk) := by
  by_cases hi : i = c
  · subst hi
    exact h.outcome_ran_self hr hout
  · exact (h.outcome_ran_other hr hi hout).imp_right .inr

/-- **A turn keeps the truth** exactly when it sends a chunk or no call is owed its
answer. -/
theorem Consistent.truthful_ran_iff (h : u.Consistent x) (htrue : u.Truthful x)
    (hr : Turned u.ota x.nodeId.toNat timeout (u.push c) r) :
    (u.ran c r).Truthful x ↔ ∀ i, u.Waiting x i → u.Owed x i → (u.push c).SendsChunk := by
  constructor
  · intro htrue' i hwaits howed
    by_contra hchunk
    have hfalse := htrue' i false (h.outcome_ran_waiting hr hchunk hwaits)
    exact absurd (hfalse.mpr (h.committed howed)) (by decide)
  · intro hguard i result hout
    rcases h.outcome_ran hr hout with hout | ⟨hearly, rfl⟩ | ⟨hwaits, hchunk⟩
    · exact htrue i result hout
    · exact ⟨fun hf => absurd hf (by decide), fun hcom => absurd hcom (h.commits i hearly _)⟩
    · rw [h.outcome_ran_waiting hr hchunk hwaits] at hout
      cases hout
      refine ⟨fun hf => absurd hf (by decide), fun hcommitted => ?_⟩
      exact absurd (hguard i hwaits ((h.owed_iff hwaits).mpr hcommitted)) hchunk

end Ran

/-! #### Values at the host -/

section Delivered

variable {a : Answer ι} {rest : List (Answer ι)} {c : ι}

theorem Waiting.of_delivered (h : (u.delivered x a rest).Waiting x c) :
    u.Waiting x c ∧ statusOf a.value = none := by
  obtain ⟨future, hpush, hpending, hfuture⟩ := h
  have hpending' : u.ota.pending x.nodeId.toNat = some future := by
    rw [← hpending]
    exact congrFun onPacket_pending.symm _
  cases hstatus : statusOf a.value with
  | none =>
      refine ⟨⟨future, hpush, hpending', ?_⟩, rfl⟩
      rw [← hfuture]
      exact congrArg (·.futures[future]?) (onPacket_of_none hstatus).symm
  | some status =>
      -- the status completes the future that the call waits for
      exfalso
      have hset : some none = _ := hfuture.symm.trans (onPacket_futures hstatus)
      split at hset
      · cases hset
      · next hnot => exact hnot ⟨hpending', hset.symm⟩

theorem Consistent.delivered (h : u.Consistent x) (hup : u.up = a :: rest) :
    (u.delivered x a rest).Consistent x where
  made := by
    intro c future hpush
    exact (h.made c future hpush).trans_eq onPacket_length.symm
  down := h.down
  commits := h.commits
  owed := by
    intro c hwaits hcommitted
    obtain ⟨hbefore, hstatus⟩ := hwaits.of_delivered
    obtain ⟨b, hb, hcall, himage⟩ := h.owed c hbefore hcommitted
    rw [hup] at hb
    rcases List.mem_cons.mp hb with rfl | hb
    · have hvalue := (h.image b (by simp [hup]) _ himage).2
      rw [hvalue, statusOf_ok] at hstatus
      cases hstatus
    · exact ⟨b, hb, hcall, himage⟩
  image := fun b hb => h.image b (by rw [hup]; exact List.mem_cons_of_mem a hb)
  reports := h.reports

/-- A status binds the call that waits. -/
theorem Waiting.outcome_delivered (h : u.Waiting x c) {status : UInt8}
    (hstatus : statusOf a.value = some status) :
    (u.delivered x a rest).outcome x c = some (decide (status = klipOtaOk)) := by
  obtain ⟨future, hpush, hpending, hfuture⟩ := h
  have hdone : (u.delivered x a rest).ota.futures[future]? = some (some status) :=
    (onPacket_futures hstatus).trans (if_pos ⟨hpending, hfuture⟩)
  have hpush' : (u.delivered x a rest).push c = .awaitEnd future := hpush
  simp [Uploads.outcome, hpush', hdone]

/-- A value leaves what the other calls are bound to. -/
theorem outcome_delivered (h : statusOf a.value = none ∨ ¬ u.Waiting x c) :
    (u.delivered x a rest).outcome x c = u.outcome x c := by
  cases hstatus : statusOf a.value with
  | none => exact outcome_congr rfl (onPacket_of_none hstatus)
  | some status =>
      have hwaits : ¬ u.Waiting x c := h.resolve_left (by simp [hstatus])
      cases hpush : u.push c with
      | awaitEnd future =>
          have hpush' : (u.delivered x a rest).push c = .awaitEnd future := hpush
          have hpending : (u.delivered x a rest).ota.pending x.nodeId.toNat =
              u.ota.pending x.nodeId.toNat := congrFun onPacket_pending _
          have hfuture : (u.delivered x a rest).ota.futures[future]? = u.ota.futures[future]? :=
            (onPacket_futures hstatus).trans (if_neg fun hf => hwaits ⟨future, hpush, hf⟩)
          simp only [outcome, hpush, hpush', hpending, hfuture]
      | _ =>
          have hpush' := hpush
          rw [show u.push c = (u.delivered x a rest).push c from rfl] at hpush'
          simp only [outcome, hpush, hpush']

/-- **A value keeps the truth** exactly when a call that waits gets OTA_OK for its own
commit only. -/
theorem Consistent.truthful_delivered_iff (h : u.Consistent x) (htrue : u.Truthful x) :
    (u.delivered x a rest).Truthful x ↔ ∀ status, statusOf a.value = some status →
      ∀ c, u.Waiting x c → (status = klipOtaOk ↔ u.Owed x c) := by
  constructor
  · intro htrue' status hstatus c hwaits
    have hiff := htrue' c _ (hwaits.outcome_delivered hstatus)
    rw [decide_eq_true_iff] at hiff
    exact hiff.trans (h.owed_iff hwaits).symm
  · intro hguard c result hout
    by_cases hwaits : u.Waiting x c
    · cases hstatus : statusOf a.value with
      | none =>
          rw [outcome_delivered (.inl hstatus)] at hout
          exact htrue c result hout
      | some status =>
          rw [hwaits.outcome_delivered hstatus] at hout
          cases hout
          rw [decide_eq_true_iff]
          exact (hguard status hstatus c hwaits).trans (h.owed_iff hwaits)
    · rw [outcome_delivered (.inr hwaits)] at hout
      exact htrue c result hout

end Delivered

/-! #### Packets at the node -/

section Executed

variable {c i : ι} {frame : List UInt8} {rest : List (ι × List UInt8)} {beyond : ℕ → UInt8}
  {w : Written} {out : Outcomes}

theorem mem_executed_commits {image : List UInt8} :
    (i, image) ∈ (u.executed x c rest w out).commits ↔ (i, image) ∈ u.commits ∨
      (i = c ∧ image = u.device.flash.written ∧ u.device.Restarts x.build w out) := by
  by_cases h : u.device.Restarts x.build w out
  · simp [executed, h]
  · simp [executed, h]

theorem mem_executed_up {a : Answer ι} :
    a ∈ (u.executed x c rest w out).up ↔ a ∈ u.up ∨
      (a.call = c ∧ a.value ∈ (u.device.write x.build w out).2 ∧
        a.image =
          if u.device.Restarts x.build w out then some u.device.flash.written else none) := by
  simp only [executed, List.mem_append, List.mem_map]
  refine or_congr_right ⟨?_, ?_⟩
  · rintro ⟨value, hvalue, rfl⟩
    exact ⟨rfl, hvalue, rfl⟩
  · obtain ⟨call, value, image⟩ := a
    rintro ⟨rfl, hvalue, rfl⟩
    exact ⟨value, hvalue, rfl⟩

theorem Consistent.executed (h : u.Consistent x) (hdown : u.down = (c, frame) :: rest)
    (hlistening : Listening u.device.server) :
    (u.executed x c rest ⟨frame.tail, beyond⟩ out).Consistent x where
  made := h.made
  down := by
    intro i hearly f hf
    exact h.down i hearly f (by rw [hdown]; exact List.mem_cons_of_mem _ hf)
  commits := by
    intro i hearly image hcommit
    rcases mem_executed_commits.mp hcommit with hcommit | ⟨rfl, -, hrestart⟩
    · exact h.commits i hearly image hcommit
    · have hframe := h.down i hearly frame (by simp [hdown])
      exact hframe beyond (hlistening.restarts h.reports hrestart).1
  owed := by
    intro i hwaits hcommitted
    rcases mem_executed_commits.mp hcommitted with hcommitted | ⟨rfl, himage, hrestart⟩
    · obtain ⟨a, ha, hcall, himage⟩ := h.owed i hwaits hcommitted
      exact ⟨a, mem_executed_up.mpr (.inl ha), hcall, himage⟩
    · refine ⟨⟨i, (statusPacket klipOtaOk).bytes, some (x.firmware i)⟩,
        mem_executed_up.mpr (.inr ⟨rfl, ?_, ?_⟩), rfl, rfl⟩
      · rw [(hlistening.restarts h.reports hrestart).2]
        exact List.mem_singleton_self _
      · rw [if_pos hrestart, himage]
  image := by
    intro a ha image himage
    rcases mem_executed_up.mp ha with ha | ⟨rfl, hvalue, hcommitted⟩
    · obtain ⟨hcommit, hvalue⟩ := h.image a ha image himage
      exact ⟨mem_executed_commits.mpr (.inl hcommit), hvalue⟩
    · rw [himage] at hcommitted
      split at hcommitted
      · next hrestart =>
          cases hcommitted
          refine ⟨mem_executed_commits.mpr (.inr ⟨rfl, rfl, hrestart⟩), ?_⟩
          rw [(hlistening.restarts h.reports hrestart).2] at hvalue
          exact List.mem_singleton.mp hvalue
      · cases hcommitted
  reports := reports_write h.reports

/-- **A packet keeps the truth** exactly when no call that is bound to return false has
its firmware committed on it. -/
theorem truthful_executed_iff (htrue : u.Truthful x) :
    (u.executed x c rest w out).Truthful x ↔
      (u.device.Restarts x.build w out → u.device.flash.written = x.firmware c →
        u.outcome x c ≠ some false) := by
  constructor
  · intro htrue' hrestart himage hfalse
    have hiff := htrue' c false hfalse
    exact absurd (hiff.mpr (mem_executed_commits.mpr (.inr ⟨rfl, himage.symm, hrestart⟩)))
      (by decide)
  · intro hguard i result hout
    have hiff := htrue i result hout
    constructor
    · exact fun hresult => mem_executed_commits.mpr (.inl (hiff.mp hresult))
    · intro hcommitted
      rcases mem_executed_commits.mp hcommitted with hcommitted | ⟨rfl, himage, hrestart⟩
      · exact hiff.mpr hcommitted
      · cases result with
        | true => rfl
        | false => exact absurd hout (hguard hrestart himage.symm)

end Executed

theorem Consistent.reconnected (h : u.Consistent x) (connId : UInt16) (beyond : ℕ → UInt8) :
    (u.reconnected connId beyond).Consistent x :=
  ⟨h.made, h.down, h.commits, h.owed, h.image, h.reports⟩

theorem Truthful.honest (h : u.Truthful x) : u.Honest x := by
  intro c result hpush
  exact h c result (by rw [outcome, hpush])

/-! #### Runs -/

section Runs

variable [DecidableEq ι] {e : UploadsEvent ι} {u' : Uploads ι}

theorem Consistent.step (h : u.Consistent x) (hstep : u.step x e = some u') :
    u'.Consistent x := by
  cases e with
  | turn c t timeout =>
      obtain ⟨r, hr, rfl⟩ := Option.map_eq_some_iff.mp hstep
      exact h.ran (turned hr)
  | execute beyond out =>
      rw [Uploads.step] at hstep
      split at hstep
      · cases hstep
      · next c frame rest hdown =>
          split at hstep
          · next hlistening =>
              cases hstep
              exact h.executed hdown hlistening
          · cases hstep
  | deliver =>
      rw [Uploads.step] at hstep
      split at hstep
      · cases hstep
      · next a rest hup =>
          cases hstep
          exact h.delivered hup
  | reconnect connId beyond =>
      rw [Uploads.step] at hstep
      split at hstep
      · cases hstep
      · cases hstep
        exact h.reconnected connId beyond

/-- **A step keeps the truth** exactly when it is undisturbed. -/
theorem Consistent.truthful_step_iff (h : u.Consistent x) (htrue : u.Truthful x)
    (hstep : u.step x e = some u') : u'.Truthful x ↔ u.Undisturbed x e u' := by
  cases e with
  | turn c t timeout =>
      obtain ⟨r, hr, rfl⟩ := Option.map_eq_some_iff.mp hstep
      exact h.truthful_ran_iff htrue (turned hr)
  | execute beyond out =>
      rw [Uploads.step] at hstep
      split at hstep
      · cases hstep
      · next c frame rest hdown =>
          split at hstep
          · cases hstep
            rw [truthful_executed_iff htrue, Undisturbed, hdown]
            constructor
            · intro hguard c' frame' hhead
              cases hhead
              exact hguard
            · exact fun hguard => hguard c frame rfl
          · cases hstep
  | deliver =>
      rw [Uploads.step] at hstep
      split at hstep
      · cases hstep
      · next a rest hup =>
          cases hstep
          rw [h.truthful_delivered_iff htrue, Undisturbed, hup]
          constructor
          · intro hguard b hhead
            cases hhead
            exact hguard
          · exact fun hguard => hguard a rfl
  | reconnect connId beyond =>
      rw [Uploads.step] at hstep
      split at hstep
      · cases hstep
      · cases hstep
        exact iff_of_true htrue trivial

/-- **What the calls return.**  Along a run of overlapping uploads what the calls have
returned or are bound to return is the truth exactly when no step disturbs another call,
and along such a run every call that returns, returns the truth. -/
theorem truthful_along_iff (x : UploadsSetup ι) (connId : UInt16) (boot : Option Partition)
    (es : List (UploadsEvent ι)) :
    (System.Along (uploads x) (fun _ _ u' => u'.Truthful x) (start connId boot) es ↔
      System.Along (uploads x) (Undisturbed x) (start connId boot) es) ∧
    (System.Along (uploads x) (Undisturbed x) (start connId boot) es →
      System.Along (uploads x) (fun _ _ u' => u'.Honest x) (start connId boot) es) := by
  have hiff : System.Along (uploads x) (fun _ _ u' => u'.Truthful x) (start connId boot) es ↔
      System.Along (uploads x) (Undisturbed x) (start connId boot) es := by
    apply System.along_iff (Consistent x) (Truthful x)
    · exact fun u e u' h hstep => h.step hstep
    · exact fun u e u' h htrue hstep => h.truthful_step_iff htrue hstep
    · exact fun u e u' h htrue hstep hguard => (h.truthful_step_iff htrue hstep).mpr hguard
    · exact consistent_start connId boot
    · intro c result hout
      cases hout
  exact ⟨hiff, fun h => System.Along.mono (fun _ _ _ => Truthful.honest) es _ (hiff.mpr h)⟩

end Runs

/-- Two calls, with an image of one byte each. -/
def twoUploads : UploadsSetup Bool :=
  ⟨fun c => if c then [2] else [1], 1, ⟨false, none, crc32⟩, crc32 0⟩

/-- Everything succeeds, and the partition reads back as `image`. -/
def goodOutcomes (image : UInt8) : Outcomes :=
  ⟨fun _ => false, ⟨some 1, espOk, 7⟩, espOk, ⟨true, fun _ => image, espOk, espOk⟩⟩

/-- The second call begins when the first has sent its chunk, and the first sends its
OTA_END when the second has. -/
def overlappingRun : List (UploadsEvent Bool) :=
  let turn (c : Bool) : UploadsEvent Bool := .turn c ⟨true, []⟩ false
  let execute : UploadsEvent Bool := .execute (fun _ => 0) (goodOutcomes 2)
  [turn false, execute, .deliver, turn false, turn true, execute, execute, .deliver, turn true,
    turn true, turn false, execute, execute, .deliver, turn false]

theorem overlappingRun_ends :
    (System.run (uploads twoUploads) (start 1 none) overlappingRun).map
      (fun u => (u.push false, u.commits)) = some (.returned true, [(true, [2])]) := by
  decide +kernel

/-- The first call returns true, and the node has the second call's firmware. -/
theorem overlappingRun_not_honest :
    ∃ u, System.run (uploads twoUploads) (start 1 none) overlappingRun = some u ∧
      u.push false = .returned true ∧ ¬ u.Committed twoUploads false := by
  obtain ⟨u, hrun, hends⟩ := Option.map_eq_some_iff.mp overlappingRun_ends
  obtain ⟨hpush, hcommits⟩ := Prod.mk.inj hends
  refine ⟨u, hrun, hpush, ?_⟩
  rw [Committed, hcommits]
  decide

end Uploads

end Klippylink
