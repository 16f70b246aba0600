import Klippylink.Host.OtaHandler
import Klippylink.Node.Flashing

/-!
# The turns of an upload

What one turn of `push_firmware` does to the futures, to `_pending` and to the call, and
what a notified value does to them.  A turn sends a chunk and leaves the uploader alone,
or registers a future, or clears the entry; only the last two kinds matter to other calls
for the same node.

## Main definitions

* `Push.Early` — before OTA_END.
* `Turned`, `turned` — the kinds of turns, and that every turn is of one.
* `Drops` — the entry no longer leads to a future made before.
* `Waits` — the call's future is the one that a status completes.
* `statusOf`, `OtaHandler.onPacket` — a value at the host.
-/

namespace Klippylink

open Lib

/-! ### A turn of a call -/

/-- The next turn sends a chunk: it leaves `_pending` alone. -/
def Push.SendsChunk : Push → Prop
  | .sending _ (_ :: _) => True
  | _ => False

/-- Before its OTA_END. -/
def Push.Early : Push → Prop
  | .ready | .awaitBegin _ | .sending _ _ => True
  | _ => False

/-- A frame that ends no update. -/
def NotEnd (frame : List UInt8) : Prop :=
  ∀ beyond : ℕ → UInt8,
    KlipCommand.ofCode ((⟨frame.tail, beyond⟩ : Written).byte 2) ≠ some .otaEnd

/-- The call goes on without an OTA_END, or an exception ends it. -/
structure GoesOn (r : Turn) : Prop where
  push : r.push.Early ∨ ∃ e, r.push = .raised e
  written : r.written = [] ∨ NotEnd r.written

/-- A future is registered. -/
structure Registers (o : OtaHandler) (nodeId : ℤ) (r : Turn) : Prop where
  futures : r.handler.futures = o.futures ++ [none]
  pending : r.handler.pending nodeId = some o.futures.length

/-- The entry is cleared. -/
structure Clears (o : OtaHandler) (nodeId : ℤ) (r : Turn) : Prop where
  futures : r.handler.futures = o.futures
  pending : r.handler.pending nodeId = none

/-- What a turn does to the uploader and to the call. -/
inductive Turned (o : OtaHandler) (nodeId : ℤ) (timeout : Bool) (push : Push) (r : Turn) : Prop
  | chunk : push.SendsChunk → r.handler = o → GoesOn r → Turned o nodeId timeout push r
  | asks : push.Early → ¬ push.SendsChunk → Registers o nodeId r → GoesOn r →
      Turned o nodeId timeout push r
  | ends : push.Early → ¬ push.SendsChunk → Registers o nodeId r →
      r.push = .awaitEnd o.futures.length → Turned o nodeId timeout push r
  | begun : push.Early → ¬ push.SendsChunk → Clears o nodeId r → GoesOn r →
      Turned o nodeId timeout push r
  | refused : push.Early → ¬ push.SendsChunk → Clears o nodeId r → r.push = .returned false →
      r.written = [] → Turned o nodeId timeout push r
  | ended {future : ℕ} {status : Option UInt8} : push = .awaitEnd future → Clears o nodeId r →
      Push.awaited o future timeout = some status → r.push = .returned (status = some klipOtaOk) →
      r.written = [] → Turned o nodeId timeout push r

section Turn

variable {t : SerialTransport} {o : OtaHandler} {nodeId : ℤ}

/-- A send raises, or writes a frame of the packet. -/
theorem send_cases (t : SerialTransport) (o : OtaHandler) (nodeId : ℤ) (pkt : KlipPacket)
    (next : Push) (progress : List (ℕ × ℕ)) :
    (∃ e, Push.send t o nodeId pkt next progress = ⟨o, .raised e, [], []⟩) ∨
      ∃ id, Push.send t o nodeId pkt next progress =
        ⟨o, next, id :: klipPacket pkt.command pkt.payload, progress⟩ := by
  rw [Push.send]
  cases hsend : t.sendPacket nodeId pkt with
  | error e => exact .inl ⟨e, rfl⟩
  | ok bytes =>
      refine .inr ?_
      rw [SerialTransport.sendPacket] at hsend
      split at hsend
      · rw [KlipPacket.encode] at hsend
        split at hsend
        · cases hsend
        · next h =>
            split at h
            · cases h
              cases hsend
              exact ⟨_, rfl⟩
            · cases h
      · cases hsend

/-- A send of another packet than OTA_END goes on. -/
theorem goesOn_send (t : SerialTransport) (o : OtaHandler) (nodeId : ℤ) (pkt : KlipPacket)
    (hpkt : KlipCommand.ofCode pkt.command ≠ some .otaEnd) (next : Push) (hnext : next.Early)
    (progress : List (ℕ × ℕ)) :
    GoesOn (Push.send t o nodeId pkt next progress) ∧
      (Push.send t o nodeId pkt next progress).handler = o := by
  rcases send_cases t o nodeId pkt next progress with ⟨e, h⟩ | ⟨id, h⟩
  · rw [h]
    exact ⟨⟨.inr ⟨e, rfl⟩, .inl rfl⟩, rfl⟩
  · rw [h]
    exact ⟨⟨.inl hnext, .inr fun _ => hpkt⟩, rfl⟩

/-- Making a future after the entry was cleared is making one. -/
theorem registers_createFuture (o o' : OtaHandler) (nodeId : ℤ) (r : Turn)
    (ho : o'.futures = o.futures) (hr : r.handler = (o'.createFuture nodeId).1) :
    Registers o nodeId r where
  futures := by rw [hr, ← ho]; rfl
  pending := by rw [hr, ← ho]; simp [OtaHandler.createFuture]

/-- After the loop a future is registered, and OTA_END is sent or an exception raised. -/
theorem turned_loopEnd (t : SerialTransport) (nodeId : ℤ) (timeout : Bool) (push : Push)
    (hearly : push.Early) (hchunk : ¬ push.SendsChunk) {o o' : OtaHandler}
    (ho : o'.futures = o.futures) (total sent : ℕ) :
    Turned o nodeId timeout push (Push.loopTurn t o' nodeId total sent []) := by
  have hlen : (o'.createFuture nodeId).2 = o.futures.length := congrArg List.length ho
  rcases send_cases t (o'.createFuture nodeId).1 nodeId ⟨KlipCommand.otaEnd.code, []⟩
    (.awaitEnd (o'.createFuture nodeId).2) [] with ⟨e, hsend⟩ | ⟨id, hsend⟩
  · rw [Push.loopTurn, hsend]
    exact .asks hearly hchunk (registers_createFuture o o' nodeId _ ho rfl)
      ⟨.inr ⟨e, rfl⟩, .inl rfl⟩
  · rw [Push.loopTurn, hsend]
    exact .ends hearly hchunk (registers_createFuture o o' nodeId _ ho rfl)
      (congrArg Push.awaitEnd hlen)

/-- **Every turn is of one of these kinds.** -/
theorem turned {zlibCrc32 : List UInt8 → UInt32} {firmware : List UInt8} {timeout : Bool}
    {push : Push} {r : Turn}
    (h : push.turn t o nodeId zlibCrc32 firmware timeout = some r) :
    Turned o nodeId timeout push r := by
  cases push with
  | ready =>
      cases h
      rw [Push.beginTurn]
      split
      · exact .asks trivial (fun h => h) (registers_createFuture o o nodeId _ rfl rfl)
          ⟨.inr ⟨_, rfl⟩, .inl rfl⟩
      · obtain ⟨hgoes, hhandler⟩ := goesOn_send t (o.createFuture nodeId).1 nodeId
          ⟨KlipCommand.otaBegin.code, le32 (UInt32.ofNat firmware.length) ++
            le32 (zlibCrc32 firmware)⟩ (by simp) (.awaitBegin (o.createFuture nodeId).2)
          trivial []
        exact .asks trivial (fun h => h) (registers_createFuture o o nodeId _ rfl hhandler) hgoes
  | awaitBegin future =>
      obtain ⟨status, -, rfl⟩ := Option.map_eq_some_iff.mp h
      rw [Push.begunTurn]
      have hclears : ∀ r : Turn, r.handler = o.pop nodeId → Clears o nodeId r := by
        intro r hr
        exact ⟨by rw [hr]; rfl, by rw [hr]; simp [OtaHandler.pop]⟩
      split
      · cases blocks chunkSize firmware with
        | nil =>
            have hpop : (o.pop nodeId).futures = o.futures := rfl
            exact turned_loopEnd t nodeId timeout (.awaitBegin future) trivial (fun h => h) hpop _ _
        | cons chunk rest =>
            obtain ⟨hgoes, hhandler⟩ := goesOn_send t (o.pop nodeId) nodeId
              ⟨KlipCommand.otaData.code, chunk⟩ (by simp)
              (.sending (0 + chunk.length) rest) trivial
              [(0 + chunk.length, firmware.length)]
            exact .begun trivial (fun h => h) (hclears _ hhandler) hgoes
      · exact .refused trivial (fun h => h) (hclears _ rfl) rfl rfl
  | sending sent rest =>
      cases h
      cases rest with
      | nil =>
          exact turned_loopEnd t nodeId timeout (.sending sent []) trivial (fun h => h) rfl _ _
      | cons chunk rest =>
          obtain ⟨hgoes, hhandler⟩ := goesOn_send t o nodeId
            ⟨KlipCommand.otaData.code, chunk⟩ (by simp)
            (.sending (sent + chunk.length) rest) trivial
            [(sent + chunk.length, firmware.length)]
          exact .chunk trivial hhandler hgoes
  | awaitEnd future =>
      obtain ⟨status, hstatus, rfl⟩ := Option.map_eq_some_iff.mp h
      refine .ended rfl ⟨rfl, ?_⟩ hstatus rfl rfl
      simp [Push.endedTurn, OtaHandler.pop]
  | returned result => cases h
  | raised e => cases h

end Turn

/-! ### What a turn leaves alone -/

/-- The entry no longer leads to a future made before. -/
structure Drops (o : OtaHandler) (nodeId : ℤ) (r : Turn) : Prop where
  length : o.futures.length ≤ r.handler.futures.length
  futures : ∀ f < o.futures.length, r.handler.futures[f]? = o.futures[f]?
  pending : ∀ f < o.futures.length, r.handler.pending nodeId ≠ some f

section Turned

variable {o : OtaHandler} {nodeId : ℤ} {timeout : Bool} {push : Push} {r : Turn}

theorem Registers.drops (h : Registers o nodeId r) : Drops o nodeId r where
  length := by simp [h.futures]
  futures := fun f hf => by rw [h.futures, List.getElem?_append_left hf]
  pending := fun f hf => by
    rw [h.pending]
    simp only [ne_eq, Option.some.injEq]
    omega

theorem Clears.drops (h : Clears o nodeId r) : Drops o nodeId r where
  length := by rw [h.futures]
  futures := fun f _ => by rw [h.futures]
  pending := fun f _ => by simp [h.pending]

theorem Push.SendsChunk.early (h : push.SendsChunk) : push.Early := by
  cases push <;> trivial

theorem GoesOn.not_awaits (h : GoesOn r) {future : ℕ} : r.push ≠ .awaitEnd future := by
  intro hpush
  rcases h.push with hearly | ⟨e, hraised⟩
  · rw [hpush] at hearly
    exact hearly
  · rw [hpush] at hraised
    cases hraised

theorem GoesOn.not_returned (h : GoesOn r) {result : Bool} : r.push ≠ .returned result := by
  intro hpush
  rcases h.push with hearly | ⟨e, hraised⟩
  · rw [hpush] at hearly
    exact hearly
  · rw [hpush] at hraised
    cases hraised

/-- A turn that sends a chunk leaves the uploader alone. -/
theorem Turned.sends (h : Turned o nodeId timeout push r) (hchunk : push.SendsChunk) :
    r.handler = o ∧ GoesOn r := by
  cases h with
  | chunk _ hhandler hgoes => exact ⟨hhandler, hgoes⟩
  | asks _ hnot | ends _ hnot | begun _ hnot | refused _ hnot => exact absurd hchunk hnot
  | ended hawaits => exact absurd hchunk (by rw [hawaits]; exact fun h => h)

/-- Only a turn that sends a chunk leaves the entry. -/
theorem Turned.drops (h : Turned o nodeId timeout push r) (hchunk : ¬ push.SendsChunk) :
    Drops o nodeId r := by
  cases h with
  | chunk hsends _ _ => exact absurd hsends hchunk
  | asks _ _ hregisters _ => exact hregisters.drops
  | ends _ _ hregisters _ => exact hregisters.drops
  | begun _ _ hclears _ => exact hclears.drops
  | refused _ _ hclears _ _ => exact hclears.drops
  | ended _ hclears _ _ _ => exact hclears.drops

/-- A call that is before its OTA_END was before it, and has sent none. -/
theorem Turned.early (h : Turned o nodeId timeout push r) (hr : r.push.Early) :
    push.Early ∧ (r.written = [] ∨ NotEnd r.written) := by
  cases h with
  | chunk hsends _ hgoes => exact ⟨hsends.early, hgoes.written⟩
  | asks hearly _ _ hgoes => exact ⟨hearly, hgoes.written⟩
  | ends _ _ _ hpush => exact absurd hr (by rw [hpush]; exact fun h => h)
  | begun hearly _ _ hgoes => exact ⟨hearly, hgoes.written⟩
  | refused _ _ _ hpush _ => exact absurd hr (by rw [hpush]; exact fun h => h)
  | ended _ _ _ hpush _ => exact absurd hr (by rw [hpush]; exact fun h => h)

/-- A call that has sent its OTA_END awaits a new future. -/
theorem Turned.awaits (h : Turned o nodeId timeout push r) {future : ℕ}
    (hr : r.push = .awaitEnd future) :
    push.Early ∧ Registers o nodeId r ∧ future = o.futures.length := by
  cases h with
  | chunk _ _ hgoes => exact absurd hr hgoes.not_awaits
  | asks _ _ _ hgoes => exact absurd hr hgoes.not_awaits
  | ends hearly _ hregisters hpush =>
      rw [hpush] at hr
      cases hr
      exact ⟨hearly, hregisters, rfl⟩
  | begun _ _ _ hgoes => exact absurd hr hgoes.not_awaits
  | refused _ _ _ hpush _ => rw [hpush] at hr; cases hr
  | ended _ _ _ hpush _ => rw [hpush] at hr; cases hr

/-- A call that returns was refused, or its wait after OTA_END is over. -/
theorem Turned.returns (h : Turned o nodeId timeout push r) {result : Bool}
    (hr : r.push = .returned result) :
    (push.Early ∧ result = false) ∨
      ∃ future status, push = .awaitEnd future ∧
        Push.awaited o future timeout = some status ∧
        result = decide (status = some klipOtaOk) := by
  cases h with
  | chunk _ _ hgoes => exact absurd hr hgoes.not_returned
  | asks _ _ _ hgoes => exact absurd hr hgoes.not_returned
  | ends _ _ _ hpush => rw [hpush] at hr; cases hr
  | begun _ _ _ hgoes => exact absurd hr hgoes.not_returned
  | refused hearly _ _ hpush _ =>
      rw [hpush] at hr
      cases hr
      exact .inl ⟨hearly, rfl⟩
  | ended hpush _ hawaited hreturned _ =>
      rw [hreturned] at hr
      cases hr
      exact .inr ⟨_, _, hpush, hawaited, rfl⟩

/-- The turn of a call that awaits the answer to its OTA_END returns. -/
theorem Turned.of_awaits (h : Turned o nodeId timeout push r) {future : ℕ}
    (hpush : push = .awaitEnd future) :
    ∃ status, Push.awaited o future timeout = some status ∧
      r.push = .returned (status = some klipOtaOk) := by
  subst hpush
  cases h with
  | chunk hsends _ _ => exact absurd hsends (fun h => h)
  | asks hearly _ _ _ => exact absurd hearly (fun h => h)
  | ends hearly _ _ _ => exact absurd hearly (fun h => h)
  | begun hearly _ _ _ => exact absurd hearly (fun h => h)
  | refused hearly _ _ _ _ => exact absurd hearly (fun h => h)
  | ended hpush _ hawaited hreturned _ =>
      cases hpush
      exact ⟨_, hawaited, hreturned⟩

end Turned

/-! ### A call that is answered -/

/-- The coroutine's future is the one that a status for the node completes. -/
structure Waits (o : OtaHandler) (nodeId : ℤ) (future : ℕ) : Prop where
  pending : o.pending nodeId = some future
  unset : o.futures[future]? = some none

theorem OtaHandler.createFuture_waits (o : OtaHandler) (nodeId : ℤ) :
    Waits (o.createFuture nodeId).1 nodeId (o.createFuture nodeId).2 where
  pending := by simp [createFuture]
  unset := by simp [createFuture]

/-- A status completes the future that is waited for. -/
theorem Waits.onOtaStatus {o : OtaHandler} {nodeId : ℤ} {future : ℕ}
    (h : Waits o nodeId future) (status : UInt8) :
    (o.onOtaStatus nodeId (statusPacket status)).futures[future]? = some (some status) := by
  have hlt := (List.getElem?_eq_some_iff.mp h.unset).1
  simp only [OtaHandler.onOtaStatus, h.pending, h.unset, if_true]
  rw [List.getElem?_set_self hlt]
  rfl

section Open

variable {t : SerialTransport}

/-- A send on an open port writes the frame. -/
theorem Push.send_eq (ht : t.isOpen = true) (o : OtaHandler) (nodeId : UInt8) {pkt : KlipPacket}
    (hpkt : pkt.payload.length ≤ klipMaxPayloadSize) (next : Push) (progress : List (ℕ × ℕ)) :
    Push.send t o nodeId.toNat pkt next progress =
      ⟨o, next, Frame.bytes ⟨nodeId, pkt⟩, progress⟩ := by
  rw [Push.send, SerialTransport.sendPacket_eq ht nodeId (Nat.le_trans hpkt (by decide))]

/-- OTA_BEGIN on an open port. -/
theorem Push.beginTurn_eq (ht : t.isOpen = true) (o : OtaHandler) (nodeId : UInt8)
    {zlibCrc32 : List UInt8 → UInt32} {firmware : List UInt8}
    (hlen : firmware.length < UInt32.size) :
    Push.beginTurn t o nodeId.toNat zlibCrc32 firmware =
      ⟨(o.createFuture nodeId.toNat).1, .awaitBegin (o.createFuture nodeId.toNat).2,
        Frame.bytes ⟨nodeId, beginPacket (UInt32.ofNat firmware.length) (zlibCrc32 firmware)⟩,
        []⟩ := by
  have hbegin : (beginPacket (UInt32.ofNat firmware.length) (zlibCrc32 firmware)).payload.length ≤
      klipMaxPayloadSize := by
    simp only [beginPacket, List.length_append, length_le32]
    decide
  rw [Push.beginTurn, if_neg (Nat.not_le.mpr hlen)]
  exact Push.send_eq ht _ _ hbegin _ _

/-- OTA_END on an open port. -/
theorem Push.loopTurn_nil (ht : t.isOpen = true) (o : OtaHandler) (nodeId : UInt8)
    (total sent : ℕ) :
    Push.loopTurn t o nodeId.toNat total sent [] =
      ⟨(o.createFuture nodeId.toNat).1, .awaitEnd (o.createFuture nodeId.toNat).2,
        Frame.bytes ⟨nodeId, endPacket⟩, []⟩ :=
  Push.send_eq ht _ _ (Nat.zero_le _) _ _

/-- A chunk on an open port. -/
theorem Push.loopTurn_cons (ht : t.isOpen = true) (o : OtaHandler) (nodeId : UInt8)
    {chunk : List UInt8} (hchunk : chunk.length ≤ klipMaxPayloadSize) (rest : List (List UInt8))
    (total sent : ℕ) :
    Push.loopTurn t o nodeId.toNat total sent (chunk :: rest) =
      ⟨o, .sending (sent + chunk.length) rest, Frame.bytes ⟨nodeId, dataPacket chunk⟩,
        [(sent + chunk.length, total)]⟩ :=
  Push.send_eq ht _ _ hchunk _ _

end Open

/-! ### A value at the host -/

/-- The status that `on_packet` hands to the uploader, if the value is one. -/
def statusOf (value : List UInt8) : Option UInt8 :=
  match KlipPacket.decode value with
  | none => none
  | some pkt =>
      if pkt.command = KlipCommand.otaStatus.code then some (pkt.payload.headD klipOtaError)
      else none

/-- `on_packet` of `main.py`, as far as the uploader goes. -/
def OtaHandler.onPacket (o : OtaHandler) (nodeId : ℤ) (value : List UInt8) : OtaHandler :=
  match KlipPacket.decode value with
  | none => o
  | some pkt => if pkt.command = KlipCommand.otaStatus.code then o.onOtaStatus nodeId pkt else o

theorem statusOf_ok : statusOf (statusPacket klipOtaOk).bytes = some klipOtaOk := by decide

section OnPacket

variable {o : OtaHandler} {nodeId : ℤ} {value : List UInt8}

theorem onPacket_pending : (o.onPacket nodeId value).pending = o.pending := by
  rw [OtaHandler.onPacket]
  split
  · rfl
  · split
    · rw [OtaHandler.onOtaStatus]
      split
      · rfl
      · split <;> rfl
    · rfl

theorem onPacket_length : (o.onPacket nodeId value).futures.length = o.futures.length := by
  rw [OtaHandler.onPacket]
  split
  · rfl
  · split
    · rw [OtaHandler.onOtaStatus]
      split
      · rfl
      · split
        · exact List.length_set
        · rfl
    · rfl

/-- A value that is no status changes nothing. -/
theorem onPacket_of_none (h : statusOf value = none) : o.onPacket nodeId value = o := by
  rw [OtaHandler.onPacket]
  rw [statusOf] at h
  split
  · rfl
  · next pkt hdecode =>
      rw [hdecode] at h
      split
      · next hcommand => simp [hcommand] at h
      · rfl

/-- A status completes the future in `_pending`, unless it is done. -/
theorem onPacket_futures {status : UInt8} (h : statusOf value = some status) {future : ℕ} :
    (o.onPacket nodeId value).futures[future]? =
      if o.pending nodeId = some future ∧ o.futures[future]? = some none then some (some status)
      else o.futures[future]? := by
  rw [statusOf] at h
  split at h
  · cases h
  · next pkt hdecode =>
      split at h
      · next hcommand =>
          cases h
          simp only [OtaHandler.onPacket, hdecode, hcommand, if_true, OtaHandler.onOtaStatus]
          cases hpending : o.pending nodeId with
          | none => simp
          | some f =>
              simp only
              split
              · next hf =>
                  by_cases hff : f = future
                  · subst hff
                    have hlt : f < o.futures.length := (List.getElem?_eq_some_iff.mp hf).1
                    rw [if_pos ⟨rfl, hf⟩, List.getElem?_set_self hlt]
                  · simp [hff]
              · next hf =>
                  by_cases hff : f = future
                  · subst hff
                    simp [hf]
                  · simp [hff]
      · cases h

end OnPacket

end Klippylink
