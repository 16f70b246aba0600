import Klippylink.Node.Restart

/-!
# What the node answers to OTA_BEGIN and OTA_END

The host waits for an OTA_STATUS after either packet.  The node sends one when a begin has
opened a session and at every end of an active session.  A begin that fails and an end
without a session only return an error code, which the server drops.

## Main definitions

* `Answers` — one notification, and it is the verdict.
* `beginVerdict`, `endVerdict` — what the request came to.
* `ota_answered_iff` — when the two requests are answered.
-/

namespace Klippylink

open Lib

/-- What the server notifies is one OTA_STATUS, with this status. -/
def Answers (calls : List NodeCall) (status : UInt8) : Prop :=
  calls.filterMap NodeCall.indicated = [(statusPacket status).bytes]

/-- `esp_ota_set_boot_partition` has succeeded. -/
def EspCall.commits : EspCall → Bool
  | .setBootPartition _ ret => ret = espOk
  | _ => false

/-- The same, of a call of the server. -/
def NodeCall.commits : NodeCall → Bool
  | .updater c => c.commits
  | _ => false

/-- The answer to OTA_BEGIN: a session has been opened, or not. -/
def beginVerdict (r : GattServer × List NodeCall) : UInt8 :=
  if r.1.ota.active then klipOtaInProgress else klipOtaError

/-- The answer to OTA_END: the image has been committed, or not. -/
def endVerdict (r : GattServer × List NodeCall) : UInt8 :=
  if r.2.any NodeCall.commits then klipOtaOk else klipOtaError

/-! ### What the updater reports -/

/-- `ota_begin` opens a session and reports it, or makes no report. -/
theorem otaBegin_cases (s : OtaState) (size crc32 : UInt32) (out : BeginOutcome) :
    (out.part.isSome = true ∧ out.ret = espOk ∧
        (otaBegin s size crc32 true out).state.active = true ∧
        (otaBegin s size crc32 true out).calls.filterMap EspCall.reported =
          [(statusPacket klipOtaInProgress).bytes]) ∨
      (¬ (out.part.isSome = true ∧ out.ret = espOk) ∧
        (otaBegin s size crc32 true out).calls.filterMap EspCall.reported = []) := by
  have habort : (otaAbort s).2.filterMap EspCall.reported = [] := by
    rcases otaAbort_calls s with h | h <;> rw [h] <;> rfl
  simp only [otaBegin]
  cases out.part with
  | none => exact .inr ⟨by simp, habort⟩
  | some part =>
      by_cases hret : out.ret = espOk
      · refine .inl ⟨rfl, hret, ?_⟩
        simp only [hret, ne_eq, not_true_eq_false, if_false, List.filterMap_append, habort]
        exact ⟨trivial, rfl⟩
      · refine .inr ⟨fun h => hret h.2, ?_⟩
        simp only [hret, ne_eq, not_false_eq_true, if_true, List.filterMap_append, habort]
        rfl

/-- `ota_begin` does not restart the node. -/
theorem restart_not_mem_begin (s : OtaState) (size crc32 : UInt32) (out : BeginOutcome) :
    EspCall.restart ∉ (otaBegin s size crc32 true out).calls := by
  have habort := restart_not_mem_abort s
  simp only [otaBegin]
  cases out.part with
  | none => exact habort
  | some part =>
      by_cases hret : out.ret = espOk
      · simp [hret, habort, restart_not_mem_report]
      · simp [hret, habort]

/-- The end of an active session is reported, as an error or as a success. -/
theorem otaEnd_calls (crc : UInt32 → List UInt8 → UInt32) {s : OtaState} (h : s.active = true)
    (out : EndOutcome) :
    (∃ front, (otaEnd crc s out).calls = front ++ s.report klipOtaError ∧
        ∀ c ∈ front, c.reported = none ∧ c.commits = false) ∨
      (otaEnd crc s out).calls =
        [.otaEnd s.handle, .setBootPartition s.part espOk] ++
          (s.report klipOtaOk ++ [.restart]) := by
  simp only [otaEnd, h, if_true]
  split
  · exact .inl ⟨[.otaAbort s.handle], rfl, by simp [EspCall.reported, EspCall.commits]⟩
  · split
    · exact .inl ⟨[.otaEnd s.handle], rfl, by simp [EspCall.reported, EspCall.commits]⟩
    · split
      · next hset =>
          refine .inl ⟨[.otaEnd s.handle, .setBootPartition s.part out.setBootRet], rfl, ?_⟩
          simp [EspCall.reported, EspCall.commits, hset]
      · next hset =>
          rw [not_not] at hset
          rw [hset]
          exact .inr rfl

theorem reported_report (s : OtaState) (status : UInt8) :
    (s.report status).filterMap EspCall.reported =
      if s.cb then [(statusPacket status).bytes] else [] := by
  rw [OtaState.report]
  split <;> rfl

@[simp] theorem any_commits_report (s : OtaState) (status : UInt8) :
    (s.report status).any EspCall.commits = false := by
  rw [OtaState.report]
  split <;> rfl

/-- **`ota_end` reports what it came to**, when a session is active and there is someone to
report to. -/
theorem reported_otaEnd (crc : UInt32 → List UInt8 → UInt32) (s : OtaState) (out : EndOutcome) :
    (otaEnd crc s out).calls.filterMap EspCall.reported =
      if s.active = true ∧ s.cb = true then
        [(statusPacket (if (otaEnd crc s out).calls.any EspCall.commits then klipOtaOk
          else klipOtaError)).bytes]
      else [] := by
  by_cases hactive : s.active = true
  · rcases otaEnd_calls crc hactive out with ⟨front, hcalls, hfront⟩ | hcalls
    · have hnone : front.filterMap EspCall.reported = [] :=
        List.filterMap_eq_nil_iff.mpr fun c hc => (hfront c hc).1
      have hany : front.any EspCall.commits = false :=
        List.any_eq_false.mpr fun c hc => by simp [(hfront c hc).2]
      rw [hcalls, List.filterMap_append, hnone, reported_report, List.any_append, hany,
        any_commits_report]
      simp [hactive]
    · have hfront : [EspCall.otaEnd s.handle, .setBootPartition s.part espOk].filterMap
          EspCall.reported = [] := rfl
      have hlast : [EspCall.restart].filterMap EspCall.reported = [] := rfl
      rw [hcalls, List.filterMap_append, List.filterMap_append, hfront, hlast, reported_report]
      simp [hactive, EspCall.commits]
  · simp [otaEnd, hactive]

/-! ### What the server notifies -/

/-- Without a connection or with notifications off, nothing is notified. -/
theorem notify_of_not_listening {s : GattServer} (h : ¬ Listening s) (data : List UInt8) :
    s.notify data = [] := by
  rw [GattServer.notify, if_pos]
  by_contra hor
  rw [not_or, Bool.not_eq_false] at hor
  exact h ⟨hor.1, hor.2⟩

theorem indicated_of_not_listening {s : GattServer} (h : ¬ Listening s) (calls : List EspCall) :
    (calls.flatMap s.carry).filterMap NodeCall.indicated = [] := by
  rw [List.filterMap_flatMap]
  refine List.flatMap_eq_nil_iff.mpr fun c _ => ?_
  cases c with
  | statusCb status =>
      have hnone : s.carry (.statusCb status) = [] := notify_of_not_listening h _
      rw [hnone]
      rfl
  | _ => rfl

/-- **An answer** needs someone who listens, and is what the updater reports. -/
theorem answers_carry {s : GattServer} {calls : List EspCall} {status : UInt8} :
    Answers (calls.flatMap s.carry) status ↔
      Listening s ∧ calls.filterMap EspCall.reported = [(statusPacket status).bytes] := by
  by_cases h : Listening s
  · rw [Answers, h.filterMap_carry]
    exact (and_iff_right h).symm
  · rw [Answers, indicated_of_not_listening h]
    simp [h]

/-- What the calls of the updater commit, those of the server do. -/
theorem any_commits_carry (s : GattServer) (calls : List EspCall) :
    (calls.flatMap s.carry).any NodeCall.commits = calls.any EspCall.commits := by
  induction calls with
  | nil => rfl
  | cons c calls ih =>
      rw [List.flatMap_cons, List.any_append, ih, List.any_cons]
      congr 1
      cases c with
      | statusCb status =>
          rw [GattServer.carry, GattServer.otaCb, GattServer.notify]
          split <;> rfl
      | setBootPartition part ret => exact Bool.or_false _
      | _ => rfl

section Requests

variable (build : NodeBuild) (s : GattServer) (beyond : ℕ → UInt8) (out : Outcomes)

/-- Any payload of eight bytes or more is a begin. -/
theorem writeEvt_otaBegin {payload : List UInt8} (h8 : 8 ≤ payload.length)
    (h : payload.length ≤ 255) :
    ∃ size crc32, s.writeEvt build (KlipPacket.written ⟨KlipCommand.otaBegin.code, payload⟩ beyond)
      out = s.afterOta (otaBegin s.ota size crc32 true out.begin) := by
  obtain ⟨hmagic, hcommand, hlength⟩ := header_payload beyond .otaBegin payload h
  rw [writeEvt_packet, GattServer.dispatchPacket, hmagic, hcommand, hlength]
  simp only [ne_eq, not_true_eq_false, if_false, h8, if_true]
  exact ⟨_, _, rfl⟩

/-- Any payload is an end. -/
theorem writeEvt_otaEnd {payload : List UInt8} (h : payload.length ≤ 255) :
    s.writeEvt build (KlipPacket.written ⟨KlipCommand.otaEnd.code, payload⟩ beyond) out =
      s.afterOta (otaEnd build.crc s.ota out.finish) := by
  obtain ⟨hmagic, hcommand, -⟩ := header_payload beyond .otaEnd payload h
  rw [writeEvt_packet, GattServer.dispatchPacket, hmagic, hcommand]
  simp only [ne_eq, not_true_eq_false, if_false]

/-- **When an update request is answered.**  A begin, exactly when someone listens and it
opens a session; an end, exactly when someone listens and a session is active that was begun
with a callback. -/
theorem ota_answered_iff {payload : List UInt8} (h : payload.length ≤ 255)
    (r : GattServer × List NodeCall) :
    (8 ≤ payload.length →
      s.writeEvt build (KlipPacket.written ⟨KlipCommand.otaBegin.code, payload⟩ beyond) out = r →
        (Answers r.2 (beginVerdict r) ↔
          Listening s ∧ out.begin.part.isSome = true ∧ out.begin.ret = espOk)) ∧
      (s.writeEvt build (KlipPacket.written ⟨KlipCommand.otaEnd.code, payload⟩ beyond) out = r →
        (Answers r.2 (endVerdict r) ↔ Listening s ∧ s.ota.active = true ∧ s.ota.cb = true)) := by
  constructor
  · rintro h8 rfl
    obtain ⟨size, crc32, hwrite⟩ := writeEvt_otaBegin build s beyond out h8 h
    have hrestart := restart_not_mem_begin s.ota size crc32 out.begin
    simp only [hwrite, GattServer.afterOta, if_neg hrestart, beginVerdict, answers_carry]
    refine and_congr_right fun _ => ?_
    rcases otaBegin_cases s.ota size crc32 out.begin with ⟨hpart, hret, hactive, hreport⟩ |
      ⟨hfails, hreport⟩
    · rw [hreport, hactive]
      simp [hpart, hret]
    · rw [hreport]
      simp only [hfails, iff_false]
      exact fun hnil => List.cons_ne_nil _ _ hnil.symm
  · rintro rfl
    simp only [writeEvt_otaEnd build s beyond out h, GattServer.afterOta, endVerdict,
      any_commits_carry, answers_carry, reported_otaEnd]
    refine and_congr_right fun _ => ?_
    by_cases hand : s.ota.active = true ∧ s.ota.cb = true
    · rw [if_pos hand]
      simp only [hand, and_self]
    · rw [if_neg hand]
      simp only [hand, iff_false]
      exact fun hnil => List.cons_ne_nil _ _ hnil.symm

end Requests

/-- A node that someone listens to, before its first update. -/
def listeningNode : GattServer := ⟨0, true, OtaState.start⟩

/-- Every call of ESP-IDF succeeds. -/
def espSucceeds : Outcomes := ⟨fun _ => false, ⟨some 1, espOk, 7⟩, espOk, .ok []⟩

/-- There is no partition for an update. -/
def noPartition : Outcomes := ⟨fun _ => false, ⟨none, espOk, 0⟩, espOk, .ok []⟩

theorem ota_answered_iff_begin :
    Answers (listeningNode.writeEvt ⟨false, none, crc32⟩
        (KlipPacket.written ⟨KlipCommand.otaBegin.code, [0, 0, 0, 0, 0, 0, 0, 0]⟩ fun _ => 0)
        espSucceeds).2
      (beginVerdict (listeningNode.writeEvt ⟨false, none, crc32⟩
        (KlipPacket.written ⟨KlipCommand.otaBegin.code, [0, 0, 0, 0, 0, 0, 0, 0]⟩ fun _ => 0)
        espSucceeds)) :=
  ((ota_answered_iff ⟨false, none, crc32⟩ listeningNode (fun _ => 0) espSucceeds
    (Nat.le_of_ble_eq_true rfl) _).1 (Nat.le_of_ble_eq_true rfl) rfl).mpr
      ⟨⟨by decide, rfl⟩, rfl, rfl⟩

/-- A begin that finds no partition and an end without a session are not answered at all. -/
theorem ota_not_answered :
    (∀ status, ¬ Answers (listeningNode.writeEvt ⟨false, none, crc32⟩
        (KlipPacket.written ⟨KlipCommand.otaBegin.code, [0, 0, 0, 0, 0, 0, 0, 0]⟩ fun _ => 0)
        noPartition).2 status) ∧
      ∀ status, ¬ Answers (listeningNode.writeEvt ⟨false, none, crc32⟩
        (KlipPacket.written ⟨KlipCommand.otaEnd.code, []⟩ fun _ => 0) espSucceeds).2 status := by
  have hbegin : (listeningNode.writeEvt ⟨false, none, crc32⟩
      (KlipPacket.written ⟨KlipCommand.otaBegin.code, [0, 0, 0, 0, 0, 0, 0, 0]⟩ fun _ => 0)
      noPartition).2 = [] := by decide
  have hend : (listeningNode.writeEvt ⟨false, none, crc32⟩
      (KlipPacket.written ⟨KlipCommand.otaEnd.code, []⟩ fun _ => 0) espSucceeds).2 = [] := by decide
  refine ⟨fun status h => ?_, fun status h => ?_⟩
  · rw [hbegin] at h
    cases h
  · rw [hend] at h
    cases h

end Klippylink
