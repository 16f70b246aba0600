import Klippylink.Node.Flashing

/-!
# When the node restarts

A write makes the server call one function of the updater, or none.  Of these only an
`ota_end` that has gone well restarts the node, and it has reported success before.

## Main definitions

* `writeEvt_cases` — the function of the updater that a write calls.
* `OtaState.Reports` — an active update has a status callback.
* `NodeDevice.Restarts` — a write restarts the node.
-/

namespace Klippylink

open Lib

theorem updater_not_mem_notify (s : GattServer) (data : List UInt8) (c : EspCall) :
    NodeCall.updater c ∉ s.notify data := by
  rw [GattServer.notify]
  split <;> simp

/-- **A write calls one function of the updater, or none.** -/
theorem writeEvt_cases (build : NodeBuild) (s : GattServer) (w : Written) (out : Outcomes) :
    (∃ call : OtaCall, s.writeEvt build w out = s.afterOta (call.perform build.crc s.ota) ∧
      (∀ size crc cb o, call = .begin size crc cb o → cb = true) ∧
      (∀ o, call = .finish o → KlipCommand.ofCode (w.byte 2) = some .otaEnd)) ∨
    ((s.writeEvt build w out).1 = s ∧ ∀ c, NodeCall.updater c ∉ (s.writeEvt build w out).2) := by
  rw [GattServer.writeEvt]
  split
  · rw [GattServer.dispatchPacket]
    split
    · exact .inr ⟨rfl, by simp⟩
    · simp only
      split
      case h_9 =>
        split
        · refine .inl ⟨.begin _ _ true out.begin, rfl, ?_, fun o ho => by cases ho⟩
          intro size crc cb o hcall
          cases hcall
          rfl
        · exact .inr ⟨rfl, by simp⟩
      case h_10 =>
        exact .inl ⟨.write _ out.writeRet, rfl, (fun _ _ _ _ h => by cases h),
          fun o ho => by cases ho⟩
      case h_11 hcommand =>
        exact .inl ⟨.finish out.finish, rfl, (fun _ _ _ _ h => by cases h), fun _ _ => hcommand⟩
      case h_12 =>
        refine .inr ⟨rfl, fun c => ?_⟩
        rw [GattServer.wifiEnable]
        simp only
        split
        · simp
        · split
          · simp
          · split <;> simp
      case h_7 =>
        refine .inr ⟨rfl, fun c => ?_⟩
        split
        · exact updater_not_mem_notify s _ c
        · simp
      case h_8 =>
        refine .inr ⟨rfl, fun c => ?_⟩
        rw [GattServer.sendDeviceInfo]
        split
        · simp
        · exact updater_not_mem_notify s _ c
      case h_1 => exact .inr ⟨rfl, updater_not_mem_notify s _⟩
      case h_13 => exact .inr ⟨rfl, updater_not_mem_notify s _⟩
      -- the drivers
      all_goals
        refine .inr ⟨rfl, fun c => ?_⟩
        first
          | split <;> simp
          | simp
  · exact .inr ⟨rfl, by simp⟩

theorem restart_mem_carry (s : GattServer) (calls : List EspCall) :
    NodeCall.updater .restart ∈ calls.flatMap s.carry ↔ EspCall.restart ∈ calls := by
  rw [List.mem_flatMap]
  constructor
  · rintro ⟨c, hc, hmem⟩
    cases c with
    | restart => exact hc
    | statusCb status => exact absurd hmem (updater_not_mem_notify s _ _)
    | _ => simp [GattServer.carry] at hmem
  · exact fun hc => ⟨_, hc, by simp [GattServer.carry]⟩

theorem restart_not_mem_report (s : OtaState) (status : UInt8) :
    EspCall.restart ∉ s.report status := by
  rw [OtaState.report]
  split <;> simp

theorem restart_not_mem_abort (s : OtaState) : EspCall.restart ∉ (otaAbort s).2 := by
  rcases otaAbort_calls s with h | h <;> simp [h]

/-- While an update is active there is someone to report to. -/
def OtaState.Reports (s : OtaState) : Prop := s.active = true → s.cb = true

/-- **A function of the updater that restarts the node** ends an active update, and
reports success. -/
theorem restart_of_perform {crc : UInt32 → List UInt8 → UInt32} {s : OtaState} {call : OtaCall}
    (h : EspCall.restart ∈ (call.perform crc s).calls) (hcb : s.Reports) :
    (∃ out, call = .finish out) ∧
      (call.perform crc s).calls.filterMap EspCall.reported = [(statusPacket klipOtaOk).bytes] := by
  cases call with
  | begin size crc32 cb out =>
      exfalso
      simp only [OtaCall.perform, otaBegin] at h
      split at h
      · exact restart_not_mem_abort s h
      · split at h
        · simp [restart_not_mem_abort] at h
        · simp [restart_not_mem_abort, restart_not_mem_report] at h
  | write data ret =>
      exfalso
      simp only [OtaCall.perform, otaWrite] at h
      split at h
      · split at h
        · simp [restart_not_mem_abort, restart_not_mem_report] at h
        · simp at h
      · simp at h
  | abort => exact absurd h (restart_not_mem_abort s)
  | finish out =>
      refine ⟨⟨out, rfl⟩, ?_⟩
      simp only [OtaCall.perform, otaEnd] at h ⊢
      split at h
      · next hactive =>
          split at h
          · simp [restart_not_mem_report] at h
          · next hcrc =>
              split at h
              · simp [restart_not_mem_report] at h
              · next hend =>
                  split at h
                  · simp [restart_not_mem_report] at h
                  · next hboot =>
                      simp only [hactive, hcrc, hend, hboot, if_true, if_false, OtaState.report,
                        hcb hactive]
                      rfl
      · simp at h

theorem OtaState.Reports.perform {crc : UInt32 → List UInt8 → UInt32} {s : OtaState}
    (h : s.Reports) {call : OtaCall}
    (hcall : ∀ size crc cb o, call = .begin size crc cb o → cb = true) :
    (call.perform crc s).state.Reports := by
  cases call with
  | begin size crc32 cb out =>
      have hcb := hcall size crc32 cb out rfl
      simp only [OtaCall.perform, otaBegin, otaAbort_state, Reports]
      split
      · simp
      · split
        · simp
        · exact fun _ => hcb
  | write data ret =>
      simp only [OtaCall.perform, otaWrite, otaAbort_state]
      split
      · split
        · simp [Reports]
        · exact h
      · exact h
  | abort => simp [OtaCall.perform, otaAbort_state, Reports]
  | finish out =>
      simp only [OtaCall.perform, otaEnd]
      split
      · split
        · simp [Reports]
        · split
          · simp [Reports]
          · split
            · simp [Reports]
            · simp [Reports, OtaState.start]
      · exact h

/-- The node restarts on a write. -/
def NodeDevice.Restarts (build : NodeBuild) (d : NodeDevice) (w : Written) (out : Outcomes) :
    Prop :=
  NodeCall.updater .restart ∈ (d.server.writeEvt build w out).2

instance (build : NodeBuild) (d : NodeDevice) (w : Written) (out : Outcomes) :
    Decidable (d.Restarts build w out) :=
  inferInstanceAs (Decidable (_ ∈ _))

/-- **A restart is that of an OTA_END**, and success is notified before it. -/
theorem Listening.restarts {build : NodeBuild} {d : NodeDevice} {w : Written} {out : Outcomes}
    (h : Listening d.server) (hcb : d.server.ota.Reports) (hrestart : d.Restarts build w out) :
    KlipCommand.ofCode (w.byte 2) = some .otaEnd ∧
      (d.write build w out).2 = [(statusPacket klipOtaOk).bytes] := by
  rw [NodeDevice.Restarts] at hrestart
  rcases writeEvt_cases build d.server w out with ⟨call, hwrite, -, hend⟩ | ⟨-, hquiet⟩
  · have hcalls : NodeCall.updater .restart ∈
        (call.perform build.crc d.server.ota).calls.flatMap d.server.carry := by
      rw [hwrite] at hrestart
      exact hrestart
    obtain ⟨⟨o, hfinish⟩, hreported⟩ :=
      restart_of_perform ((restart_mem_carry _ _).mp hcalls) hcb
    exact ⟨hend o hfinish, by rw [h.write hwrite, hreported]⟩
  · exact absurd hrestart (hquiet _)

/-- A write keeps someone to report to. -/
theorem reports_write {build : NodeBuild} {d : NodeDevice} {w : Written} {out : Outcomes}
    (hcb : d.server.ota.Reports) : (d.write build w out).1.server.ota.Reports := by
  rcases writeEvt_cases build d.server w out with ⟨call, hwrite, hbegin, -⟩ | ⟨hsame, -⟩
  · simp only [NodeDevice.write, hwrite, GattServer.afterOta]
    split
    · simp [OtaState.Reports, GattServer.start, OtaState.start]
    · exact hcb.perform hbegin
  · simp only [NodeDevice.write, hsame]
    exact hcb
end Klippylink
