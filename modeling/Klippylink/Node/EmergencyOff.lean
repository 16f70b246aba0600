import Klippylink.Node.Flashing
import Klippylink.Node.Heater

/-!
# The heater and the server

The heater task and the server run side by side.  An iteration tests whether there is an
emergency, measures and takes the error from the target, computes the duty with the gains, and
writes it; what the server handles in between does not make it test again.  A restart of the node
is a new start.

The arithmetic of a `float` is a parameter.

## Main definitions

* `Heater.perform` — the calls of the server.
* `HeaterSetup`, `HeaterPhase`, `HeaterNode`, `heaterNode` — the system.
* `heaterNode_iteration` — an iteration that nothing comes in between of.
* `HeaterTurn` — what a step does to the heater.
* `stays_off_iff` — when the duty stays 0 after a disconnect.
-/

namespace Klippylink

open Lib

/-- HEATER_SET. -/
def heaterSetPacket (target p i d : UInt32) : KlipPacket :=
  ⟨KlipCommand.heaterSet.code, le32 target ++ (le32 p ++ (le32 i ++ le32 d))⟩

theorem writeEvt_heaterSetPacket (s : GattServer) (build : NodeBuild) (beyond : ℕ → UInt8)
    (out : Outcomes) (target p i d : UInt32) :
    s.writeEvt build ((heaterSetPacket target p i d).written beyond) out =
      (s, if build.variantFull then [.heaterSetTarget target, .heaterSetPid p i d] else []) := by
  obtain ⟨hmagic, hcommand, hlength⟩ := header_payload beyond .heaterSet
    (le32 target ++ (le32 p ++ (le32 i ++ le32 d))) (by simp)
  have htarget : ((heaterSetPacket target p i d).written beyond).word 4 = target :=
    word_written beyond [] _ rfl
  have hp : ((heaterSetPacket target p i d).written beyond).word 8 = p :=
    word_written beyond (le32 target) _ rfl
  have hi : ((heaterSetPacket target p i d).written beyond).word 12 = i :=
    word_written beyond (le32 target ++ le32 p) (le32 d) (by simp [heaterSetPacket])
  have hd : ((heaterSetPacket target p i d).written beyond).word 16 = d :=
    word_written beyond (le32 target ++ (le32 p ++ le32 i)) [] (by simp [heaterSetPacket])
  rw [writeEvt_packet, GattServer.dispatchPacket, htarget, hp, hi, hd]
  rw [heaterSetPacket, hmagic, hcommand, hlength]
  simp

/-- The number that the bits of a `float` stand for, when it is finite. -/
def floatValue (bits : UInt32) : ℚ :=
  let sign : ℚ := if bits.toNat < 2 ^ 31 then 1 else -1
  let exponent : ℕ := bits.toNat / 2 ^ 23 % 256
  let fraction : ℕ := bits.toNat % 2 ^ 23
  if exponent = 0 then sign * fraction / 2 ^ 149
  else sign * (2 ^ 23 + fraction) * 2 ^ exponent / 2 ^ 150

/-- What a call of the server does to the heater; `float` is the number that four bytes
stand for. -/
def Heater.perform {F : Type} (float : UInt32 → F) (h : Heater F) : NodeCall → Heater F
  | .heaterSetTarget target => heaterSetTarget h (float target)
  | .heaterSetPid kp ki kd => heaterSetPid h (float kp) (float ki) (float kd)
  | .heaterEmergencyOff => heaterEmergencyOff h
  | _ => h

/-- What is fixed: a node built with a heater. -/
structure HeaterSetup (F : Type) where
  build : NodeBuild
  full : build.variantFull = true
  float : UInt32 → F

/-- Where an iteration of the task is. -/
inductive HeaterPhase (F : Type)
  /-- In `vTaskDelay`. -/
  | waits
  /-- It has found no emergency. -/
  | tested
  /-- It has measured, and has the error. -/
  | measured (err : F)
  /-- It has a duty to write. -/
  | computed (duty : UInt8)

/-- The server, the heater and its task; and whether a disconnect has been handled and no
HEATER_SET since. -/
structure HeaterNode (F : Type) where
  server : GattServer
  heater : Heater F
  phase : HeaterPhase F
  off : Bool

/-- What can happen. -/
inductive HeaterStep (F : Type)
  /-- An iteration of the task tests `s_emergency`. -/
  | test
  /-- It measures, and reads `s_target`. -/
  | measure (temp : F)
  /-- It reads the gains. -/
  | compute
  /-- `set_duty`. -/
  | write
  | disconnect
  | connect (connId : UInt16)
  /-- A write to the descriptor. -/
  | cccd (w : Written)
  /-- A write of a packet. -/
  | packet (w : Written) (out : Outcomes)

/-- The call is made for a HEATER_SET. -/
def NodeCall.setsHeater : NodeCall → Bool
  | .heaterSetTarget _ => true
  | _ => false

section Node

variable {F : Type} [CFloat F]

/-- The node as a system of events. -/
def heaterNode (x : HeaterSetup F) : System (HeaterNode F) (HeaterStep F) := fun n e =>
  match e with
  | .test =>
      match n.phase with
      | .waits => some { n with phase := if n.heater.emergency then .computed 0 else .tested }
      | _ => none
  | .measure temp =>
      match n.phase with
      | .tested => some { n with phase := .measured (n.heater.target - temp) }
      | _ => none
  | .compute =>
      match n.phase with
      | .measured err =>
          let r := n.heater.compute err
          some { n with heater := r.1, phase := .computed r.2 }
      | _ => none
  | .write =>
      match n.phase with
      | .computed duty =>
          some { n with heater := { n.heater with duty := duty }, phase := .waits }
      | _ => none
  | .disconnect =>
      let r := n.server.disconnectEvt x.build
      some { n with
        server := r.1
        heater := r.2.foldl (Heater.perform x.float) n.heater
        off := true }
  | .connect connId => some { n with server := n.server.connectEvt connId }
  | .cccd w => some { n with server := n.server.cccdWriteEvt w }
  | .packet w out =>
      let r := n.server.writeEvt x.build w out
      if .updater .restart ∈ r.2 then none
      else some { n with
        server := r.1
        heater := r.2.foldl (Heater.perform x.float) n.heater
        off := n.off && !r.2.any NodeCall.setsHeater }

/-- The node has started. -/
def HeaterNode.start : HeaterNode F := ⟨GattServer.start, Heater.start, .waits, false⟩

/-- An iteration that nothing comes in between of is one of `heater_task`. -/
theorem heaterNode_iteration (x : HeaterSetup F) {n : HeaterNode F} (hwaits : n.phase = .waits)
    (temp : F) :
    (heaterNode x).run n
        (if n.heater.emergency then [.test, .write] else [.test, .measure temp, .compute, .write]) =
      some { n with heater := n.heater.iterate temp } := by
  rw [Heater.iterate]
  cases hemergency : n.heater.emergency with
  | true => simp [System.run, heaterNode, hwaits, hemergency]
  | false => simp [System.run, heaterNode, hwaits, hemergency, Heater.control]

/-- What the server calls for a packet that does not restart the node. -/
theorem heaterNode_packet (x : HeaterSetup F) {n : HeaterNode F} {w : Written} {out : Outcomes}
    {server : GattServer} {calls : List NodeCall}
    (hcalls : n.server.writeEvt x.build w out = (server, calls))
    (hrestart : .updater .restart ∉ calls) :
    heaterNode x n (.packet w out) =
      some { n with
        server := server
        heater := calls.foldl (Heater.perform x.float) n.heater
        off := n.off && !calls.any NodeCall.setsHeater } := by
  simp only [heaterNode, hcalls]
  exact if_neg hrestart

end Node

/-! ### What an emergency keeps -/

section Turn

variable {F : Type}

/-- Calls without a HEATER_SET keep an emergency, and a duty of 0. -/
theorem foldl_perform_of_not_sets {float : UInt32 → F} {calls : List NodeCall} {h : Heater F}
    (hsets : calls.any NodeCall.setsHeater = false) (hemergency : h.emergency = true) :
    (calls.foldl (Heater.perform float) h).emergency = true ∧
      (h.duty = 0 → (calls.foldl (Heater.perform float) h).duty = 0) := by
  induction calls generalizing h with
  | nil => exact ⟨hemergency, id⟩
  | cons call calls ih =>
      rw [List.any_cons, Bool.or_eq_false_iff] at hsets
      obtain ⟨hcall, hrest⟩ := hsets
      have hfirst : (h.perform float call).emergency = true ∧
          (h.duty = 0 → (h.perform float call).duty = 0) := by
        cases call with
        | heaterSetTarget target => cases hcall
        | heaterEmergencyOff => exact ⟨rfl, fun _ => rfl⟩
        | _ => exact ⟨hemergency, id⟩
      obtain ⟨hkept, hduty⟩ := ih hrest hfirst.1
      exact ⟨hkept, fun hzero => hduty (hfirst.2 hzero)⟩

/-- A disconnect raises an emergency and writes 0. -/
theorem foldl_perform_disconnect (x : HeaterSetup F) (s : GattServer) (h : Heater F) :
    (s.disconnectEvt x.build).2.foldl (Heater.perform x.float) h = heaterEmergencyOff h := by
  rw [GattServer.disconnectEvt, x.full]
  rfl

/-- What a step does to the heater and to its mark. -/
inductive HeaterTurn (x : HeaterSetup F) (n n' : HeaterNode F) : HeaterStep F → Prop
  | quiet {e : HeaterStep F} (hevent : e ≠ .write) (hduty : n'.heater.duty = n.heater.duty)
      (hemergency : n'.heater.emergency = n.heater.emergency) (hoff : n'.off = n.off) :
      HeaterTurn x n n' e
  | write (duty : UInt8) (hphase : n.phase = .computed duty)
      (hheater : n'.heater = { n.heater with duty := duty }) (hoff : n'.off = n.off) :
      HeaterTurn x n n' .write
  | disconnect (hheater : n'.heater = heaterEmergencyOff n.heater) :
      HeaterTurn x n n' .disconnect
  | packet (w : Written) (out : Outcomes) (calls : List NodeCall)
      (hheater : n'.heater = calls.foldl (Heater.perform x.float) n.heater)
      (hoff : n'.off = (n.off && !calls.any NodeCall.setsHeater)) :
      HeaterTurn x n n' (.packet w out)

variable {x : HeaterSetup F} {n n' : HeaterNode F} {e : HeaterStep F}

theorem heaterTurn_of_step [CFloat F] (hstep : heaterNode x n e = some n') :
    HeaterTurn x n n' e := by
  cases e with
  | test =>
      simp only [heaterNode] at hstep
      split at hstep
      · cases hstep
        exact .quiet (by simp) rfl rfl rfl
      · cases hstep
  | measure temp =>
      simp only [heaterNode] at hstep
      split at hstep
      · cases hstep
        exact .quiet (by simp) rfl rfl rfl
      · cases hstep
  | compute =>
      simp only [heaterNode] at hstep
      split at hstep
      · cases hstep
        exact .quiet (by simp) rfl rfl rfl
      · cases hstep
  | write =>
      simp only [heaterNode] at hstep
      split at hstep
      · next duty hphase =>
          cases hstep
          exact .write duty hphase rfl rfl
      · cases hstep
  | disconnect =>
      cases hstep
      exact .disconnect (foldl_perform_disconnect x n.server n.heater)
  | connect connId =>
      cases hstep
      exact .quiet (by simp) rfl rfl rfl
  | cccd w =>
      cases hstep
      exact .quiet (by simp) rfl rfl rfl
  | packet w out =>
      simp only [heaterNode] at hstep
      split at hstep
      · cases hstep
      · cases hstep
        exact .packet w out _ rfl rfl

/-- A heater that a disconnect has turned off is still in its emergency. -/
def HeaterNode.Armed (n : HeaterNode F) : Prop := n.off = true → n.heater.emergency = true

theorem HeaterTurn.armed (hturn : HeaterTurn x n n' e) (h : n.Armed) : n'.Armed := by
  intro hafter
  cases hturn with
  | quiet _ _ hemergency hoff =>
      rw [hemergency]
      exact h (hoff ▸ hafter)
  | write duty _ hheater hoff =>
      rw [hheater]
      exact h (hoff ▸ hafter)
  | disconnect hheater =>
      rw [hheater]
      rfl
  | packet w out calls hheater hoff =>
      rw [hoff, Bool.and_eq_true, Bool.not_eq_true'] at hafter
      rw [hheater]
      exact (foldl_perform_of_not_sets hafter.2 (h hafter.1)).1

/-- A heater that a disconnect has turned off is written 0, and stays so. -/
def HeaterNode.Cold (n : HeaterNode F) : Prop := n.off = true → n.heater.duty = 0

/-- An iteration that goes on after a disconnect writes 0. -/
def HeaterNode.WritesZero (n : HeaterNode F) (e : HeaterStep F) : Prop :=
  n.off = true → e = .write → ∀ duty, n.phase = .computed duty → duty = 0

/-- **An event keeps the duty at 0** unless it writes another. -/
theorem HeaterTurn.cold_iff (hturn : HeaterTurn x n n' e) (h : n.Cold) (harmed : n.Armed) :
    n'.Cold ↔ n.WritesZero e := by
  cases hturn with
  | quiet hevent hduty _ hoff =>
      rw [HeaterNode.Cold, hduty, hoff]
      exact iff_of_true h fun _ he => absurd he hevent
  | write duty hphase hheater hoff =>
      simp [HeaterNode.Cold, HeaterNode.WritesZero, hheater, hoff, hphase]
  | disconnect hheater =>
      rw [HeaterNode.Cold, hheater]
      exact iff_of_true (fun _ => rfl) fun _ he => nomatch he
  | packet w out calls hheater hoff =>
      refine iff_of_true (fun hafter => ?_) fun _ he => nomatch he
      rw [hoff, Bool.and_eq_true, Bool.not_eq_true'] at hafter
      rw [hheater]
      exact (foldl_perform_of_not_sets hafter.2 (harmed hafter.1)).2 (h hafter.1)

end Turn

/-- **After a disconnect the duty stays 0**, until a HEATER_SET is carried out, exactly
when no iteration that has found no emergency before the disconnect writes a positive duty
after it. -/
theorem stays_off_iff {F : Type} [CFloat F] (x : HeaterSetup F) (es : List (HeaterStep F)) :
    System.Along (heaterNode x) (fun _ _ n' => n'.off = true → n'.heater.duty = 0)
        HeaterNode.start es ↔
      System.Along (heaterNode x) (fun n e _ => n.WritesZero e) HeaterNode.start es :=
  System.along_iff HeaterNode.Armed HeaterNode.Cold _ _
    (fun _ _ _ harmed hstep => (heaterTurn_of_step hstep).armed harmed)
    (fun _ _ _ harmed h hstep => (heaterTurn_of_step hstep).cold_iff h harmed)
    (fun _ _ _ harmed h hstep hguard =>
      ((heaterTurn_of_step hstep).cold_iff h harmed).mpr hguard) es _
    (fun h => by cases h) fun h => by cases h

/-- A node with a heater, over exact numbers. -/
def heaterBuild : HeaterSetup ℚ := ⟨⟨true, none, crc32⟩, rfl, floatValue⟩

/-- HEATER_SET of 100 degrees, with the gains 1, 0 and 0. -/
def heatTo100 : HeaterStep ℚ :=
  .packet ((heaterSetPacket 0x42C80000 0x3F800000 0 0).written fun _ => 0) noOutcomes

/-- The heater after it. -/
def at100 : Heater ℚ := ⟨100, 1, 0, 0, false, 0, 0, 0⟩

theorem foldl_heatTo100 :
    [NodeCall.heaterSetTarget 0x42C80000, .heaterSetPid 0x3F800000 0 0].foldl
      (Heater.perform floatValue) Heater.start = at100 := by
  have htarget : floatValue 0x42C80000 = 100 := by decide +kernel
  have hone : floatValue 0x3F800000 = 1 := by decide +kernel
  have hzero : floatValue 0 = 0 := by decide +kernel
  show heaterSetPid (heaterSetTarget Heater.start (floatValue 0x42C80000)) (floatValue 0x3F800000)
    (floatValue 0) (floatValue 0) = at100
  rw [htarget, hone, hzero, Heater.start_rat]
  rfl

theorem heatTo100_step :
    heaterNode heaterBuild HeaterNode.start heatTo100 =
      some ⟨GattServer.start, at100, .waits, false⟩ := by
  have hcalls : (HeaterNode.start : HeaterNode ℚ).server.writeEvt heaterBuild.build
      ((heaterSetPacket 0x42C80000 0x3F800000 0 0).written fun _ => 0) noOutcomes =
        (GattServer.start, [.heaterSetTarget 0x42C80000, .heaterSetPid 0x3F800000 0 0]) :=
    writeEvt_heaterSetPacket _ _ _ _ _ _ _ _
  exact (heaterNode_packet heaterBuild hcalls (by simp)).trans
    (congrArg (fun h => some (HeaterNode.mk GattServer.start h .waits false)) foldl_heatTo100)

/-- A disconnect falls between the test and the write: at 25 degrees the error is 75, and so is
the output, which a `float` holds as it is. -/
theorem heatTo100_heats :
    ¬ System.Along (heaterNode heaterBuild) (fun _ _ n' => n'.off = true → n'.heater.duty = 0)
      HeaterNode.start [heatTo100, .test, .measure 25, .compute, .disconnect, .write] := by
  intro halong
  have htest := ((System.along_cons heatTo100_step).mp halong).2
  have hmeasure := ((System.along_cons rfl).mp htest).2
  have hcompute := ((System.along_cons rfl).mp hmeasure).2
  have hdisconnect := ((System.along_cons rfl).mp hcompute).2
  have hwrite := ((System.along_cons rfl).mp hdisconnect).2
  have hduty : (at100.control 25).duty = 0 := ((System.along_cons rfl).mp hwrite).1 rfl
  rw [Heater.duty_control] at hduty
  norm_num [Heater.Idle, at100] at hduty

end Klippylink
