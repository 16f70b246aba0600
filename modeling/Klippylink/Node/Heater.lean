import Klippylink.Lib.System
import Klippylink.Node.GattServer
import Mathlib.Data.Rat.Floor
import Mathlib.Tactic.Linarith

/-!
# The node's heater

`heater.c` runs a PID controller ten times a second and writes its output to the PWM
channel.  A command sets the target and the gains, and lifts the emergency that a
disconnect has raised; while there is one the task writes 0.  Nothing bounds the integral
or resets it.

The arithmetic of a `float` is a parameter.  What the controller does is proved over exact
numbers; the conversion from a voltage to a temperature, which takes a logarithm, is a
parameter there.

## Main definitions

* `CFloat` — arithmetic.
* `Heater`, `heaterSetTarget`, `heaterSetPid`, `heaterEmergencyOff` — the functions that
  the server calls.
* `dutyOf`, `Heater.compute`, `Heater.control`, `Heater.iterate` — `heater_task`.
* `readTemperature` — what it measures.
* `off_means_off_iff` — when a heater that is switched off stays off.
* `broken_sensor_iff` — when a broken sensor does not heat.
-/

namespace Klippylink

open Lib

/-- What `heater.c` does with a `float`. -/
class CFloat (F : Type) extends OfScientific F, Add F, Sub F, Mul F, Div F where
  /-- The result of `<`. -/
  less : F → F → Bool
  /-- The conversion to `uint8_t`. -/
  toUInt8 : F → UInt8

/-- Exact numbers are cut to whole ones. -/
instance : CFloat ℚ where
  less a b := a < b
  toUInt8 out := UInt8.ofNat ⌊out⌋.toNat

/-- The file-level variables, those of `heater_task`, and the duty last written. -/
structure Heater (F : Type) where
  target : F
  kp : F
  ki : F
  kd : F
  emergency : Bool
  integral : F
  prevErr : F
  duty : UInt8
  deriving DecidableEq

section Heater

variable {F : Type}

/-- `heater_set_target`. -/
def heaterSetTarget (h : Heater F) (tempC : F) : Heater F :=
  { h with target := tempC, emergency := false }

/-- `heater_set_pid`. -/
def heaterSetPid (h : Heater F) (kp ki kd : F) : Heater F :=
  { h with kp := kp, ki := ki, kd := kd }

/-- `heater_emergency_off`. -/
def heaterEmergencyOff (h : Heater F) : Heater F := { h with emergency := true, duty := 0 }

variable [CFloat F]

/-- The initialisers, and the duty of `heater_init`. -/
def Heater.start : Heater F := ⟨0.0, 1.0, 0.1, 0.01, false, 0.0, 0.0, 0⟩

/-! ## The task -/

/-- `(uint8_t)(out < 0.0f ? 0 : out > 255.0f ? 255 : out)`. -/
def dutyOf (out : F) : UInt8 :=
  CFloat.toUInt8 (if CFloat.less out 0.0 then 0.0 else if CFloat.less 255.0 out then 255.0 else out)

namespace Heater

/-- From the error to the duty. -/
def compute (h : Heater F) (err : F) : Heater F × UInt8 :=
  let dt : F := 1.0 / 10.0
  let integral := h.integral + err * dt
  let deriv := (err - h.prevErr) / dt
  let out := h.kp * err + h.ki * integral + h.kd * deriv
  ({ h with integral := integral, prevErr := err }, dutyOf out)

/-- The rest of an iteration that has found no emergency. -/
def control (h : Heater F) (temp : F) : Heater F :=
  let r := h.compute (h.target - temp)
  { r.1 with duty := r.2 }

/-- An iteration of `heater_task`. -/
def iterate (h : Heater F) (temp : F) : Heater F :=
  if h.emergency then { h with duty := 0 } else h.control temp

end Heater

end Heater

/-- `read_temperature`; `thermistor` converts a voltage, as a part of the whole. -/
def readTemperature (thermistor : ℚ → ℚ) (raw : ℤ) : ℚ :=
  let voltage : ℚ := raw / 4095
  if voltage ≤ 0 ∨ 1 ≤ voltage then -1 else thermistor voltage

/-! ### Exact numbers -/

theorem dutyOf_rat (out : ℚ) :
    dutyOf out = UInt8.ofNat (if out < 0 then 0 else if 255 < out then 255 else ⌊out⌋.toNat) := by
  have hzero : (0.0 : ℚ) = 0 := by norm_num
  have hmost : (255.0 : ℚ) = 255 := by norm_num
  have hcut : dutyOf out = UInt8.ofNat ⌊(if decide (out < 0.0) then 0.0
      else if decide (255.0 < out) then 255.0 else out : ℚ)⌋.toNat := rfl
  rw [hcut, hzero, hmost]
  simp only [decide_eq_true_eq]
  split_ifs <;> simp

theorem Heater.start_rat :
    (Heater.start : Heater ℚ) = ⟨0, 1, 1 / 10, 1 / 100, false, 0, 0, 0⟩ := by
  norm_num [Heater.start]

theorem Heater.control_rat (h : Heater ℚ) (temp : ℚ) :
    h.control temp =
      { h with
        integral := h.integral + (h.target - temp) * (1 / 10)
        prevErr := h.target - temp
        duty := dutyOf (h.kp * (h.target - temp) +
          h.ki * (h.integral + (h.target - temp) * (1 / 10)) +
            h.kd * ((h.target - temp - h.prevErr) / (1 / 10))) } := by
  have hdt : (1.0 / 10.0 : ℚ) = 1 / 10 := by norm_num
  have hcontrol : h.control temp =
      { h with
        integral := h.integral + (h.target - temp) * (1.0 / 10.0)
        prevErr := h.target - temp
        duty := dutyOf (h.kp * (h.target - temp) +
          h.ki * (h.integral + (h.target - temp) * (1.0 / 10.0)) +
            h.kd * ((h.target - temp - h.prevErr) / (1.0 / 10.0))) } := rfl
  rw [hcontrol, hdt]

/-- The output is cut to a whole number. -/
theorem dutyOf_eq_zero_iff (out : ℚ) : dutyOf out = 0 ↔ out < 1 := by
  have hofNat : ∀ n ≤ 255, UInt8.ofNat n = 0 ↔ n = 0 := fun n hn => by
    rw [← UInt8.toNat_inj, toNat_byte hn, UInt8.toNat_zero]
  rw [dutyOf_rat]
  by_cases hneg : out < 0
  · simp only [if_pos hneg]
    exact iff_of_true rfl (hneg.trans one_pos)
  · by_cases hbig : 255 < out
    · simp only [if_neg hneg, if_pos hbig]
      exact iff_of_false (by decide) (by linarith)
    · simp only [if_neg hneg, if_neg hbig]
      have hle : ⌊out⌋ ≤ 255 := Int.floor_le_iff.mpr (by push_cast; linarith)
      have hpos : 0 ≤ ⌊out⌋ := Int.le_floor.mpr (by push_cast; linarith)
      have hlt : ⌊out⌋ < 1 ↔ out < 1 := by simpa using Int.floor_lt (z := 1) (a := out)
      rw [hofNat _ (by omega), ← hlt]
      omega

/-- The weighted error, integral and derivative at this temperature come to less than one
step of the channel. -/
def Heater.Idle (h : Heater ℚ) (temp : ℚ) : Prop :=
  h.kp * (h.target - temp) + h.ki * (h.integral + (h.target - temp) / 10) +
    h.kd * (10 * (h.target - temp - h.prevErr)) < 1

theorem Heater.duty_control (h : Heater ℚ) (temp : ℚ) :
    (h.control temp).duty = 0 ↔ h.Idle temp := by
  have hout : (h.control temp).duty = dutyOf (h.kp * (h.target - temp) +
      h.ki * (h.integral + (h.target - temp) * (1 / 10)) +
        h.kd * ((h.target - temp - h.prevErr) / (1 / 10))) := by rw [Heater.control_rat]
  rw [hout, dutyOf_eq_zero_iff, Heater.Idle]
  constructor
  · intro hlt
    linarith
  · intro hlt
    linarith

/-! ## Off means off -/

/-- The heater, whether it has been switched off, and the errors that the controller has
seen, the latest first. -/
structure HeaterWorld where
  heater : Heater ℚ
  off : Bool
  errors : List ℚ

/-- What can happen. -/
inductive HeaterEvent
  /-- HEATER_SET, with gains that are not negative. -/
  | heaterSet (target kp ki kd : ℚ)
  /-- A disconnect. -/
  | emergencyOff
  /-- An iteration of the task, with what it measures. -/
  | iterate (temp : ℚ)

/-- A target of 0 switches the heater off, until there is a positive one. -/
def switchedOff (off : Bool) (target : ℚ) : Bool :=
  if target = 0 then true else if 0 < target then false else off

/-- The heater as a system of events. -/
def heaterWorld : System HeaterWorld HeaterEvent := fun w e =>
  match e with
  | .heaterSet target kp ki kd =>
      if 0 ≤ kp ∧ 0 ≤ ki ∧ 0 ≤ kd then
        some ⟨heaterSetPid (heaterSetTarget w.heater target) kp ki kd,
          switchedOff w.off target, w.errors⟩
      else none
  | .emergencyOff => some { w with heater := heaterEmergencyOff w.heater }
  | .iterate temp =>
      some { w with
        heater := w.heater.iterate temp
        errors := if w.heater.emergency then w.errors else (w.heater.target - temp) :: w.errors }

/-- Before the first event. -/
def HeaterWorld.start : HeaterWorld := ⟨Heater.start, false, []⟩

/-- The integral is the sum of all errors since the start, and the derivative is taken
against the latest. -/
structure HeaterWorld.Accumulates (w : HeaterWorld) : Prop where
  integral : w.heater.integral = w.errors.sum * (1 / 10)
  prevErr : w.heater.prevErr = w.errors.headD 0

theorem HeaterWorld.Accumulates.step {w w' : HeaterWorld} {e : HeaterEvent}
    (h : w.Accumulates) (hstep : heaterWorld w e = some w') : w'.Accumulates := by
  cases e with
  | heaterSet target kp ki kd =>
      simp only [heaterWorld] at hstep
      split at hstep
      · cases hstep
        exact ⟨h.integral, h.prevErr⟩
      · cases hstep
  | emergencyOff =>
      cases hstep
      exact ⟨h.integral, h.prevErr⟩
  | iterate temp =>
      cases hstep
      simp only [Heater.iterate]
      split
      · exact ⟨h.integral, h.prevErr⟩
      · refine ⟨?_, rfl⟩
        simp only [Heater.control_rat, h.integral, List.sum_cons]
        ring

/-- The state of a heater that is switched off and measures more than 0: what the errors
add up to, and the change since the latest, do not outweigh the present error. -/
def HeaterWorld.Outweighed (w : HeaterWorld) (temp : ℚ) : Prop :=
  w.heater.ki * (((w.heater.target - temp) :: w.errors).sum / 10) +
      w.heater.kd * (10 * (w.heater.target - temp - w.errors.headD 0)) <
    1 + w.heater.kp * (temp - w.heater.target)

/-- **Off means off** exactly when at each iteration of a heater that is switched off,
and for which no emergency is raised, the errors since the start are outweighed. -/
theorem off_means_off_iff (es : List HeaterEvent) :
    System.Along heaterWorld (fun w e w' => w.off = true → ∀ temp, e = .iterate temp →
        0 < temp → w'.heater.duty = 0) HeaterWorld.start es ↔
      System.Along heaterWorld (fun w e _ => w.off = true → ∀ temp, e = .iterate temp →
        0 < temp → w.heater.emergency = false → w.Outweighed temp) HeaterWorld.start es := by
  refine System.along_iff HeaterWorld.Accumulates (fun _ => True) _ _
    (fun w e w' h hstep => h.step hstep) ?_ (fun _ _ _ _ _ _ _ => trivial) es _
    ⟨by simp [HeaterWorld.start, Heater.start_rat], by simp [HeaterWorld.start, Heater.start_rat]⟩
    trivial
  intro w e w' h _ hstep
  refine imp_congr_right fun _ => forall₂_congr fun temp he => imp_congr_right fun _ => ?_
  subst he
  cases hstep
  cases hemergency : w.heater.emergency with
  | true => simp [Heater.iterate, hemergency]
  | false =>
      have hduty := w.heater.duty_control temp
      simp only [Heater.iterate, hemergency, Bool.false_eq_true, if_false, hduty, Heater.Idle,
        h.integral, h.prevErr, HeaterWorld.Outweighed, List.sum_cons, forall_const]
      constructor
      · intro hlt
        linarith
      · intro hlt
        linarith

/-- It heats up for a tenth of a second, is switched off, and goes on heating. -/
theorem switchedOff_heats :
    ¬ System.Along heaterWorld (fun w e w' => w.off = true → ∀ temp, e = .iterate temp →
        0 < temp → w'.heater.duty = 0) HeaterWorld.start
      [.heaterSet 200 1 10 0, .iterate 20, .heaterSet 0 1 10 0, .iterate 20] := by
  norm_num [System.Along, heaterWorld, HeaterWorld.start, Heater.start_rat, heaterSetPid,
    heaterSetTarget, switchedOff, Heater.iterate, Heater.control_rat, dutyOf_eq_zero_iff]

/-! ## A broken sensor -/

/-- A reading at a rail: an open or a shorted thermistor. -/
def Rail (raw : ℤ) : Prop := raw = 0 ∨ raw = 4095

/-- `read_temperature` reports it as -1. -/
theorem readTemperature_rail (thermistor : ℚ → ℚ) {raw : ℤ} (h : Rail raw) :
    readTemperature thermistor raw = -1 := by
  rcases h with rfl | rfl <;> norm_num [readTemperature]

/-- The iterations of the task, by what the converter reads. -/
def heaterTask (thermistor : ℚ → ℚ) : System (Heater ℚ) ℤ := fun h raw =>
  some (h.iterate (readTemperature thermistor raw))

/-- There is an emergency, or the target is not above -1 and the weighted error, integral
and derivative come to less than one step of the channel, at the next reading of -1 and at
the one after it. -/
def Heater.Quiet (h : Heater ℚ) : Prop :=
  h.emergency = true ∨ h.target ≤ -1 ∧
    h.kp * (h.target + 1) + h.ki * (h.integral + (h.target + 1) / 10) +
      h.kd * (10 * (h.target + 1 - h.prevErr)) < 1 ∧
    h.kp * (h.target + 1) + h.ki * (h.integral + (h.target + 1) / 5) < 1

/-- What one iteration does when the sensor is broken. -/
theorem Heater.iterate_rail_iff (h : Heater ℚ) :
    ((h.iterate (-1)).duty = 0 ∧ (h.iterate (-1)).integral ≤ h.integral) ↔
      h.emergency = true ∨ h.target ≤ -1 ∧
        h.kp * (h.target + 1) + h.ki * (h.integral + (h.target + 1) / 10) +
          h.kd * (10 * (h.target + 1 - h.prevErr)) < 1 := by
  cases hemergency : h.emergency with
  | true => simp [Heater.iterate, hemergency]
  | false =>
      have hduty := h.duty_control (-1)
      have hintegral : (h.control (-1)).integral = h.integral + (h.target - -1) * (1 / 10) := by
        rw [Heater.control_rat]
      simp only [Heater.iterate, hemergency, Bool.false_eq_true, if_false, false_or, hduty,
        Heater.Idle, hintegral]
      constructor
      · intro hand
        exact ⟨by linarith [hand.2], by linarith [hand.1]⟩
      · intro hand
        exact ⟨by linarith [hand.2], by linarith [hand.1]⟩

/-- From the second iteration on the outputs fall. -/
theorem Heater.Quiet.iterate {h : Heater ℚ} (hquiet : h.Quiet) (hki : 0 ≤ h.ki) :
    (h.iterate (-1)).Quiet := by
  rcases hquiet with hemergency | ⟨htarget, hfirst, hsecond⟩
  · exact .inl (by rw [Heater.iterate, if_pos hemergency]; exact hemergency)
  · cases hemergency : h.emergency with
    | true => exact .inl (by rw [Heater.iterate, if_pos hemergency]; exact hemergency)
    | false =>
        have herr : h.ki * (h.target + 1) ≤ 0 :=
          mul_nonpos_of_nonneg_of_nonpos hki (by linarith)
        refine .inr ⟨?_, ?_, ?_⟩
        all_goals simp only [Heater.iterate, hemergency, Bool.false_eq_true, if_false,
          Heater.control_rat]
        · exact htarget
        · linarith
        · linarith

theorem Heater.ki_iterate (h : Heater ℚ) (temp : ℚ) : (h.iterate temp).ki = h.ki := by
  rw [Heater.iterate]
  split <;> rfl

theorem heaterTask_rail (thermistor : ℚ → ℚ) (h : Heater ℚ) {raw : ℤ} (hraw : Rail raw) :
    heaterTask thermistor h raw = some (h.iterate (-1)) := by
  simp only [heaterTask, readTemperature_rail thermistor hraw]

/-- **A broken sensor does not heat**, and the integral does not rise while it is broken,
exactly from the controller states that are quiet. -/
theorem broken_sensor_iff (thermistor : ℚ → ℚ) (h : Heater ℚ) (hki : 0 ≤ h.ki) :
    (∀ raws, (∀ raw ∈ raws, Rail raw) → System.Along (heaterTask thermistor)
        (fun h _ h' => h'.duty = 0 ∧ h'.integral ≤ h.integral) h raws) ↔ h.Quiet := by
  constructor
  · intro hall
    -- two readings are enough
    have hraw : Rail 0 := .inl rfl
    have htwice := hall [0, 0] (by simp [hraw])
    rw [System.along_cons (heaterTask_rail thermistor h hraw),
      System.along_cons (heaterTask_rail thermistor _ hraw), Heater.iterate_rail_iff,
      Heater.iterate_rail_iff] at htwice
    obtain ⟨hemergency | ⟨htarget, hfirst⟩, hsecond, -⟩ := htwice
    · exact .inl hemergency
    · cases hemergency : h.emergency with
      | true => exact .inl hemergency
      | false =>
          simp only [Heater.iterate, hemergency, Bool.false_eq_true, if_false, Heater.control_rat,
            false_or] at hsecond
          exact .inr ⟨htarget, hfirst, by linarith [hsecond.2]⟩
  · intro hquiet raws
    induction raws generalizing h with
    | nil => intro _; exact System.along_nil _ h
    | cons raw raws ih =>
        intro hrails
        obtain ⟨hraw, hrest⟩ := List.forall_mem_cons.mp hrails
        rw [System.along_cons (heaterTask_rail thermistor h hraw), Heater.iterate_rail_iff]
        refine ⟨hquiet.imp_right fun hout => ⟨hout.1, hout.2.1⟩, ?_⟩
        exact ih _ (by rw [Heater.ki_iterate]; exact hki) (hquiet.iterate hki) hrest

/-- A heater that is told to cool to -5 degrees is quiet. -/
theorem broken_sensor_iff_cold :
    System.Along (heaterTask fun _ => 25) (fun h _ h' => h'.duty = 0 ∧ h'.integral ≤ h.integral)
      { Heater.start with target := -5 } [0, 4095, 0] := by
  refine (broken_sensor_iff _ _ ?_).mpr (.inr ?_) _ (by simp [Rail]) <;> norm_num [Heater.start_rat]

/-- With a target of 250 degrees an open thermistor is full power. -/
theorem openThermistor_heats :
    ¬ ∀ raws, (∀ raw ∈ raws, Rail raw) → System.Along (heaterTask fun _ => 25)
      (fun h _ h' => h'.duty = 0 ∧ h'.integral ≤ h.integral)
      { Heater.start with target := 250 } raws := by
  intro hall
  have hraw : Rail 0 := .inl rfl
  have hfirst := ((System.along_cons (heaterTask_rail _ _ hraw)).mp (hall [0] (by simp [hraw]))).1.1
  norm_num [Heater.iterate, Heater.start_rat, Heater.control_rat, dutyOf_eq_zero_iff] at hfirst

end Klippylink
