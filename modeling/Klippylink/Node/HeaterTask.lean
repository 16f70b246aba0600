import Klippylink.Node.EmergencyOff
import Mathlib.Data.List.Chain
import Mathlib.Tactic.GCongr

/-!
# The heater task over its runs

An iteration controls, and then compares the tick count with that of its latest report: half a
second later it reports again.  The counts have 32 bits, and so has the product that turns a
difference into milliseconds; the server may call in between.

## Main definitions

* `notifyDue`, `HeaterTask`, `heaterTicks` — the task beside the server's calls, over the time.
* `reports_keep_time` — the reports are half a second apart, and never older than that.
* `Band`, `Heater.Regulated` — what bounds on the error leave of the output.
* `duty_in_band` — the duty after any number of iterations.
* `overheated_goes_off` — a heater that stays too hot is off after a known number of them.
-/

namespace Klippylink

open Lib

/-! ## The reports -/

/-- `NOTIFY_INTERVAL_MS`. -/
def notifyIntervalMs : ℕ := 500

/-- The comparison of the tick counts; `period` is `portTICK_PERIOD_MS`. -/
def notifyDue (period now lastNotify : UInt32) : Bool :=
  decide (UInt32.ofNat notifyIntervalMs ≤ (now - lastNotify) * period)

/-- What is reported, and when. -/
structure HeaterReport (F : Type) where
  clock : ℕ
  temp : F
  target : F
  duty : UInt8

/-- The task, the ticks since the boot, and what it has reported, the latest first. -/
structure HeaterTask (F : Type) where
  clock : ℕ
  heater : Heater F
  /-- `temp` and `duty` of an iteration that has still to compare the counts. -/
  measured : Option (F × UInt8)
  lastNotify : UInt32
  /-- When the counts were last compared, or the task was started. -/
  checked : ℕ
  sent : List (HeaterReport F)

/-- What can happen. -/
inductive HeaterTaskEvent (F : Type)
  /-- Time goes by. -/
  | elapse (ticks : ℕ)
  /-- A call of the server. -/
  | call (c : NodeCall)
  /-- An iteration, up to the duty. -/
  | control (temp : F)
  /-- The rest of it. -/
  | notify

section Ticks

variable {F : Type}

namespace HeaterTask

/-- The task is started at a tick. -/
def start (heater : Heater F) (started : ℕ) : HeaterTask F :=
  ⟨started, heater, none, UInt32.ofNat started, started, []⟩

/-- An iteration with an emergency writes 0 and is over. -/
def control [CFloat F] (t : HeaterTask F) (temp : F) : HeaterTask F :=
  if t.heater.emergency then { t with heater := { t.heater with duty := 0 } }
  else
    let h := t.heater.control temp
    { t with heater := h, measured := some (temp, h.duty) }

/-- The report carries the target of now, which the server may have changed meanwhile. -/
def notify (period : UInt32) (t : HeaterTask F) (temp : F) (duty : UInt8) : HeaterTask F :=
  let t := { t with measured := none, checked := t.clock }
  if notifyDue period (UInt32.ofNat t.clock) t.lastNotify then
    { t with
      lastNotify := UInt32.ofNat t.clock
      sent := ⟨t.clock, temp, t.heater.target, duty⟩ :: t.sent }
  else t

/-- The clock at the latest report, or at the start. -/
def latest (t : HeaterTask F) (started : ℕ) : ℕ :=
  (t.sent.map HeaterReport.clock ++ [started]).headD started

end HeaterTask

/-- The task as a system of events. -/
def heaterTicks [CFloat F] (float : UInt32 → F) (period : UInt32) :
    System (HeaterTask F) (HeaterTaskEvent F) := fun t e =>
    match e with
    | .elapse ticks => some { t with clock := t.clock + ticks }
    | .call c => some { t with heater := t.heater.perform float c }
    | .control temp => if t.measured.isNone then some (t.control temp) else none
    | .notify => t.measured.map fun m => t.notify period m.1 m.2

/-- The milliseconds from one tick to another, which the source computes in 32 bits. -/
theorem toNat_ticks {a b : ℕ} (h : b ≤ a) (period : UInt32) :
    ((UInt32.ofNat a - UInt32.ofNat b) * period).toNat = (a - b) * period.toNat % 2 ^ 32 := by
  rw [UInt32.toNat_mul, ← UInt32.ofNat_sub h, UInt32.toNat_ofNat', Nat.mod_mul_mod]

theorem notifyDue_iff {a b : ℕ} (h : b ≤ a) (period : UInt32) :
    notifyDue period (UInt32.ofNat a) (UInt32.ofNat b) = true ↔
      notifyIntervalMs ≤ (a - b) * period.toNat % 2 ^ 32 := by
  rw [notifyDue, decide_eq_true_iff, UInt32.le_iff_toNat_le, toNat_ticks h]
  rfl

/-- Half a second is between the one and the other. -/
def HalfSecond (period : UInt32) (later earlier : ℕ) : Prop :=
  notifyIntervalMs ≤ (later - earlier) * period.toNat

/-- The count that the task keeps is that of its latest report, and the reports are half a second
apart. -/
structure HeaterTask.KeepsTime (period : UInt32) (started : ℕ) (t : HeaterTask F) : Prop where
  lastNotify : t.lastNotify = UInt32.ofNat (t.latest started)
  latest_le : t.latest started ≤ t.checked
  checked_le : t.checked ≤ t.clock
  spaced : (t.sent.map HeaterReport.clock ++ [started]).IsChain (HalfSecond period)

theorem HeaterTask.keepsTime_start (period : UInt32) (heater : Heater F) (started : ℕ) :
    (HeaterTask.start heater started).KeepsTime period started :=
  ⟨rfl, le_rfl, le_rfl, List.isChain_singleton started⟩

/-- What a step does to the reports: nothing, unless it compares the counts. -/
theorem heaterTicks_cases [CFloat F] {float : UInt32 → F} {period : UInt32} {t t' : HeaterTask F}
    {e : HeaterTaskEvent F} (hstep : heaterTicks float period t e = some t') :
    (e ≠ .notify ∧ t'.sent = t.sent ∧ t'.lastNotify = t.lastNotify ∧ t'.checked = t.checked ∧
      t.clock ≤ t'.clock) ∨
    e = .notify ∧ ∃ temp duty, t' = t.notify period temp duty := by
  cases e with
  | elapse ticks =>
      cases hstep
      exact .inl ⟨by simp, rfl, rfl, rfl, Nat.le_add_right _ _⟩
  | call c =>
      cases hstep
      exact .inl ⟨by simp, rfl, rfl, rfl, le_rfl⟩
  | control temp =>
      simp only [heaterTicks] at hstep
      split at hstep
      · cases hstep
        refine .inl ⟨by simp, ?_⟩
        rw [HeaterTask.control]
        split
        · exact ⟨rfl, rfl, rfl, le_rfl⟩
        · exact ⟨rfl, rfl, rfl, le_rfl⟩
      · cases hstep
  | notify =>
      obtain ⟨m, -, ht'⟩ := Option.map_eq_some_iff.mp hstep
      exact .inr ⟨rfl, m.1, m.2, ht'.symm⟩

namespace HeaterTask

variable {period : UInt32} {started : ℕ} {t t' : HeaterTask F}

/-- A comparison reports, or finds that it is too early. -/
theorem notify_cases (h : t.KeepsTime period started) (temp : F) (duty : UInt8) :
    (notifyIntervalMs ≤ (t.clock - t.latest started) * period.toNat % 2 ^ 32 ∧
      t.notify period temp duty =
        { t with
          measured := none
          checked := t.clock
          lastNotify := UInt32.ofNat t.clock
          sent := ⟨t.clock, temp, t.heater.target, duty⟩ :: t.sent }) ∨
    ((t.clock - t.latest started) * period.toNat % 2 ^ 32 < notifyIntervalMs ∧
      t.notify period temp duty = { t with measured := none, checked := t.clock }) := by
  have hdue := notifyDue_iff (h.latest_le.trans h.checked_le) period
  simp only [notify, h.lastNotify]
  split
  · next hnow => exact .inl ⟨hdue.mp hnow, rfl⟩
  · next hnow => exact .inr ⟨not_le.mp (mt hdue.mpr hnow), by simp⟩

/-- A step that compares nothing. -/
theorem KeepsTime.frame (h : t.KeepsTime period started) (hsent : t'.sent = t.sent)
    (hlast : t'.lastNotify = t.lastNotify) (hchecked : t'.checked = t.checked)
    (hclock : t.clock ≤ t'.clock) : t'.KeepsTime period started := by
  have hlatest : t'.latest started = t.latest started := by rw [latest, latest, hsent]
  refine ⟨?_, ?_, ?_, ?_⟩
  · rw [hlast, hlatest, h.lastNotify]
  · rw [hlatest, hchecked]
    exact h.latest_le
  · rw [hchecked]
    exact h.checked_le.trans hclock
  · rw [hsent]
    exact h.spaced

theorem KeepsTime.notify (h : t.KeepsTime period started) (temp : F) (duty : UInt8) :
    (t.notify period temp duty).KeepsTime period started := by
  rcases notify_cases h temp duty with ⟨hdue, hnotify⟩ | ⟨-, hnotify⟩
  · rw [hnotify]
    refine ⟨rfl, le_rfl, le_rfl, ?_⟩
    rw [List.map_cons, List.cons_append, List.isChain_cons]
    refine ⟨fun earlier hearlier => ?_, h.spaced⟩
    have hlatest : t.latest started = earlier := by
      rw [latest, List.headD_eq_head?_getD, Option.mem_def.mp hearlier, Option.getD_some]
    rw [← hlatest]
    exact hdue.trans (Nat.mod_le _ _)
  · rw [hnotify]
    exact ⟨h.lastNotify, h.latest_le.trans h.checked_le, le_rfl, h.spaced⟩

theorem KeepsTime.step [CFloat F] {float : UInt32 → F} {e : HeaterTaskEvent F}
    (h : t.KeepsTime period started) (hstep : heaterTicks float period t e = some t') :
    t'.KeepsTime period started := by
  rcases heaterTicks_cases hstep with ⟨-, hsent, hlast, hchecked, hclock⟩ | ⟨-, temp, duty, rfl⟩
  · exact h.frame hsent hlast hchecked hclock
  · exact h.notify temp duty

/-- When the counts were last compared, the latest report was less than half a second old. -/
def Fresh (period : UInt32) (started : ℕ) (t : HeaterTask F) : Prop :=
  (t.checked - t.latest started) * period.toNat < notifyIntervalMs

/-- Less than 49 days have gone by since the last comparison: no longer emergency. -/
def Prompt (period : UInt32) (t : HeaterTask F) : Prop :=
  (t.clock - t.checked) * period.toNat + notifyIntervalMs ≤ 2 ^ 32

theorem Fresh.notify (hfresh : t.Fresh period started) (h : t.KeepsTime period started)
    (hprompt : t.Prompt period) (temp : F) (duty : UInt8) :
    (t.notify period temp duty).Fresh period started := by
  rcases notify_cases h temp duty with ⟨-, hnotify⟩ | ⟨hearly, hnotify⟩
  · simp [hnotify, Fresh, latest, notifyIntervalMs]
  · -- the product has not wrapped
    have hsplit : t.clock - t.latest started =
        (t.clock - t.checked) + (t.checked - t.latest started) := by
      have hlatest := h.latest_le
      have hchecked := h.checked_le
      omega
    have hsmall : (t.clock - t.latest started) * period.toNat < 2 ^ 32 := by
      rw [hsplit, Nat.add_mul]
      exact (Nat.add_lt_add_left hfresh _).trans_le hprompt
    rw [Nat.mod_eq_of_lt hsmall] at hearly
    rw [hnotify]
    exact hearly

end HeaterTask

/-- **Reports keep time.**  Whatever the server calls in between, and however often the counts
wrap, the reports are at least half a second apart; and as long as the task gets to compare the
counts, it never leaves a report behind that is half a second old. -/
theorem reports_keep_time [CFloat F] (float : UInt32 → F) (period : UInt32) (heater : Heater F)
    (started : ℕ) {es : List (HeaterTaskEvent F)} {t : HeaterTask F}
    (hrun : System.run (heaterTicks float period) (HeaterTask.start heater started) es = some t) :
    (t.sent.map HeaterReport.clock ++ [started]).IsChain (HalfSecond period) ∧
      (System.Along (heaterTicks float period) (fun t e _ => e = .notify → t.Prompt period)
        (HeaterTask.start heater started) es → t.Fresh period started) := by
  have hstart := HeaterTask.keepsTime_start period heater started
  refine ⟨(System.run_induction (fun t : HeaterTask F => t.KeepsTime period started)
    (fun _ _ _ h hstep => h.step hstep) es _ _ hstart hrun).spaced, fun hprompt => ?_⟩
  refine (System.Along.induction
    (fun t : HeaterTask F => t.KeepsTime period started ∧ t.Fresh period started) ?_ es _ _
    ⟨hstart, ?_⟩ hprompt hrun).2
  · rintro t e t' ⟨h, hfresh⟩ hstep hguard
    refine ⟨h.step hstep, ?_⟩
    rcases heaterTicks_cases hstep with ⟨-, hsent, -, hchecked, -⟩ | ⟨he, temp, duty, rfl⟩
    · rw [HeaterTask.Fresh, HeaterTask.latest, hsent, hchecked]
      exact hfresh
    · exact hfresh.notify h (hguard he) temp duty
  · simp [HeaterTask.start, HeaterTask.Fresh, HeaterTask.latest, notifyIntervalMs]

end Ticks

/-- The count wraps before the first report, at ten milliseconds a tick. -/
theorem reports_keep_time_wrap : ∃ t,
    System.run (heaterTicks floatValue 10) (HeaterTask.start Heater.start 4294967200)
      [.elapse 200, .control 20, .notify] = some t ∧
    (t.sent.map HeaterReport.clock ++ [4294967200]).IsChain (HalfSecond 10) ∧
    t.sent.map HeaterReport.clock = [4294967400] ∧ t.Fresh 10 4294967200 := by
  have hkept := @reports_keep_time ℚ _ floatValue 10 Heater.start 4294967200
    [.elapse 200, .control 20, .notify] _ rfl
  exact ⟨_, rfl, hkept.1, rfl,
    hkept.2 ⟨nofun, nofun, fun _ => Nat.le_of_ble_eq_true rfl, trivial⟩⟩

/-! ## The output -/

theorem toNat_dutyOf (out : ℚ) : (dutyOf out).toNat = min ⌊out⌋₊ 255 := by
  have hofNat : ∀ n ≤ 255, (UInt8.ofNat n).toNat = n := fun n hn => toNat_byte hn
  rw [dutyOf_rat]
  split
  · next hneg => rw [Nat.floor_of_nonpos hneg.le]; rfl
  · split
    · next hbig =>
        have hfloor : 255 ≤ ⌊out⌋₊ := Nat.le_floor (by exact_mod_cast hbig.le)
        rw [hofNat 255 le_rfl, Nat.min_eq_right hfloor]
    · next hsmall =>
        have hfloor : ⌊out⌋₊ ≤ 255 := Nat.floor_le_of_le (by exact_mod_cast not_lt.mp hsmall)
        rw [Int.floor_toNat, hofNat _ hfloor, Nat.min_eq_left hfloor]

/-- A greater output is no lower duty. -/
theorem dutyOf_mono {out out' : ℚ} (h : out ≤ out') : dutyOf out ≤ dutyOf out' := by
  rw [UInt8.le_iff_toNat_le, toNat_dutyOf, toNat_dutyOf]
  exact min_le_min_right 255 (Nat.floor_mono h)

/-- Bounds on the error, and on its change from one iteration to the next. -/
structure Band where
  low : ℚ
  high : ℚ
  fall : ℚ
  rise : ℚ

namespace Heater

/-- A temperature keeps the error in the band. -/
def Keeps (b : Band) (h : Heater ℚ) (temp : ℚ) : Prop :=
  b.low ≤ h.target - temp ∧ h.target - temp ≤ b.high ∧
    b.fall ≤ h.target - temp - h.prevErr ∧ h.target - temp - h.prevErr ≤ b.rise

/-- The output for an error, its change, and the integral. -/
def output (h : Heater ℚ) (err change integral : ℚ) : ℚ :=
  h.kp * err + h.ki * integral + h.kd * (10 * change)

theorem output_mono (h : Heater ℚ) (hkp : 0 ≤ h.kp) (hki : 0 ≤ h.ki) (hkd : 0 ≤ h.kd)
    {err err' change change' integral integral' : ℚ} (herr : err ≤ err')
    (hchange : change ≤ change') (hintegral : integral ≤ integral') :
    h.output err change integral ≤ h.output err' change' integral' := by
  rw [output, output]
  gcongr

theorem duty_control_output (h : Heater ℚ) (temp : ℚ) :
    (h.control temp).duty = dutyOf (h.output (h.target - temp) (h.target - temp - h.prevErr)
      (h.integral + (h.target - temp) / 10)) := by
  have hout : (h.control temp).duty = dutyOf (h.kp * (h.target - temp) +
      h.ki * (h.integral + (h.target - temp) * (1 / 10)) +
        h.kd * ((h.target - temp - h.prevErr) / (1 / 10))) := by rw [control_rat]
  rw [hout, output]
  congr 1
  ring

/-- The output in the band, at the least and at the most, after some iterations. -/
def least (b : Band) (h : Heater ℚ) (n : ℕ) : ℚ :=
  h.output b.low b.fall (h.integral + n * (b.low / 10))

def most (b : Band) (h : Heater ℚ) (n : ℕ) : ℚ :=
  h.output b.high b.rise (h.integral + n * (b.high / 10))

/-- What some iterations in the band have made of a heater. -/
structure Regulated (b : Band) (h : Heater ℚ) (n : ℕ) (g : Heater ℚ) : Prop where
  target : g.target = h.target
  kp : g.kp = h.kp
  ki : g.ki = h.ki
  kd : g.kd = h.kd
  emergency : g.emergency = false
  low : h.integral + n * (b.low / 10) ≤ g.integral
  high : g.integral ≤ h.integral + n * (b.high / 10)
  duty : 0 < n → dutyOf (h.least b n) ≤ g.duty ∧ g.duty ≤ dutyOf (h.most b n)

theorem regulated_zero (b : Band) {h : Heater ℚ} (hon : h.emergency = false) :
    h.Regulated b 0 h := by
  refine ⟨rfl, rfl, rfl, rfl, hon, ?_, ?_, fun hpos => absurd hpos (lt_irrefl 0)⟩
  · simp
  · simp

/-- One more iteration: the error, its change and the integral are all within their bounds. -/
theorem Regulated.iterate {b : Band} {h g : Heater ℚ} {n : ℕ} {temp : ℚ}
    (hreg : h.Regulated b n g) (hkp : 0 ≤ h.kp) (hki : 0 ≤ h.ki) (hkd : 0 ≤ h.kd)
    (hkeeps : g.Keeps b temp) : h.Regulated b (n + 1) (g.iterate temp) := by
  obtain ⟨hlow, hhigh, hfall, hrise⟩ := hkeeps
  have hiterate : g.iterate temp = g.control temp := by
    rw [Heater.iterate, hreg.emergency]
    rfl
  have hintegral : (g.control temp).integral = g.integral + (g.target - temp) / 10 := by
    rw [control_rat]
    ring
  have hleast : h.integral + (n + 1 : ℕ) * (b.low / 10) ≤ g.integral + (g.target - temp) / 10 := by
    have hbefore := hreg.low
    push_cast
    linarith
  have hmost : g.integral + (g.target - temp) / 10 ≤ h.integral + (n + 1 : ℕ) * (b.high / 10) := by
    have hbefore := hreg.high
    push_cast
    linarith
  have houtput : ∀ err change integral,
      g.output err change integral = h.output err change integral := by
    intro err change integral
    rw [output, output, hreg.kp, hreg.ki, hreg.kd]
  rw [hiterate]
  refine ⟨hreg.target, hreg.kp, hreg.ki, hreg.kd, hreg.emergency, ?_, ?_, fun _ => ?_⟩
  · rw [hintegral]
    exact hleast
  · rw [hintegral]
    exact hmost
  · rw [duty_control_output, houtput]
    exact ⟨dutyOf_mono (h.output_mono hkp hki hkd hlow hfall hleast),
      dutyOf_mono (h.output_mono hkp hki hkd hhigh hrise hmost)⟩

/-- And any number of them. -/
theorem Regulated.run {thermistor : ℚ → ℚ} {b : Band} {h : Heater ℚ} (hkp : 0 ≤ h.kp)
    (hki : 0 ≤ h.ki) (hkd : 0 ≤ h.kd) {raws : List ℤ} :
    ∀ {n : ℕ} {g g' : Heater ℚ}, h.Regulated b n g →
      System.Along (heaterTask thermistor)
        (fun g raw _ => g.Keeps b (readTemperature thermistor raw)) g raws →
      System.run (heaterTask thermistor) g raws = some g' →
      h.Regulated b (n + raws.length) g' := by
  induction raws with
  | nil =>
      intro n g g' hreg _ hrun
      cases hrun
      exact hreg
  | cons raw raws ih =>
      intro n g g' hreg halong hrun
      obtain ⟨g₁, hstep, hrest⟩ := System.run_cons_eq_some.mp hrun
      obtain ⟨hkeeps, halong'⟩ := (System.along_cons hstep).mp halong
      cases hstep
      have hnext := ih (hreg.iterate hkp hki hkd hkeeps) halong' hrest
      rwa [Nat.add_right_comm] at hnext

end Heater

section Band

variable (thermistor : ℚ → ℚ) {b : Band} {h g : Heater ℚ} {raws : List ℤ}

/-- **The duty in a band.**  While the target and the gains stay as they are, any number of
iterations that keep the error and its change within bounds write a duty between the two that
the bounds stand for. -/
theorem duty_in_band (hon : h.emergency = false) (hkp : 0 ≤ h.kp) (hki : 0 ≤ h.ki)
    (hkd : 0 ≤ h.kd) (hraws : raws ≠ [])
    (hkeeps : System.Along (heaterTask thermistor)
      (fun g raw _ => g.Keeps b (readTemperature thermistor raw)) h raws)
    (hrun : System.run (heaterTask thermistor) h raws = some g) :
    dutyOf (h.least b raws.length) ≤ g.duty ∧ g.duty ≤ dutyOf (h.most b raws.length) := by
  have hreg := (Heater.regulated_zero b hon).run hkp hki hkd hkeeps hrun
  rw [Nat.zero_add] at hreg
  exact hreg.duty (List.length_pos_iff.mpr hraws)

/-- A heater for 20 degrees. -/
def at20 : Heater ℚ := { Heater.start with target := 20 }

/-- It is 5 degrees too hot, for two iterations. -/
theorem duty_in_band_hot : ∃ g, System.run (heaterTask fun _ => 25) at20 [100, 100] = some g ∧
    dutyOf (at20.least ⟨-5, -5, -5, 0⟩ 2) ≤ g.duty ∧
    g.duty ≤ dutyOf (at20.most ⟨-5, -5, -5, 0⟩ 2) := by
  have hkeeps : System.Along (heaterTask fun _ => 25)
      (fun g raw _ => g.Keeps ⟨-5, -5, -5, 0⟩ (readTemperature (fun _ => 25) raw)) at20
      [100, 100] := by
    norm_num [at20, Heater.start_rat, System.Along, heaterTask, Heater.Keeps, readTemperature,
      Heater.iterate, Heater.control_rat]
  have hgains : 0 ≤ at20.kp ∧ 0 ≤ at20.ki ∧ 0 ≤ at20.kd := by norm_num [at20, Heater.start_rat]
  have hrun : ∃ g, System.run (heaterTask fun _ => 25) at20 [100, 100] = some g := ⟨_, rfl⟩
  obtain ⟨g, hg⟩ := hrun
  have hduty := duty_in_band (fun _ => 25) rfl hgains.1 hgains.2.1 hgains.2.2 (by simp) hkeeps hg
  exact ⟨g, hg, hduty⟩

/-- **Wind-up comes to an end.**  Whatever the integral has grown to, a heater that stays too hot
by some margin is off once the margin has worn it down. -/
theorem overheated_goes_off (hon : h.emergency = false) (hkp : 0 ≤ h.kp) (hki : 0 ≤ h.ki)
    (hkd : 0 ≤ h.kd) (hraws : raws ≠ [])
    (hkeeps : System.Along (heaterTask thermistor)
      (fun g raw _ => g.Keeps b (readTemperature thermistor raw)) h raws)
    (hrun : System.run (heaterTask thermistor) h raws = some g)
    (hlong : h.output b.high b.rise h.integral < 1 + raws.length * (h.ki * (-b.high / 10))) :
    g.duty = 0 := by
  have hreg := (Heater.regulated_zero b hon).run hkp hki hkd hkeeps hrun
  rw [Nat.zero_add] at hreg
  have hmost : h.most b raws.length < 1 := by
    rw [Heater.output] at hlong
    rw [Heater.most, Heater.output]
    linarith
  have hduty := (hreg.duty (List.length_pos_iff.mpr hraws)).2
  rw [(dutyOf_eq_zero_iff _).mpr hmost] at hduty
  exact UInt8.le_antisymm hduty (UInt8.zero_le)

end Band

end Klippylink
