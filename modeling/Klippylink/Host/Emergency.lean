import Klippylink.Host.HeartbeatMonitor

/-!
# The host's emergencies, one await at a time

`HeartbeatMonitor.run` is a coroutine.  It copies the items of `_heater_active`, goes
through the copy, and is suspended in `call_macro` whenever a heater has gone silent.
While it is, heaters are switched on and off.  When it goes on it makes the heater
inactive, whatever has happened since, and whatever came of the request: `call_macro`
catches what the request raises.

Here every item and every return of `call_macro` is a step, and the rest of the host may
act in between.  A wake-up that nothing interrupts is `HeartbeatMonitor.tick`.

## Main definitions

* `RunPoint` — where `run` is.
* `monitorRun` — `run` and the rest of the host as a system of events.
* `MonitorRun.DisarmsRightly` — a heater is made inactive only when it is switched off, or
  for an emergency of its own that was delivered.
* `MonitorRun.RunStep` — what a step can be.
* `MonitorRun.disarmsRightly_along_iff` — when it is.
-/

namespace Klippylink

open Lib

/-- What comes of the request of `call_macro`: `post` and `raise_for_status` return, or
one of them raises, which `call_macro` logs. -/
inductive MacroOutcome
  | succeeded
  | raised
  deriving DecidableEq

/-- Where `run` is: in `asyncio.sleep`, before the next of the copied items, or in the
`call_macro` of a node. -/
inductive RunPoint
  | asleep
  | looping (now : ℕ) (items : List (ℤ × Bool))
  | awaiting (nodeId : ℤ) (now : ℕ) (items : List (ℤ × Bool))

/-- The host: the table of nodes, the monitor, where `run` is and what it has done so far.
Beside it, what the events say: how often each heater has been set active; and, for the
request that `run` is waiting for, its heater's number when it was raised and the calls of
`set_heater_active` since. -/
structure MonitorRun (C : Type) where
  manager : DeviceManager
  monitor : HeartbeatMonitor C
  point : RunPoint
  done : List MonitorAction
  activation : ℤ → ℕ
  raised : ℕ
  since : List (ℤ × Bool)

/-- What can happen: a call or a packet, at a time, or `run` going on. -/
inductive RunEvent (C : Type)
  | setHeaterActive (nodeId : ℤ) (active : Bool) (cfg : Option C) (now : ℕ)
  | heartbeatResponse (nodeId : ℤ) (now : ℕ)
  | packet (f : Frame) (now : ℕ)
  /-- `asyncio.sleep` returns. -/
  | wakeUp (now : ℕ)
  /-- The next item, with what the port then is and does. -/
  | item (transport : SerialTransport) (raises : ℤ → Bool)
  /-- `call_macro` returns. -/
  | macroDone (outcome : MacroOutcome)

namespace MonitorRun

variable {C : Type}

/-- A new monitor beside a table of nodes. -/
def start (manager : DeviceManager) : MonitorRun C :=
  ⟨manager, .start, .asleep, [], fun _ => 0, 0, []⟩

/-- A call of `set_heater_active`. -/
def onSetHeaterActive (w : MonitorRun C) (nodeId : ℤ) (active : Bool) (cfg : Option C)
    (now : ℕ) : MonitorRun C :=
  { w with
    monitor := w.monitor.setHeaterActive nodeId active cfg now
    activation := if active then
      Function.update w.activation nodeId (w.activation nodeId + 1) else w.activation
    since := w.since ++ [(nodeId, active)] }

/-- The step of `run` for one item. -/
def onItem (w : MonitorRun C) (x : WakeUp) (nodeId : ℤ) (active : Bool)
    (items : List (ℤ × Bool)) : MonitorRun C :=
  let r := w.monitor.tickUntilAwait w.manager x nodeId active
  if r.2 then
    { w with
      point := .awaiting nodeId x.now items
      done := w.done ++ r.1
      raised := w.activation nodeId
      since := [] }
  else { w with point := .looping x.now items, done := w.done ++ r.1 }

/-- The step of `run` when `call_macro` returns: the outcome is not looked at. -/
def onMacroDone (w : MonitorRun C) (nodeId : ℤ) (now : ℕ) (items : List (ℤ × Bool)) :
    MonitorRun C :=
  { w with monitor := w.monitor.tickAfterAwait nodeId, point := .looping now items }

end MonitorRun

/-- `run` and the rest of the host as a system of events. -/
def monitorRun {C : Type} (loads : List UInt8 → Option PyValue) :
    System (MonitorRun C) (RunEvent C) := fun w e =>
  match e with
  | .setHeaterActive nodeId active cfg now => some (w.onSetHeaterActive nodeId active cfg now)
  | .heartbeatResponse nodeId now =>
      some { w with monitor := w.monitor.onHeartbeatResponse nodeId now }
  | .packet f now => some { w with manager := w.manager.onPacket loads now f }
  | .wakeUp now =>
      match w.point with
      | .asleep => some { w with point := .looping now w.monitor.heaterActive.entries }
      | _ => none
  | .item transport raises =>
      match w.point with
      | .looping _ [] => some { w with point := .asleep }
      | .looping now ((nodeId, active) :: items) =>
          some (w.onItem ⟨transport, raises, now⟩ nodeId active items)
      | _ => none
  | .macroDone _ =>
      match w.point with
      | .awaiting nodeId now items => some (w.onMacroDone nodeId now items)
      | _ => none

/-! ## A wake-up that nothing interrupts -/

/-- `run` goes on, with the port as a wake-up has it. -/
def RunEvent.Own {C : Type} (x : WakeUp) (e : RunEvent C) : Prop :=
  e = .item x.transport x.raises ∨ ∃ outcome, e = .macroDone outcome

/-- The wake-up that `run` is in was at `now`. -/
def RunPoint.At (now : ℕ) : RunPoint → Prop
  | asleep => True
  | looping t _ => t = now
  | awaiting _ t _ => t = now

namespace MonitorRun

variable {C : Type} (loads : List UInt8 → Option PyValue) (x : WakeUp)

/-- The monitor and the actions that the rest of a wake-up comes to, when nothing
interrupts it. -/
def finish (w : MonitorRun C) : HeartbeatMonitor C × List MonitorAction :=
  let rest := match w.point with
    | .asleep => w.monitor.tickItems w.manager x []
    | .looping _ items => w.monitor.tickItems w.manager x items
    | .awaiting nodeId _ items => (w.monitor.tickAfterAwait nodeId).tickItems w.manager x items
  (rest.1, w.done ++ rest.2)

theorem finish_onItem (w : MonitorRun C) (nodeId : ℤ) (active : Bool) (items : List (ℤ × Bool))
    (h : w.point = .looping x.now ((nodeId, active) :: items)) :
    (w.onItem x nodeId active items).finish x = w.finish x := by
  simp only [finish, h, HeartbeatMonitor.tickItems, HeartbeatMonitor.tickEntry, onItem]
  cases (w.monitor.tickUntilAwait w.manager x nodeId active).2 with
  | false => simp
  | true => simp

/-- The point that an item leads to. -/
theorem point_onItem (w : MonitorRun C) (nodeId : ℤ) (active : Bool) (items : List (ℤ × Bool)) :
    (w.onItem x nodeId active items).point = .looping x.now items ∨
      (w.onItem x nodeId active items).point = .awaiting nodeId x.now items := by
  rw [onItem]
  split
  · exact .inr rfl
  · exact .inl rfl

/-- When `run` goes on, what the wake-up comes to stays as it was. -/
theorem finish_step {w w' : MonitorRun C} {e : RunEvent C} (hown : e.Own x)
    (hat : w.point.At x.now) (hstep : monitorRun loads w e = some w') :
    w'.point.At x.now ∧ w'.finish x = w.finish x := by
  obtain rfl | ⟨outcome, rfl⟩ := hown
  · simp only [monitorRun] at hstep
    split at hstep
    · next h =>
        cases hstep
        exact ⟨trivial, by simp only [finish, h]⟩
    · next now nodeId active items h =>
        rw [h] at hat
        cases hat
        cases hstep
        refine ⟨?_, finish_onItem x w nodeId active items h⟩
        obtain hpoint | hpoint := point_onItem x w nodeId active items
        · rw [hpoint]
          rfl
        · rw [hpoint]
          rfl
    · cases hstep
  · simp only [monitorRun] at hstep
    split at hstep
    · next nodeId now items h =>
        rw [h] at hat
        cases hstep
        exact ⟨hat, by simp only [finish, h, onMacroDone]⟩
    · cases hstep

/-- **A wake-up that nothing interrupts is a `tick`**, whatever comes of its requests. -/
theorem uninterrupted {w w' : MonitorRun C} {es : List (RunEvent C)} (hw : w.point = .asleep)
    (hown : ∀ e ∈ es, e.Own x)
    (hrun : System.run (monitorRun loads) w (.wakeUp x.now :: es) = some w')
    (hw' : w'.point = .asleep) :
    w'.monitor = (w.monitor.tick w.manager x).1 ∧
      w'.done = w.done ++ (w.monitor.tick w.manager x).2 := by
  obtain ⟨v, hwake, hrest⟩ := System.run_cons_eq_some.mp hrun
  simp only [monitorRun, hw] at hwake
  cases hwake
  -- from where it has woken up, what it comes to never changes
  have hkeeps : ∀ (es : List (RunEvent C)) (v : MonitorRun C), (∀ e ∈ es, e.Own x) →
      v.point.At x.now → System.run (monitorRun loads) v es = some w' →
        w'.finish x = v.finish x := by
    intro es
    induction es with
    | nil =>
        intro v _ _ hrun
        cases hrun
        rfl
    | cons e es ih =>
        intro v hown hat hrun
        obtain ⟨v', hstep, hrest⟩ := System.run_cons_eq_some.mp hrun
        obtain ⟨hat', hfinish⟩ := finish_step loads x (hown e (List.mem_cons_self ..)) hat hstep
        rw [← hfinish]
        exact ih v' (fun e' he' => hown e' (List.mem_cons_of_mem e he')) hat' hrest
  have hfinish := hkeeps es _ hown (by rfl) hrest
  simp only [finish, hw', HeartbeatMonitor.tickItems, List.append_nil] at hfinish
  exact ⟨congrArg Prod.fst hfinish, congrArg Prod.snd hfinish⟩

/-- From the items that are left, `run` can go back to sleep. -/
theorem exists_asleep (items : List (ℤ × Bool)) (w : MonitorRun C)
    (h : w.point = .looping x.now items) :
    ∃ es w', (∀ e ∈ es, e.Own x) ∧ System.run (monitorRun loads) w es = some w' ∧
      w'.point = .asleep := by
  induction items generalizing w with
  | nil =>
      refine ⟨[.item x.transport x.raises], { w with point := .asleep }, ?_, ?_, rfl⟩
      · intro e he
        exact .inl (List.mem_singleton.mp he)
      · simp only [System.run_cons, monitorRun, h, Option.bind_some, System.run_nil]
  | cons item items ih =>
      have hitem : monitorRun loads w (.item x.transport x.raises) =
          some (w.onItem x item.1 item.2 items) := by
        simp only [monitorRun, h]
      obtain hpoint | hpoint := point_onItem x w item.1 item.2 items
      · obtain ⟨es, w', hown, hrun, hasleep⟩ := ih _ hpoint
        refine ⟨.item x.transport x.raises :: es, w', ?_, ?_, hasleep⟩
        · exact List.forall_mem_cons.mpr ⟨.inl rfl, hown⟩
        · exact System.run_cons_eq_some.mpr ⟨_, hitem, hrun⟩
      · have hdone : ∃ v, monitorRun loads (w.onItem x item.1 item.2 items)
            (.macroDone .succeeded) = some v ∧ v.point = .looping x.now items := by
          simp only [monitorRun, hpoint]
          exact ⟨_, rfl, rfl⟩
        obtain ⟨v, hdone, hpoint⟩ := hdone
        obtain ⟨es, w', hown, hrun, hasleep⟩ := ih v hpoint
        refine ⟨.item x.transport x.raises :: .macroDone .succeeded :: es, w', ?_, ?_, hasleep⟩
        · exact List.forall_mem_cons.mpr
            ⟨.inl rfl, List.forall_mem_cons.mpr ⟨.inr ⟨_, rfl⟩, hown⟩⟩
        · exact System.run_cons_eq_some.mpr
            ⟨_, hitem, System.run_cons_eq_some.mpr ⟨v, hdone, hrun⟩⟩

/-- Some run of `run` on its own makes the wake-up a `tick`. -/
theorem exists_uninterrupted {w : MonitorRun C} (hw : w.point = .asleep) :
    ∃ es w', (∀ e ∈ es, e.Own x) ∧
      System.run (monitorRun loads) w (.wakeUp x.now :: es) = some w' ∧ w'.point = .asleep ∧
      w'.monitor = (w.monitor.tick w.manager x).1 ∧
      w'.done = w.done ++ (w.monitor.tick w.manager x).2 := by
  have hwake : monitorRun loads w (.wakeUp x.now) =
      some { w with point := .looping x.now w.monitor.heaterActive.entries } := by
    simp only [monitorRun, hw]
  obtain ⟨es, w', hown, hrest, hw'⟩ := exists_asleep loads x w.monitor.heaterActive.entries
    { w with point := .looping x.now w.monitor.heaterActive.entries } rfl
  have hrun := System.run_cons_eq_some.mpr ⟨_, hwake, hrest⟩
  exact ⟨es, w', hown, hrun, hw', uninterrupted loads x hw hown hrun hw'⟩

end MonitorRun

/-! ## What makes a heater inactive -/

namespace MonitorRun

variable {C : Type}

/-- The flag of a heater is `True`. -/
def Active (w : MonitorRun C) (n : ℤ) : Prop := w.monitor.heaterActive.get n = some true

instance (w : MonitorRun C) (n : ℤ) : Decidable (w.Active n) :=
  inferInstanceAs (Decidable (_ = _))

/-- `run` is waiting for a request that was raised for this node. -/
def Awaits (w : MonitorRun C) (n : ℤ) : Prop := ∃ now items, w.point = .awaiting n now items

/-- A request that was raised for the heater's present activation has succeeded. -/
def Delivered (w : MonitorRun C) (e : RunEvent C) (n : ℤ) : Prop :=
  e = .macroDone .succeeded ∧ w.Awaits n ∧ w.raised = w.activation n

/-- A heater is made inactive only by `set_heater_active`, or for an emergency of its
present activation that was delivered; a heater that was set active while its request was
under way stays so, and so does one whose request failed. -/
structure DisarmsRightly (w : MonitorRun C) (e : RunEvent C) (w' : MonitorRun C) : Prop where
  disarmed : ∀ n, w.Active n → w'.monitor.heaterActive.get n = some false →
    (∃ cfg now, e = .setHeaterActive n false cfg now) ∨ w.Delivered e n
  rearmed : ∀ outcome n, e = .macroDone outcome → w.Awaits n → (n, true) ∈ w.since →
    w.Active n → w'.Active n
  failed : ∀ n, e = .macroDone .raised → w.Awaits n → w.Active n → w'.Active n

/-- The request of a heater that is active when it comes back has succeeded, and the heater
was not set active while it was under way. -/
def AnsweredInTime (w : MonitorRun C) (e : RunEvent C) (_ : MonitorRun C) : Prop :=
  match e with
  | .macroDone outcome => ∀ n, w.Awaits n → w.Active n →
      outcome = .succeeded ∧ (n, true) ∉ w.since
  | _ => True

/-- The activations of the node that `run` waits for are counted from the one its request
was raised for. -/
def Counted (w : MonitorRun C) : Prop :=
  ∀ n, w.Awaits n → w.activation n = w.raised + w.since.count (n, true)

/-- The request is for the present activation when the heater was not set active since. -/
theorem Counted.raised_eq_iff {w : MonitorRun C} (h : w.Counted) {n : ℤ} (hn : w.Awaits n) :
    w.raised = w.activation n ↔ (n, true) ∉ w.since := by
  rw [h n hn, ← List.count_eq_zero]
  omega

/-- An item either goes on or raises a request that nothing has happened to. -/
theorem counted_onItem (w : MonitorRun C) (x : WakeUp) (nodeId : ℤ) (active : Bool)
    (items : List (ℤ × Bool)) : (w.onItem x nodeId active items).Counted := by
  intro n hn
  obtain ⟨now, rest, hpoint⟩ := hn
  rw [onItem] at hpoint ⊢
  split at hpoint
  · next hawaits =>
      cases hpoint
      simp [hawaits]
  · cases hpoint

/-- Setting the node's own heater active counts, and is recorded. -/
theorem Counted.onSetHeaterActive {w : MonitorRun C} (h : w.Counted) (nodeId : ℤ)
    (active : Bool) (cfg : Option C) (now : ℕ) :
    (w.onSetHeaterActive nodeId active cfg now).Counted := by
  intro n hn
  have hcount : w.activation n = w.raised + w.since.count (n, true) := h n hn
  rw [MonitorRun.onSetHeaterActive]
  cases active with
  | false => simpa using hcount
  | true =>
      by_cases hnode : n = nodeId
      · subst hnode
        simp [hcount, Nat.add_assoc]
      · simpa [hnode, Ne.symm hnode] using hcount

/-- Nothing is counted while no request is under way. -/
theorem counted_of_point {w : MonitorRun C}
    (h : ∀ n now items, w.point ≠ .awaiting n now items) : w.Counted := by
  intro n hn
  obtain ⟨now, items, hpoint⟩ := hn
  exact absurd hpoint (h n now items)

theorem counted_start (manager : DeviceManager) : (start manager : MonitorRun C).Counted :=
  counted_of_point (by simp [start])

/-- `run` waits for one request. -/
theorem awaits_iff {w : MonitorRun C} {nodeId : ℤ} {now : ℕ} {items : List (ℤ × Bool)}
    (h : w.point = .awaiting nodeId now items) (n : ℤ) : w.Awaits n ↔ n = nodeId := by
  constructor
  · intro hn
    obtain ⟨now, items, hpoint⟩ := hn
    rw [h] at hpoint
    cases hpoint
    rfl
  · intro hn
    rw [hn]
    exact ⟨now, items, h⟩

/-- What a step can be: a call of `set_heater_active`, the return of `call_macro`, or one
that leaves the flags alone. -/
inductive RunStep (w : MonitorRun C) : RunEvent C → MonitorRun C → Prop
  | set (nodeId : ℤ) (active : Bool) (cfg : Option C) (now : ℕ) :
      RunStep w (.setHeaterActive nodeId active cfg now)
        (w.onSetHeaterActive nodeId active cfg now)
  | macroDone (outcome : MacroOutcome) (nodeId : ℤ) (now : ℕ) (items : List (ℤ × Bool))
      (hpoint : w.point = .awaiting nodeId now items) :
      RunStep w (.macroDone outcome) (w.onMacroDone nodeId now items)
  | quiet {e : RunEvent C} {w' : MonitorRun C} (hevent : ∀ outcome, e ≠ .macroDone outcome)
      (hactive : w'.monitor.heaterActive = w.monitor.heaterActive)
      (hcounted : w.Counted → w'.Counted) : RunStep w e w'

theorem runStep_of_step {loads : List UInt8 → Option PyValue} {w w' : MonitorRun C}
    {e : RunEvent C} (hstep : monitorRun loads w e = some w') : RunStep w e w' := by
  cases e with
  | setHeaterActive nodeId active cfg now =>
      cases hstep
      exact .set nodeId active cfg now
  | heartbeatResponse nodeId now =>
      cases hstep
      exact .quiet (by simp) rfl id
  | packet f now =>
      cases hstep
      exact .quiet (by simp) rfl id
  | wakeUp now =>
      simp only [monitorRun] at hstep
      split at hstep
      · cases hstep
        exact .quiet (by simp) rfl fun _ => counted_of_point (by simp)
      · cases hstep
  | item transport raises =>
      simp only [monitorRun] at hstep
      split at hstep
      · cases hstep
        exact .quiet (by simp) rfl fun _ => counted_of_point (by simp)
      · cases hstep
        refine .quiet (by simp) ?_ fun _ => counted_onItem w _ _ _ _
        rw [onItem]
        split <;> rfl
      · cases hstep
  | macroDone outcome =>
      simp only [monitorRun] at hstep
      split at hstep
      · next nodeId now items hpoint =>
          cases hstep
          exact .macroDone outcome nodeId now items hpoint
      · cases hstep

/-- Every step keeps the count. -/
theorem RunStep.counted {w w' : MonitorRun C} {e : RunEvent C} (h : RunStep w e w')
    (hcounted : w.Counted) : w'.Counted := by
  cases h with
  | set nodeId active cfg now => exact hcounted.onSetHeaterActive nodeId active cfg now
  | macroDone outcome nodeId now items hpoint =>
      exact counted_of_point (by simp [onMacroDone])
  | quiet _ _ hkeeps => exact hkeeps hcounted

/-- An event that leaves the flags alone makes no heater inactive. -/
theorem disarmsRightly_of_same {w w' : MonitorRun C} (e : RunEvent C)
    (h : w'.monitor.heaterActive = w.monitor.heaterActive) : w.DisarmsRightly e w' where
  disarmed n hactive hoff := by
    rw [h, hactive] at hoff
    cases hoff
  rearmed _ n _ _ _ hactive := by
    rw [Active, h]
    exact hactive
  failed n _ _ hactive := by
    rw [Active, h]
    exact hactive

theorem disarmsRightly_setHeaterActive (w : MonitorRun C) (nodeId : ℤ) (active : Bool)
    (cfg : Option C) (now : ℕ) :
    w.DisarmsRightly (.setHeaterActive nodeId active cfg now)
      (w.onSetHeaterActive nodeId active cfg now) where
  disarmed n hactive hoff := by
    rw [onSetHeaterActive, HeartbeatMonitor.heaterActive_setHeaterActive, Dict.get_put] at hoff
    split at hoff
    · next hn =>
        cases hoff
        exact .inl ⟨cfg, now, by rw [hn]⟩
    · rw [hactive] at hoff
      cases hoff
  rearmed _ _ heq := by cases heq
  failed _ heq := by cases heq

/-- **When the return of `call_macro` disarms rightly.** -/
theorem disarmsRightly_macroDone_iff {w : MonitorRun C} (hcounted : w.Counted)
    {outcome : MacroOutcome} {nodeId : ℤ} {now : ℕ} {items : List (ℤ × Bool)}
    (hpoint : w.point = .awaiting nodeId now items) :
    w.DisarmsRightly (.macroDone outcome) (w.onMacroDone nodeId now items) ↔
      (w.Active nodeId → outcome = .succeeded ∧ (nodeId, true) ∉ w.since) := by
  have hawaits : w.Awaits nodeId := ⟨now, items, hpoint⟩
  have hget : ∀ n, (w.onMacroDone nodeId now items).monitor.heaterActive.get n =
      if n = nodeId then some false else w.monitor.heaterActive.get n := fun n =>
    Dict.get_put _ _ _ n
  constructor
  · intro hrightly hactive
    obtain ⟨cfg, now, heq⟩ | ⟨heq, -, hraised⟩ :=
      hrightly.disarmed nodeId hactive (by rw [hget, if_pos rfl])
    · cases heq
    · cases heq
      exact ⟨rfl, (hcounted.raised_eq_iff hawaits).mp hraised⟩
  · intro hanswered
    refine ⟨fun n hactive hoff => ?_, fun _ n _ hn hsince hactive => ?_,
      fun n heq hn hactive => ?_⟩
    · rw [hget] at hoff
      split at hoff
      · next hn =>
          subst hn
          obtain ⟨rfl, hsince⟩ := hanswered hactive
          exact .inr ⟨rfl, hawaits, (hcounted.raised_eq_iff hawaits).mpr hsince⟩
      · rw [hactive] at hoff
        cases hoff
    · cases (awaits_iff hpoint n).mp hn
      exact absurd hsince (hanswered hactive).2
    · cases (awaits_iff hpoint n).mp hn
      cases heq
      exact absurd (hanswered hactive).1 (by decide)

theorem answeredInTime_of_ne {w w' : MonitorRun C} {e : RunEvent C}
    (h : ∀ outcome, e ≠ .macroDone outcome) : w.AnsweredInTime e w' := by
  cases e with
  | macroDone outcome => exact absurd rfl (h outcome)
  | _ => trivial

/-- A step disarms rightly exactly when the request it answers is answered in time. -/
theorem RunStep.disarmsRightly_iff {w w' : MonitorRun C} {e : RunEvent C} (h : RunStep w e w')
    (hcounted : w.Counted) : w.DisarmsRightly e w' ↔ w.AnsweredInTime e w' := by
  cases h with
  | set nodeId active cfg now =>
      exact iff_of_true (disarmsRightly_setHeaterActive w nodeId active cfg now) trivial
  | macroDone outcome nodeId now items hpoint =>
      rw [disarmsRightly_macroDone_iff hcounted hpoint, AnsweredInTime]
      simp only [awaits_iff hpoint, forall_eq]
  | quiet hevent hactive _ =>
      exact iff_of_true (disarmsRightly_of_same e hactive) (answeredInTime_of_ne hevent)

/-- **A heater is disarmed only for a delivered emergency of its own**, along a run, exactly
when every request that comes back while its heater is active has succeeded, and its heater
was not set active while it was under way. -/
theorem disarmsRightly_along_iff (loads : List UInt8 → Option PyValue) (manager : DeviceManager)
    (es : List (RunEvent C)) :
    System.Along (monitorRun loads) DisarmsRightly (start manager) es ↔
      System.Along (monitorRun loads) AnsweredInTime (start manager) es :=
  System.along_iff Counted (fun _ => True) _ _
    (fun _ _ _ hcounted hstep => (runStep_of_step hstep).counted hcounted)
    (fun _ _ _ hcounted _ hstep => (runStep_of_step hstep).disarmsRightly_iff hcounted)
    (fun _ _ _ _ _ _ _ => trivial) es _ (counted_start manager) trivial

/-- A heater of a connected node is switched on, does not answer, and three seconds later
its emergency is raised. -/
def silentHeater : List (RunEvent Unit) :=
  [.packet ⟨1, KlipCommand.ping.code, []⟩ 0, .setHeaterActive 1 true none 1,
    .wakeUp 3000000001, .item ⟨true, []⟩ fun _ => false]

/-- Moonraker is down; or it is not, and the heater is switched on again while it is asked. -/
theorem silentHeater_disarms :
    ¬ System.Along (monitorRun fun _ => none) DisarmsRightly (start .start)
        (silentHeater ++ [.macroDone .raised]) ∧
    ¬ System.Along (monitorRun fun _ => none) DisarmsRightly (start .start)
        (silentHeater ++ [.setHeaterActive 1 true none 3100000000, .macroDone .succeeded]) := by
  constructor
  · rintro ⟨-, -, -, -, hdone, -⟩
    exact absurd (hdone.failed 1 rfl ⟨_, _, rfl⟩ rfl) (by decide)
  · rintro ⟨-, -, -, -, -, hdone, -⟩
    exact absurd (hdone.rearmed .succeeded 1 rfl ⟨_, _, rfl⟩ (by decide) rfl) (by decide)

end MonitorRun
end Klippylink
