import Klippylink.Host.DeviceManager
import Klippylink.Host.SerialTransport
import Klippylink.Lib.Dict
import Klippylink.Lib.System
import Mathlib.Logic.Function.Basic

/-!
# The host's watch over heaters

`HeartbeatMonitor.run` wakes up every half second and goes through the nodes whose
heater is active.  A node that has not answered for two seconds sets off the emergency
macro, once.  The dictionaries are `Dict`s, and one wake-up is one step.  Times are the
nanoseconds of the monotonic clock; that `time.monotonic` rounds them to a float is left out.

What the monitor is for is said beside it, in `MonitorWorld`: which heaters are armed,
and when each was last armed and last answered.

## Main definitions

* `HeartbeatMonitor` — the monitor's dictionaries.
* `HeartbeatMonitor.tick` — one wake-up of `run`.
* `monitorWorld` — the monitor and the table of nodes as a system of events.
* `MonitorWorld.Detects` — the macro is called for the silent heaters.
* `detects_along_iff` — when it is.
-/

namespace Klippylink

open Lib

/-- `HEARTBEAT_TIMEOUT_S`, two seconds. -/
def heartbeatTimeout : ℕ := 2000000000

/-- The macro that is called. -/
def heaterEmergency : String := "KLIPPYLINK_HEATER_EMERGENCY"

/-- `HeartbeatMonitor`, with configurations in `C`. -/
structure HeartbeatMonitor (C : Type) where
  lastHb : Dict ℤ ℕ
  heaterActive : Dict ℤ Bool
  heaterCfg : Dict ℤ C

/-- What a wake-up does for a node. -/
inductive MonitorAction
  /-- A HEARTBEAT is written to the port. -/
  | heartbeat (nodeId : ℤ) (bytes : List UInt8)
  /-- `call_macro`, which catches what it raises. -/
  | callMacro (nodeId : ℤ) (name : String)
  deriving DecidableEq

/-- What a wake-up finds: the port, whether writing a node's HEARTBEAT to it raises, and
the time. -/
structure WakeUp where
  transport : SerialTransport
  raises : ℤ → Bool
  now : ℕ

/-- `get_node_by_id`; the ids of the table are bytes. -/
def DeviceManager.getNodeById (m : DeviceManager) (nodeId : ℤ) : Option NodeInfo :=
  m.nodes.find? fun n => (n.nodeId.toNat : ℤ) = nodeId

namespace HeartbeatMonitor

variable {C : Type}

/-- A new monitor. -/
def start : HeartbeatMonitor C := ⟨Dict.empty, Dict.empty, Dict.empty⟩

/-- `set_heater_active`, at time `now`; a `cfg` that is `None` or empty is `none`. -/
def setHeaterActive (s : HeartbeatMonitor C) (nodeId : ℤ) (active : Bool) (cfg : Option C)
    (now : ℕ) : HeartbeatMonitor C :=
  let s := { s with heaterActive := s.heaterActive.put nodeId active }
  let s := match cfg with
    | none => s
    | some cfg => { s with heaterCfg := s.heaterCfg.put nodeId cfg }
  if active then { s with lastHb := s.lastHb.put nodeId now } else s

/-- `on_heartbeat_response`, at time `now`. -/
def onHeartbeatResponse (s : HeartbeatMonitor C) (nodeId : ℤ) (now : ℕ) : HeartbeatMonitor C :=
  { s with lastHb := s.lastHb.put nodeId now }

/-- The body of the inner loop of `run` up to its `await`, for one item of `_heater_active`: what
it does, and whether it comes to `call_macro`. -/
def tickUntilAwait (m : DeviceManager) (x : WakeUp) (s : HeartbeatMonitor C) (nodeId : ℤ)
    (active : Bool) : List MonitorAction × Bool :=
  if !active then ([], false)
  else
    match m.getNodeById nodeId with
    | none => ([], false)
    | some node =>
        if !node.connected then ([], false)
        else
          let sent := match x.transport.sendPacket nodeId ⟨KlipCommand.heartbeat.code, []⟩ with
            | .error _ => []
            | .ok bytes => if x.raises nodeId then [] else [.heartbeat nodeId bytes]
          let last := (s.lastHb.get nodeId).getD x.now
          if x.now - last > heartbeatTimeout then
            (sent ++ [.callMacro nodeId heaterEmergency], true)
          else (sent, false)

/-- The body of the inner loop of `run` after its `await`. -/
def tickAfterAwait (s : HeartbeatMonitor C) (nodeId : ℤ) : HeartbeatMonitor C :=
  { s with heaterActive := s.heaterActive.put nodeId false }

/-- The body of the inner loop of `run`, with nothing between its halves. -/
def tickEntry (m : DeviceManager) (x : WakeUp) (s : HeartbeatMonitor C) (nodeId : ℤ)
    (active : Bool) : HeartbeatMonitor C × List MonitorAction :=
  let r := s.tickUntilAwait m x nodeId active
  (if r.2 then s.tickAfterAwait nodeId else s, r.1)

/-- The inner loop of `run`, over a copy of the items. -/
def tickItems (m : DeviceManager) (x : WakeUp) :
    HeartbeatMonitor C → List (ℤ × Bool) → HeartbeatMonitor C × List MonitorAction
  | s, [] => (s, [])
  | s, (nodeId, active) :: items =>
      let entry := s.tickEntry m x nodeId active
      let rest := tickItems m x entry.1 items
      (rest.1, entry.2 ++ rest.2)

/-- One wake-up of `run`. -/
def tick (m : DeviceManager) (x : WakeUp) (s : HeartbeatMonitor C) :
    HeartbeatMonitor C × List MonitorAction :=
  s.tickItems m x s.heaterActive.entries

end HeartbeatMonitor

/-! ## One wake-up -/

/-- The table has a connected entry for the node. -/
def DeviceManager.Connected (m : DeviceManager) (nodeId : ℤ) : Prop :=
  ∃ n, m.getNodeById nodeId = some n ∧ n.connected = true

namespace HeartbeatMonitor

variable {C : Type} (m : DeviceManager) (x : WakeUp)

@[simp] theorem heaterActive_setHeaterActive (s : HeartbeatMonitor C) (nodeId : ℤ)
    (active : Bool) (cfg : Option C) (now : ℕ) :
    (s.setHeaterActive nodeId active cfg now).heaterActive = s.heaterActive.put nodeId active := by
  cases active <;> cases cfg <;> rfl

/-- The last response is too long ago. -/
def Expired (s : HeartbeatMonitor C) (nodeId : ℤ) : Prop :=
  heartbeatTimeout < x.now - (s.lastHb.get nodeId).getD x.now

/-- **What an item comes to**: the macro is called when it is active, connected and
expired, and then it is made inactive. -/
theorem tickEntry_cases (s : HeartbeatMonitor C) (nodeId : ℤ) (active : Bool) :
    ((active = true ∧ m.Connected nodeId ∧ s.Expired x nodeId) ∧
      (s.tickEntry m x nodeId active).1 =
        { s with heaterActive := s.heaterActive.put nodeId false } ∧
      ∀ n name, MonitorAction.callMacro n name ∈ (s.tickEntry m x nodeId active).2 ↔
        n = nodeId ∧ name = heaterEmergency) ∨
    (¬ (active = true ∧ m.Connected nodeId ∧ s.Expired x nodeId) ∧
      (s.tickEntry m x nodeId active).1 = s ∧
      ∀ n name, MonitorAction.callMacro n name ∉ (s.tickEntry m x nodeId active).2) := by
  simp only [tickEntry, tickUntilAwait, tickAfterAwait, DeviceManager.Connected, Expired]
  cases active with
  | false => exact .inr ⟨by simp, rfl, by simp⟩
  | true =>
      cases hnode : m.getNodeById nodeId with
      | none => exact .inr ⟨by simp, rfl, by simp⟩
      | some node =>
          by_cases hconnected : node.connected = true
          · have hsent : ∀ n name, MonitorAction.callMacro n name ∉
                (match x.transport.sendPacket nodeId ⟨KlipCommand.heartbeat.code, []⟩ with
                | .error _ => []
                | .ok bytes => if x.raises nodeId then [] else
                    [MonitorAction.heartbeat nodeId bytes]) := by
              intro n name
              cases x.transport.sendPacket nodeId ⟨KlipCommand.heartbeat.code, []⟩ with
              | error e => simp
              | ok bytes => cases x.raises nodeId <;> simp
            by_cases hexpired : x.now - (s.lastHb.get nodeId).getD x.now > heartbeatTimeout
            · refine .inl ⟨⟨rfl, ⟨node, rfl, hconnected⟩, hexpired⟩, ?_⟩
              simp [hconnected, hexpired, hsent]
            · refine .inr ⟨fun h => hexpired h.2.2, ?_⟩
              simp [hconnected, hexpired, hsent]
          · refine .inr ⟨?_, ?_⟩
            · rintro ⟨-, ⟨n, hn, hon⟩, -⟩
              cases hn
              exact hconnected hon
            · simp [hconnected]

/-- **What a loop over items comes to.** -/
theorem tickItems_spec (items : List (ℤ × Bool)) (s : HeartbeatMonitor C) :
    let r := s.tickItems m x items
    r.1.lastHb = s.lastHb ∧
      (∀ n name, MonitorAction.callMacro n name ∈ r.2 ↔
        name = heaterEmergency ∧ (n, true) ∈ items ∧ m.Connected n ∧ s.Expired x n) ∧
      ∀ n, r.1.heaterActive.get n = some true ↔
        s.heaterActive.get n = some true ∧ MonitorAction.callMacro n heaterEmergency ∉ r.2 := by
  induction items generalizing s with
  | nil => simp [tickItems]
  | cons item items ih =>
      obtain ⟨nodeId, active⟩ := item
      simp only [tickItems, List.mem_append]
      obtain ⟨⟨hactive, hconnected, hexpired⟩, hs, hcalls⟩ | ⟨hquiet, hs, hcalls⟩ :=
        tickEntry_cases m x s nodeId active
      · rw [hs]
        obtain ⟨hlast, hrest, hput⟩ :=
          ih { s with heaterActive := s.heaterActive.put nodeId false }
        refine ⟨hlast, fun n name => ?_, fun n => ?_⟩
        · rw [hcalls, hrest, List.mem_cons, Prod.mk.injEq]
          constructor
          · rintro (⟨rfl, rfl⟩ | ⟨rfl, hmem, hc, he⟩)
            · exact ⟨rfl, .inl ⟨rfl, hactive.symm⟩, hconnected, hexpired⟩
            · exact ⟨rfl, .inr hmem, hc, he⟩
          · rintro ⟨rfl, ⟨rfl, -⟩ | hmem, hc, he⟩
            · exact .inl ⟨rfl, rfl⟩
            · exact .inr ⟨rfl, hmem, hc, he⟩
        · rw [hput, hcalls, Dict.get_put]
          by_cases hn : n = nodeId <;> simp [hn]
      · rw [hs]
        obtain ⟨hlast, hrest, hput⟩ := ih s
        refine ⟨hlast, fun n name => ?_, fun n => ?_⟩
        · rw [or_iff_right (hcalls n name), hrest, List.mem_cons, Prod.mk.injEq]
          constructor
          · rintro ⟨rfl, hmem, hc, he⟩
            exact ⟨rfl, .inr hmem, hc, he⟩
          · rintro ⟨rfl, ⟨rfl, htrue⟩ | hmem, hc, he⟩
            · exact absurd ⟨htrue.symm, hc, he⟩ hquiet
            · exact ⟨rfl, hmem, hc, he⟩
        · rw [hput]
          simp [hcalls n heaterEmergency]

/-- A wake-up calls the macro for the nodes that are active, connected and expired. -/
theorem callMacro_mem_tick (s : HeartbeatMonitor C) (n : ℤ) :
    MonitorAction.callMacro n heaterEmergency ∈ (s.tick m x).2 ↔
      s.heaterActive.get n = some true ∧ m.Connected n ∧ s.Expired x n := by
  have hcalls := (tickItems_spec m x s.heaterActive.entries s).2.1
  rw [tick, hcalls, Dict.get_eq_some]
  exact and_iff_right rfl

theorem lastHb_tick (s : HeartbeatMonitor C) : (s.tick m x).1.lastHb = s.lastHb :=
  (tickItems_spec m x s.heaterActive.entries s).1

/-- A node that the macro is called for is inactive from then on. -/
theorem heaterActive_tick (s : HeartbeatMonitor C) (n : ℤ) :
    (s.tick m x).1.heaterActive.get n = some true ↔
      s.heaterActive.get n = some true ∧
        MonitorAction.callMacro n heaterEmergency ∉ (s.tick m x).2 :=
  (tickItems_spec m x s.heaterActive.entries s).2.2 n

end HeartbeatMonitor

/-! ## Runs -/

/-- The later of two times, if there are any. -/
def later : Option ℕ → Option ℕ → Option ℕ
  | some a, some b => some (max a b)
  | some a, none => some a
  | none, b => b

/-- The monitor and the table, with the time of the last event, and what the events say
about each heater: whether it is armed, and when it was last armed and last answered. -/
structure MonitorWorld (C : Type) where
  manager : DeviceManager
  monitor : HeartbeatMonitor C
  clock : ℕ
  armed : ℤ → Bool
  activated : ℤ → Option ℕ
  responded : ℤ → Option ℕ

/-- What can happen, each with its time. -/
inductive MonitorEvent (C : Type)
  | setHeaterActive (nodeId : ℤ) (active : Bool) (cfg : Option C) (now : ℕ)
  | heartbeatResponse (nodeId : ℤ) (now : ℕ)
  | packet (f : Frame) (now : ℕ)
  | tick (x : WakeUp)

/-- When it happens. -/
def MonitorEvent.time {C : Type} : MonitorEvent C → ℕ
  | setHeaterActive _ _ _ now => now
  | heartbeatResponse _ now => now
  | packet _ now => now
  | tick x => x.now

namespace MonitorWorld

variable {C : Type}

/-- A new monitor beside a table of nodes. -/
def start (manager : DeviceManager) (clock : ℕ) : MonitorWorld C :=
  ⟨manager, .start, clock, fun _ => false, fun _ => none, fun _ => none⟩

/-- The nodes that a wake-up calls the macro for. -/
def Calls (w : MonitorWorld C) (x : WakeUp) (n : ℤ) : Prop :=
  MonitorAction.callMacro n heaterEmergency ∈ (w.monitor.tick w.manager x).2

instance (w : MonitorWorld C) (x : WakeUp) (n : ℤ) : Decidable (w.Calls x n) :=
  inferInstanceAs (Decidable (_ ∈ _))

/-- What an event leads to. -/
def after (loads : List UInt8 → Option PyValue) (w : MonitorWorld C) :
    MonitorEvent C → MonitorWorld C
  | .setHeaterActive nodeId active cfg now =>
      { w with
        monitor := w.monitor.setHeaterActive nodeId active cfg now
        clock := now
        armed := Function.update w.armed nodeId active
        activated := if active then Function.update w.activated nodeId (some now)
          else w.activated }
  | .heartbeatResponse nodeId now =>
      { w with
        monitor := w.monitor.onHeartbeatResponse nodeId now
        clock := now
        responded := Function.update w.responded nodeId (some now) }
  | .packet f now => { w with manager := w.manager.onPacket loads now f, clock := now }
  | .tick x =>
      { w with
        monitor := (w.monitor.tick w.manager x).1
        clock := x.now
        armed := fun n => w.armed n && !decide (w.Calls x n) }

end MonitorWorld

/-- The monitor as a system of events at non-decreasing times. -/
def monitorWorld {C : Type} (loads : List UInt8 → Option PyValue) :
    System (MonitorWorld C) (MonitorEvent C) := fun w e =>
  if w.clock ≤ e.time then some (w.after loads e) else none

namespace MonitorWorld

variable {C : Type}

/-- The heater is armed, and has neither been armed nor answered for too long. -/
def Silent (w : MonitorWorld C) (now : ℕ) (n : ℤ) : Prop :=
  w.armed n = true ∧
    ∃ t, later (w.activated n) (w.responded n) = some t ∧ heartbeatTimeout < now - t

/-- At a wake-up the macro is called for exactly the silent heaters. -/
def Detects (w : MonitorWorld C) (e : MonitorEvent C) (_ : MonitorWorld C) : Prop :=
  match e with
  | .tick x => ∀ n, w.Calls x n ↔ w.Silent x.now n
  | _ => True

/-- At a wake-up every silent heater's node has a connected entry. -/
def SilentConnected (w : MonitorWorld C) (e : MonitorEvent C) (_ : MonitorWorld C) : Prop :=
  match e with
  | .tick x => ∀ n, w.Silent x.now n → w.manager.Connected n
  | _ => True

/-- The monitor knows what the events say. -/
structure Faithful (w : MonitorWorld C) : Prop where
  active : ∀ n, w.monitor.heaterActive.get n = some true ↔ w.armed n = true
  lastHb : ∀ n, w.monitor.lastHb.get n = later (w.activated n) (w.responded n)
  activated : ∀ n, w.armed n = true → w.activated n ≠ none
  past : ∀ n t, w.activated n = some t ∨ w.responded n = some t → t ≤ w.clock

end MonitorWorld

/-! ### The later of two times -/

theorem later_some_left {now : ℕ} {b : Option ℕ} (h : ∀ t, b = some t → t ≤ now) :
    later (some now) b = some now := by
  cases b with
  | none => rfl
  | some t => exact congrArg some (Nat.max_eq_left (h t rfl))

theorem later_some_right {now : ℕ} {a : Option ℕ} (h : ∀ t, a = some t → t ≤ now) :
    later a (some now) = some now := by
  cases a with
  | none => rfl
  | some t => exact congrArg some (Nat.max_eq_right (h t rfl))

theorem later_ne_none {a b : Option ℕ} (h : a ≠ none) : later a b ≠ none := by
  cases a with
  | none => exact absurd rfl h
  | some t => cases b <;> simp [later]

/-! ### The monitor knows what the events say -/

namespace MonitorWorld

variable {C : Type}

theorem faithful_start (manager : DeviceManager) (clock : ℕ) :
    Faithful (start manager clock : MonitorWorld C) where
  active := by simp [start, HeartbeatMonitor.start]
  lastHb := by simp [start, HeartbeatMonitor.start, later]
  activated := by simp [start]
  past := by simp [start]

theorem Faithful.setHeaterActive {w : MonitorWorld C} (h : w.Faithful) {now : ℕ}
    (hnow : w.clock ≤ now) (loads : List UInt8 → Option PyValue) (nodeId : ℤ) (active : Bool)
    (cfg : Option C) : (w.after loads (.setHeaterActive nodeId active cfg now)).Faithful := by
  have hpast : ∀ n t, w.activated n = some t ∨ w.responded n = some t → t ≤ now :=
    fun n t ht => Nat.le_trans (h.past n t ht) hnow
  have hlast : (w.monitor.setHeaterActive nodeId active cfg now).lastHb =
      if active then w.monitor.lastHb.put nodeId now else w.monitor.lastHb := by
    cases active <;> cases cfg <;> rfl
  refine ⟨fun n => ?_, fun n => ?_, fun n => ?_, fun n t => ?_⟩
  · simp only [after, HeartbeatMonitor.heaterActive_setHeaterActive, Dict.get_put,
      Function.update_apply]
    by_cases hn : n = nodeId
    · simp [hn]
    · simp [hn, h.active n]
  · simp only [after, hlast]
    cases active with
    | false => simpa using h.lastHb n
    | true =>
        simp only [if_true, Dict.get_put, Function.update_apply]
        by_cases hn : n = nodeId
        · simp only [hn, if_true]
          exact (later_some_left fun t ht => hpast nodeId t (.inr ht)).symm
        · simp [hn, h.lastHb n]
  · simp only [after, Function.update_apply]
    by_cases hn : n = nodeId
    · cases active <;> simp [hn]
    · cases active <;> simpa [hn, Function.update_apply] using h.activated n
  · simp only [after]
    cases active with
    | false => simpa using hpast n t
    | true =>
        simp only [if_true, Function.update_apply]
        by_cases hn : n = nodeId
        · simp only [hn, if_true]
          rintro (ht | ht)
          · cases ht
            exact Nat.le_refl _
          · exact hpast nodeId t (.inr ht)
        · simpa [hn] using hpast n t

theorem Faithful.heartbeatResponse {w : MonitorWorld C} (h : w.Faithful) {now : ℕ}
    (hnow : w.clock ≤ now) (loads : List UInt8 → Option PyValue) (nodeId : ℤ) :
    (w.after loads (.heartbeatResponse nodeId now)).Faithful := by
  have hpast : ∀ n t, w.activated n = some t ∨ w.responded n = some t → t ≤ now :=
    fun n t ht => Nat.le_trans (h.past n t ht) hnow
  refine ⟨h.active, fun n => ?_, h.activated, fun n t => ?_⟩
  · simp only [after, HeartbeatMonitor.onHeartbeatResponse, Dict.get_put, Function.update_apply]
    by_cases hn : n = nodeId
    · simp only [hn, if_true]
      exact (later_some_right fun t ht => hpast nodeId t (.inl ht)).symm
    · simp [hn, h.lastHb n]
  · simp only [after, Function.update_apply]
    by_cases hn : n = nodeId
    · simp only [hn, if_true]
      rintro (ht | ht)
      · exact hpast nodeId t (.inl ht)
      · cases ht
        exact Nat.le_refl _
    · simpa [hn] using hpast n t

theorem Faithful.tick {w : MonitorWorld C} (h : w.Faithful) {x : WakeUp}
    (hnow : w.clock ≤ x.now) (loads : List UInt8 → Option PyValue) :
    (w.after loads (.tick x)).Faithful where
  active n := by
    simp only [after, Bool.and_eq_true, Bool.not_eq_true', decide_eq_false_iff_not]
    rw [HeartbeatMonitor.heaterActive_tick, h.active n, Calls]
  lastHb n := by
    simp only [after]
    rw [HeartbeatMonitor.lastHb_tick]
    exact h.lastHb n
  activated n := by
    simp only [after, Bool.and_eq_true]
    exact fun hn => h.activated n hn.1
  past n t ht := Nat.le_trans (h.past n t ht) hnow

/-- Every event keeps what the monitor knows. -/
theorem faithful_step (loads : List UInt8 → Option PyValue) (w : MonitorWorld C)
    (e : MonitorEvent C) (w' : MonitorWorld C) (h : w.Faithful)
    (hstep : monitorWorld loads w e = some w') : w'.Faithful := by
  rw [monitorWorld] at hstep
  split at hstep
  · next hnow =>
      cases hstep
      cases e with
      | setHeaterActive nodeId active cfg now =>
          exact h.setHeaterActive hnow loads nodeId active cfg
      | heartbeatResponse nodeId now => exact h.heartbeatResponse hnow loads nodeId
      | packet f now =>
          exact ⟨h.active, h.lastHb, h.activated, fun n t ht => Nat.le_trans (h.past n t ht) hnow⟩
      | tick x => exact h.tick hnow loads
  · cases hstep

/-- The macro is called for the silent heaters whose node has a connected entry. -/
theorem calls_iff {w : MonitorWorld C} (h : w.Faithful) (x : WakeUp) (n : ℤ) :
    w.Calls x n ↔ w.manager.Connected n ∧ w.Silent x.now n := by
  rw [Calls, HeartbeatMonitor.callMacro_mem_tick, h.active, HeartbeatMonitor.Expired, h.lastHb,
    Silent]
  constructor
  · rintro ⟨harmed, hconnected, hexpired⟩
    obtain ⟨t, ht⟩ := Option.ne_none_iff_exists'.mp
      (later_ne_none (b := w.responded n) (h.activated n harmed))
    rw [ht] at hexpired
    exact ⟨hconnected, harmed, t, ht, hexpired⟩
  · rintro ⟨hconnected, harmed, t, ht, hexpired⟩
    rw [ht]
    exact ⟨harmed, hconnected, hexpired⟩

/-- **Silent heaters are detected** along a run exactly when, at every wake-up, each of
them belongs to a node with a connected entry. -/
theorem detects_along_iff (loads : List UInt8 → Option PyValue) (manager : DeviceManager)
    (clock : ℕ) (es : List (MonitorEvent C)) :
    System.Along (monitorWorld loads) Detects (start manager clock) es ↔
      System.Along (monitorWorld loads) SilentConnected (start manager clock) es := by
  apply System.along_iff Faithful (fun _ => True)
  · exact fun w e w' hw hstep => faithful_step loads w e w' hw hstep
  · intro w e w' hw _ _
    cases e with
    | tick x =>
        simp only [Detects, SilentConnected]
        constructor
        · exact fun hall n hn => ((calls_iff hw x n).mp ((hall n).mpr hn)).1
        · exact fun hall n => (calls_iff hw x n).trans (and_iff_right_of_imp (hall n))
    | _ => rfl
  · exact fun _ _ _ _ _ _ _ => trivial
  · exact faithful_start manager clock
  · trivial

/-- A node is connected, its heater is switched on, the node is lost, and three seconds
later the monitor wakes up. -/
def lostHeater : List (MonitorEvent Unit) :=
  [.packet ⟨1, KlipCommand.ping.code, []⟩ 0, .setHeaterActive 1 true none 1,
    .packet ⟨1, KlipCommand.error.code, []⟩ 2, .tick ⟨⟨true, []⟩, fun _ => false, 3000000002⟩]

/-- A heater that is lost altogether is not detected. -/
theorem lostHeater_not_detects :
    ¬ System.Along (monitorWorld fun _ => none) Detects (start .start 0) lostHeater := by
  rintro ⟨-, -, -, hall, -⟩
  exact absurd ((hall 1).mpr ⟨rfl, 1, rfl, by decide⟩) (by decide)

end MonitorWorld
end Klippylink
