import Klippylink.Host.Api
import Klippylink.Host.HeartbeatMonitor
import Klippylink.Host.OtaHandler

/-!
# The host process

`main` makes the modules and connects them.  The HTTP handlers get the transport, the
table of nodes and the uploader; `on_packet` hands packets to the table and the uploader;
the monitor is made in `serve`, runs there, and is handed to nothing.

Beside the state stand the heaters that a call has energised and when each node's last
HEARTBEAT was dispatched.  The monitor has to know of both.

## Main definitions

* `HostParts` — what the handlers and the table take from Python.
* `HostProcess`, `hostProcess` — the process as a system of events.
* `HostProcess.Watched` — the monitor knows of every energised heater and every answer.
* `watched_along_iff` — when it does.
-/

namespace Klippylink

open Lib

/-- What is taken from Python: the bits that `pack("<f")` makes of a float, the signs of
floats, and `json.loads`. -/
structure HostParts (F : Type) where
  packFloat : F → Option UInt32
  isPositive : F → Bool
  isZero : F → Bool
  loads : List UInt8 → Option PyValue

/-- The modules, the heaters that are energised, and when each node's last HEARTBEAT was
dispatched. -/
structure HostProcess (F : Type) where
  api : ApiHost
  ota : OtaHandler
  monitor : HeartbeatMonitor (HeaterBody F)
  energised : ℤ → Bool
  heard : ℤ → Option ℕ

/-- What can happen. -/
inductive HostEvent (F : Type)
  /-- POST heater/set, where the port takes the frame or not. -/
  | setHeater (writes : Bool) (name : String) (body : HeaterBody F)
  /-- Any other handler, or a turn of an upload: it leaves the transport, the table and
  the uploader as it likes. -/
  | call (api : ApiHost) (ota : OtaHandler)
  /-- `poll` finds this on the port. -/
  | poll (data : List UInt8) (now : ℕ)
  /-- The monitor wakes up. -/
  | wake (raises : ℤ → Bool) (now : ℕ)

namespace HostProcess

variable {F : Type} (x : HostParts F)

/-- What `main` makes, with the port open. -/
def start : HostProcess F :=
  ⟨⟨.start, ⟨true, []⟩, fun _ _ => none⟩, .start, .start, fun _ => false, fun _ => none⟩

/-- `set_heater` has built its frame; when it returns it has told nobody but the node. -/
def heaterSet (w : HostProcess F) (writes : Bool) (body : HeaterBody F) :
    Except ApiError (ApiHost × UInt8 × List UInt8) → HostProcess F
  | .error _ => w
  | .ok (_, nodeId, _) =>
      if !writes then w
      else if x.isPositive body.targetTemp then
        { w with energised := Function.update w.energised nodeId.toNat true }
      else if x.isZero body.targetTemp then
        { w with energised := Function.update w.energised nodeId.toNat false }
      else w

/-- `on_packet` of `main.py`. -/
def onPacket (now : ℕ) (w : HostProcess F) (f : Frame) : HostProcess F :=
  let h := Host.onPacket x.loads now ⟨w.api.manager, w.ota⟩ f
  { w with
    api := { w.api with manager := h.manager }
    ota := h.ota
    heard :=
      if f.packet.command = KlipCommand.heartbeat.code then
        Function.update w.heard f.nodeId.toNat (some now)
      else w.heard }

/-- What the monitor finds when it wakes up. -/
def wakeUp (w : HostProcess F) (raises : ℤ → Bool) (now : ℕ) : WakeUp :=
  ⟨w.api.transport, raises, now⟩

/-- One event. -/
def step (w : HostProcess F) : HostEvent F → HostProcess F
  | .setHeater writes name body =>
      w.heaterSet x writes body (w.api.setHeater x.packFloat name body)
  | .call api ota => { w with api := api, ota := ota }
  | .poll data now =>
      let read := w.api.transport.poll data
      let w := { w with api := { w.api with transport := read.1 } }
      read.2.foldl (onPacket x now) w
  | .wake raises now =>
      let r := w.monitor.tick w.api.manager (w.wakeUp raises now)
      { w with
        monitor := r.1
        energised := fun n =>
          w.energised n && !decide (MonitorAction.callMacro n heaterEmergency ∈ r.2) }

/-- The monitor has every energised heater marked active, and knows of every node when
its last HEARTBEAT was dispatched. -/
structure Watched (w : HostProcess F) : Prop where
  active : ∀ n, w.energised n = true → w.monitor.heaterActive.get n = some true
  answered : ∀ n t, w.heard n = some t → w.monitor.lastHb.get n = some t

/-- The call is carried out: the node is found, the numbers pack, and the port is open and
takes the frame. -/
def Accepts (w : HostProcess F) (writes : Bool) (name : String) (body : HeaterBody F) : Prop :=
  (∃ node, w.api.getNode name = .ok node) ∧
    (∃ bits, [body.targetTemp, body.kp, body.ki, body.kd].mapM x.packFloat = some bits) ∧
      w.api.transport.isOpen = true ∧ writes = true

/-- No heater is energised and no HEARTBEAT is dispatched. -/
def Unneeded (w : HostProcess F) (e : HostEvent F) (_ : HostProcess F) : Prop :=
  match e with
  | .setHeater writes name body =>
      x.isPositive body.targetTemp = true → ¬ w.Accepts x writes name body
  | .poll data _ =>
      ∀ f ∈ (w.api.transport.poll data).2, f.packet.command ≠ KlipCommand.heartbeat.code
  | _ => True

end HostProcess

/-- The host process as a system of events. -/
def hostProcess {F : Type} (x : HostParts F) : System (HostProcess F) (HostEvent F) :=
  fun w e => some (w.step x e)

namespace HostProcess

variable {F : Type} {x : HostParts F}

/-! ### Nobody talks to the monitor -/

/-- No heater is energised, and no HEARTBEAT has been dispatched. -/
structure Idle (w : HostProcess F) : Prop where
  energised : ∀ n, w.energised n = false
  heard : ∀ n, w.heard n = none

@[simp] theorem monitor_foldl_onPacket (now : ℕ) (fs : List Frame) (w : HostProcess F) :
    (fs.foldl (onPacket x now) w).monitor = w.monitor := by
  induction fs generalizing w with
  | nil => rfl
  | cons f fs ih => exact ih _

@[simp] theorem energised_foldl_onPacket (now : ℕ) (fs : List Frame) (w : HostProcess F) :
    (fs.foldl (onPacket x now) w).energised = w.energised := by
  induction fs generalizing w with
  | nil => rfl
  | cons f fs ih => exact ih _

theorem monitor_heaterSet (w : HostProcess F) (writes : Bool) (body : HeaterBody F)
    (r : Except ApiError (ApiHost × UInt8 × List UInt8)) :
    (w.heaterSet x writes body r).monitor = w.monitor := by
  cases r with
  | error e => rfl
  | ok r =>
      simp only [heaterSet]
      split
      · rfl
      · split
        · rfl
        · split <;> rfl

/-- The monitor stays as it was made. -/
theorem monitor_step (w : HostProcess F) (e : HostEvent F) (h : w.monitor = .start) :
    (w.step x e).monitor = .start := by
  cases e with
  | setHeater writes name body => rw [step, monitor_heaterSet, h]
  | call api ota => exact h
  | poll data now => rw [step, monitor_foldl_onPacket, h]
  | wake raises now =>
      simp only [step]
      rw [h]
      rfl

/-- With the monitor as it was made, everything is watched when there is nothing to
watch. -/
theorem watched_iff {w : HostProcess F} (h : w.monitor = .start) : w.Watched ↔ w.Idle := by
  constructor
  · rintro ⟨hactive, hanswered⟩
    rw [h] at hactive hanswered
    refine ⟨fun n => ?_, fun n => ?_⟩
    · cases hn : w.energised n with
      | false => rfl
      | true => cases hactive n hn
    · cases hn : w.heard n with
      | none => rfl
      | some t => cases hanswered n t hn
  · rintro ⟨henergised, hheard⟩
    refine ⟨fun n hn => ?_, fun n t hn => ?_⟩
    · rw [henergised n] at hn
      cases hn
    · rw [hheard n] at hn
      cases hn

/-! ### When there is nothing to watch -/

theorem heard_foldl_onPacket (now : ℕ) (fs : List Frame) (w : HostProcess F) :
    (∀ n, (fs.foldl (onPacket x now) w).heard n = none) ↔
      (∀ n, w.heard n = none) ∧ ∀ f ∈ fs, f.packet.command ≠ KlipCommand.heartbeat.code := by
  induction fs generalizing w with
  | nil => simp
  | cons f fs ih =>
      rw [List.foldl_cons, ih, List.forall_mem_cons, ← and_assoc]
      refine and_congr_left fun _ => ?_
      by_cases hf : f.packet.command = KlipCommand.heartbeat.code
      · simp only [onPacket, hf, if_true, ne_eq, not_true_eq_false, and_false, iff_false]
        intro hnone
        have hself := hnone f.nodeId.toNat
        rw [Function.update_self] at hself
        cases hself
      · simp [onPacket, hf]

theorem idle_setHeater {w : HostProcess F} (h : w.Idle) (writes : Bool) (name : String)
    (body : HeaterBody F) :
    (w.step x (.setHeater writes name body)).Idle ↔
      (x.isPositive body.targetTemp = true → ¬ w.Accepts x writes name body) := by
  simp only [step]
  by_cases haccepts : w.Accepts x writes name body
  · have hacc := haccepts
    obtain ⟨⟨node, hnode⟩, hbits, hopen, rfl⟩ := haccepts
    obtain ⟨api, bytes, hset⟩ := ApiHost.setHeater_isOk.mpr ⟨⟨node, hnode, rfl⟩, hbits, hopen⟩
    rw [hset]
    simp only [heaterSet, Bool.not_true, Bool.false_eq_true, if_false]
    split
    · next hpos =>
        refine iff_of_false (fun hidle => ?_) fun hno => hno hpos hacc
        have hself := hidle.energised node.nodeId.toNat
        simp at hself
    · next hpos =>
        refine iff_of_true ?_ fun hp => absurd hp hpos
        split
        · refine ⟨fun n => ?_, h.heard⟩
          simp [Function.update_apply, h.energised]
        · exact h
  · refine iff_of_true ?_ fun _ => haccepts
    cases hset : w.api.setHeater x.packFloat name body with
    | error e => exact h
    | ok r =>
        obtain ⟨api, nodeId, bytes⟩ := r
        obtain ⟨⟨node, hnode, -⟩, hbits, hopen⟩ := ApiHost.setHeater_isOk.mp ⟨api, bytes, hset⟩
        cases writes with
        | false => exact h
        | true => exact absurd ⟨⟨node, hnode⟩, hbits, hopen, rfl⟩ haccepts

/-- An event leaves nothing to watch exactly when it energises no heater and dispatches
no HEARTBEAT. -/
theorem idle_step {w w' : HostProcess F} {e : HostEvent F} (h : w.Idle) :
    (w.step x e).Idle ↔ Unneeded x w e w' := by
  cases e with
  | setHeater writes name body => exact idle_setHeater h writes name body
  | call api ota => exact iff_of_true ⟨h.energised, h.heard⟩ trivial
  | poll data now =>
      have hheard := heard_foldl_onPacket (x := x) now (w.api.transport.poll data).2
        { w with api := { w.api with transport := (w.api.transport.poll data).1 } }
      constructor
      · exact fun hidle => (hheard.mp hidle.heard).2
      · intro hall
        refine ⟨fun n => ?_, hheard.mpr ⟨h.heard, hall⟩⟩
        simp only [step, energised_foldl_onPacket]
        exact h.energised n
  | wake raises now =>
      refine iff_of_true ⟨fun n => ?_, h.heard⟩ trivial
      simp [step, h.energised n]

/-- **The monitor knows of every energised heater and of every answer** along a run
exactly when there is none in it: no POST heater/set with a positive target is carried
out, and no HEARTBEAT is dispatched. -/
theorem watched_along_iff (x : HostParts F) (es : List (HostEvent F)) :
    System.Along (hostProcess x) (fun _ _ w' => w'.Watched) start es ↔
      System.Along (hostProcess x) (Unneeded x) start es := by
  apply System.along_iff (fun w => w.monitor = .start) Idle
  · intro w e w' hw hstep
    cases hstep
    exact monitor_step w e hw
  · intro w e w' hw hidle hstep
    cases hstep
    exact (watched_iff (monitor_step w e hw)).trans (idle_step hidle)
  · intro w e w' _ hidle hstep hguard
    cases hstep
    exact (idle_step hidle).mpr hguard
  · rfl
  · exact ⟨fun _ => rfl, fun _ => rfl⟩

/-- Floats that are given by the bits of their binary32 value. -/
def binary32Parts : HostParts UInt32 :=
  ⟨some, fun b => 0 < b ∧ b ≤ 0x7F800000, fun b => b = 0 ∨ b = 0x80000000, fun _ => none⟩

/-- Node 1 is connected, and its heater is set to 200 degrees. -/
def heatedNode : List (HostEvent UInt32) :=
  [.poll [1, 0x4C, 0x4B, KlipCommand.ping.code, 0] 0,
    .setHeater true "node_1" ⟨0x43480000, 0x3F800000, 0x3DCCCCCD, 0x3C23D70A⟩]

/-- The monitor has not heard of it. -/
theorem heatedNode_not_watched :
    ¬ System.Along (hostProcess binary32Parts) (fun _ _ w' => w'.Watched) start heatedNode := by
  rintro ⟨-, ⟨hactive, -⟩, -⟩
  have hmarked := hactive 1 (by decide)
  cases hmarked

end HostProcess
end Klippylink
