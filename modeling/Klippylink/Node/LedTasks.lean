import Klippylink.Lib.Mutex
import Klippylink.Node.Boot

/-!
# The zones, statement by statement

The callback of the GATT server and the effects task both work on `s_zones`, each in sections
under `s_mutex`.  Here a section is its assignments and its calls of `neopixel_set_pixel`, and
any of them may come between any two of another task, as far as the mutex lets it.

`ledTasks_refine` says that the node of `LedNode`, in which a packet and a round are one step
each, leaves out nothing: every run of the tasks leaves what its sections leave there.

## Main definitions

* `LedMemory`, `ZoneSection`, `ZoneSection.code` — the sections, as their statements.
* `ZoneSection.event` — what a section is in `ledNode`.
* `ledTasks`, `FollowsNode` — the tasks at work, and what they leave.
-/

namespace Klippylink

open Lib

/-- What the sections work on: `s_zones`, and the buffers of the strips. -/
structure LedMemory where
  zones : Vector ZoneState ledMaxZones
  pixels : Pixels

/-- A section under `s_mutex`. -/
inductive ZoneSection
  /-- Of `led_effects_set_zone`. -/
  | set (zoneId : Fin ledMaxZones) (cfg : LedZoneCfg)
  /-- Of `led_effects_clear_zone`. -/
  | clear (zoneId : Fin ledMaxZones)
  /-- Of one round of `effects_task`. -/
  | round (draws : Fin ledMaxZones → Draws)

namespace LedMemory

/-- An assignment to a zone. -/
def assign (m : LedMemory) (i : Fin ledMaxZones) (f : ZoneState → ZoneState) : LedMemory :=
  { m with zones := m.zones.set i (f (m.zones.get i)) i.isLt }

/-- `neopixel_set_pixel`. -/
def setPixel (strips : StripTable) (m : LedMemory) (call : PixelCall) : LedMemory :=
  { m with pixels := m.pixels.show strips [call] }

end LedMemory

section Code

variable (x : LedSetup)

/-- A loop of calls of `neopixel_set_pixel`. -/
def setPixels (calls : List PixelCall) : Prog LedMemory :=
  .each (fun call => .act fun m => m.setPixel x.strips call) calls

/-- `led_effects_set_zone`: the configuration that is copied is not active yet. -/
def setZoneCode (i : Fin ledMaxZones) (cfg : LedZoneCfg) : Prog LedMemory :=
  (Prog.act fun m => m.assign i fun z => { z with active := false, cfg := cfg }).seq <|
    (Prog.act fun m => m.assign i fun z => { z with active := true }).seq <|
      Prog.act fun m => m.assign i fun z => { z with tick := 0 }

/-- `led_effects_clear_zone`. -/
def clearZoneCode (i : Fin ledMaxZones) : Prog LedMemory :=
  (Prog.look fun m =>
    if (m.zones.get i).active then
      setPixels x ((List.range (m.zones.get i).cfg.count.toNat).map fun k =>
        (m.zones.get i).cfg.pixel k dark)
    else .done).seq <|
  Prog.act fun m => m.assign i fun _ => .zero

/-- The body of the loop of `effects_task`: one zone. -/
def drawCode (draws : Fin ledMaxZones → Draws) (i : Fin ledMaxZones) : Prog LedMemory :=
  .look fun m =>
    if (m.zones.get i).active then
      match renderZone x.level (m.zones.get i) (draws i) with
      -- the division stops the processor
      | .error _ => .step (fun _ => none) fun _ => .done
      | .ok r => (setPixels x r.2).seq (.act fun m => m.assign i fun z => { z with tick := r.1 })
    else .done

/-- A section, as its statements. -/
def ZoneSection.code : ZoneSection → Prog LedMemory
  | .set zoneId cfg => setZoneCode zoneId cfg
  | .clear zoneId => clearZoneCode x zoneId
  | .round draws => .each (drawCode x draws) (List.finRange ledMaxZones)

end Code

/-- What a section is in `ledNode`: a packet, or a round. -/
def ZoneSection.event (beyond : ℕ → UInt8) (out : Outcomes) : ZoneSection → LedEvent
  | .set zoneId cfg => .packet ((zoneSetPacket (UInt8.ofNat zoneId) cfg).written beyond) out
  | .clear zoneId => .packet ((zoneClrPacket (UInt8.ofNat zoneId)).written beyond) out
  | .round draws => .pass draws

/-! ### A section as one step -/

section Whole

variable (x : LedSetup) (m : LedMemory)

theorem show_cons (pixels : Pixels) (strips : StripTable) (call : PixelCall)
    (calls : List PixelCall) :
    pixels.show strips (call :: calls) = (pixels.show strips [call]).show strips calls := by
  rw [Pixels.show, Pixels.show, Pixels.show, ← replay_append, ← List.filterMap_append]
  rfl

theorem run_setPixels (calls : List PixelCall) :
    (setPixels x calls).run m = some { m with pixels := m.pixels.show x.strips calls } := by
  rw [setPixels, Prog.run_each (fun _ _ => rfl)]
  congr 1
  induction calls generalizing m with
  | nil => rfl
  | cons call calls ih =>
      rw [List.foldl_cons, ih, show_cons]
      rfl

/-- The zones of a memory, with the mutex there. -/
def LedMemory.effects (m : LedMemory) : LedEffects := ⟨m.zones, true⟩

theorem run_drawCode (draws : Fin ledMaxZones → Draws) (i : Fin ledMaxZones) :
    (drawCode x draws i).run m =
      if (m.effects.slot i).active then
        match renderZone x.level (m.effects.slot i) (draws i) with
        | .error _ => none
        | .ok r => some ⟨(m.effects.drawn i r.1).zones, m.pixels.show x.strips r.2⟩
      else some m := by
  have hslot : m.zones.get i = m.effects.slot i := rfl
  simp only [drawCode, Prog.run_look, hslot]
  split
  · cases renderZone x.level (m.effects.slot i) (draws i) with
    | error fault => rfl
    | ok r =>
        simp only [Prog.run_seq, run_setPixels, Option.bind_some]
        rfl
  · rfl

theorem run_round (draws : Fin ledMaxZones → Draws) (order : List (Fin ledMaxZones)) :
    (Prog.each (drawCode x draws) order).run m =
      match drawZones x.level draws order m.effects with
      | .error _ => none
      | .ok r => some ⟨r.1.zones, m.pixels.show x.strips r.2⟩ := by
  induction order generalizing m with
  | nil => rfl
  | cons i order ih =>
      rw [Prog.each, Prog.run_seq, run_drawCode, drawZones]
      split
      · cases renderZone x.level (m.effects.slot i) (draws i) with
        | error fault => rfl
        | ok r =>
            have hdrawn : LedMemory.effects ⟨(m.effects.drawn i r.1).zones,
                m.pixels.show x.strips r.2⟩ = m.effects.drawn i r.1 := rfl
            simp only [Option.bind_some, ih, hdrawn, bind, Except.bind]
            cases drawZones x.level draws order (m.effects.drawn i r.1) with
            | error fault => rfl
            | ok later =>
                simp only [pure, Except.pure]
                rw [Pixels.show, Pixels.show, Pixels.show, List.filterMap_append, replay_append]
      · exact ih m

/-- The section of a round. -/
theorem run_code_round (draws : Fin ledMaxZones → Draws) :
    ((ZoneSection.round draws).code x).run m =
      match effectsPass x.level draws m.effects with
      | .error _ => none
      | .ok r => some ⟨r.effects.zones, m.pixels.show x.strips r.calls⟩ := by
  rw [ZoneSection.code, run_round, effectsPass]
  cases drawZones x.level draws (List.finRange ledMaxZones) m.effects <;> rfl

theorem toNat_zoneId (i : Fin ledMaxZones) : (UInt8.ofNat i).toNat = i :=
  toNat_byte (Nat.le_trans (Nat.le_of_lt i.isLt) (by decide))

/-- Assignments to one zone, one after another. -/
theorem assign_assign (i : Fin ledMaxZones) (f g : ZoneState → ZoneState) :
    (m.assign i f).assign i g = m.assign i (g ∘ f) := by
  have hget : (m.zones.set i (f (m.zones.get i)) i.isLt).get i = f (m.zones.get i) :=
    Vector.getElem_set_self i.isLt
  rw [LedMemory.assign, LedMemory.assign, LedMemory.assign, hget, Vector.set_set]
  rfl

/-- The section of `led_effects_set_zone`. -/
theorem run_code_set (i : Fin ledMaxZones) (cfg : LedZoneCfg) :
    ((ZoneSection.set i cfg).code x).run m =
      (ledEffectsSetZone m.effects (UInt8.ofNat i) cfg).map fun r =>
        ⟨r.effects.zones, m.pixels.show x.strips r.calls⟩ := by
  have hlt : ¬ ledMaxZones ≤ (i : ℕ) := Nat.not_le.mpr i.isLt
  simp only [ledEffectsSetZone, toNat_zoneId, hlt, dite_false, LedMemory.effects, if_true,
    Option.map_some]
  simp only [ZoneSection.code, setZoneCode, Prog.run_seq, Prog.run_act, Option.bind_some,
    assign_assign]
  rfl

/-- The section of `led_effects_clear_zone`. -/
theorem run_code_clear (i : Fin ledMaxZones) :
    ((ZoneSection.clear i).code x).run m =
      (ledEffectsClearZone m.effects (UInt8.ofNat i)).map fun r =>
        ⟨r.effects.zones, m.pixels.show x.strips r.calls⟩ := by
  have hlt : ¬ ledMaxZones ≤ (i : ℕ) := Nat.not_le.mpr i.isLt
  simp only [ledEffectsClearZone, toNat_zoneId, hlt, dite_false, LedMemory.effects, if_true]
  simp only [ZoneSection.code, clearZoneCode, Prog.run_seq, Prog.run_look]
  simp only [Fin.eta]
  by_cases hactive : (m.zones.get i).active = true
  · simp only [hactive, if_true, run_setPixels, Option.bind_some, Prog.run_act, Option.map_some]
    rw [EffectsReturn.calls, List.map_map]
    rfl
  · simp only [hactive]
    rfl

end Whole

/-! ### The tasks and the node -/

/-- `led_effects_init` has run, and nothing is lit. -/
def LedMemory.start : LedMemory := ⟨Vector.replicate _ .zero, fun _ => dark⟩

/-- The memory as a node of `ledNode`. -/
def LedMemory.node (server : GattServer) (m : LedMemory) : LedNode :=
  ⟨server, m.effects, m.pixels, false⟩

theorem effects_eq {e : LedEffects} {pixels : Pixels} (h : e.mutex = true) :
    LedMemory.effects ⟨e.zones, pixels⟩ = e := by
  obtain ⟨zones, mutex⟩ := e
  cases h
  rfl

/-- **A whole section is an event of the node.** -/
theorem ledNode_event (x : LedSetup) (server : GattServer) (beyond : ℕ → UInt8) (out : Outcomes)
    {m m' : LedMemory} {c : ZoneSection} (h : (c.code x).run m = some m') :
    ledNode x (m.node server) (c.event beyond out) = some (m'.node server) := by
  have hrunning : (m.node server).stopped = false := rfl
  cases c with
  | set i cfg =>
      rw [run_code_set] at h
      obtain ⟨r, hr, rfl⟩ := Option.map_eq_some_iff.mp h
      have hperform : m.effects.perform (.ledEffectsSetZone (UInt8.ofNat i) cfg) =
          some r.effects := Option.map_eq_some_iff.mpr ⟨r, hr, rfl⟩
      have hmutex : r.effects.mutex = true := mutex_perform hperform
      have hwrite := writeEvt_zoneSetPacket server x.build beyond out (UInt8.ofNat i) cfg
      simp only [ledNode, ZoneSection.event, LedNode.packet, LedMemory.node, hwrite, hr,
        Option.map_some, LedNode.returned, effects_eq hmutex]
      rfl
  | clear i =>
      rw [run_code_clear] at h
      obtain ⟨r, hr, rfl⟩ := Option.map_eq_some_iff.mp h
      have hperform : m.effects.perform (.ledEffectsClearZone (UInt8.ofNat i)) =
          some r.effects := Option.map_eq_some_iff.mpr ⟨r, hr, rfl⟩
      have hmutex : r.effects.mutex = true := mutex_perform hperform
      have hwrite := writeEvt_zoneClrPacket server x.build beyond out (UInt8.ofNat i)
      simp only [ledNode, ZoneSection.event, LedNode.packet, LedMemory.node, hwrite, hr,
        Option.map_some, LedNode.returned, effects_eq hmutex]
      rfl
  | round draws =>
      rw [run_code_round] at h
      split at h
      · cases h
      · next r hr =>
          cases h
          obtain ⟨drawn, hdrawn, hret⟩ := bind_eq_ok.mp hr
          cases hret
          have hmutex : drawn.1.mutex = true := (zone_drawZones x.level draws hdrawn).2
          simp only [ledNode, ZoneSection.event, LedNode.pass, LedMemory.node, hr,
            effects_eq hmutex]
          rfl

section Tasks

variable {τ : Type} [DecidableEq τ]

/-- The callback and the effects task at work, from the start of the engine. -/
def ledTasks (x : LedSetup) : System (Guarded τ LedMemory) (GuardEvent τ ZoneSection) :=
  guarded (ZoneSection.code x)

/-- When no task is in a section, the zones and the buffers are those of the node after these
packets and rounds.  When one is, they were so when it took the mutex, and once its section is
over they are so again. -/
def FollowsNode (x : LedSetup) (server : GattServer) (beyond : ℕ → UInt8) (out : Outcomes)
    (taken : List (τ × ZoneSection)) (g : Guarded τ LedMemory) : Prop :=
  match g.holder with
  | none => (ledNode x).run (LedNode.start server)
      (taken.map fun c => c.2.event beyond out) = some (g.shared.node server)
  | some (t, rest) => ∃ before c, ∃ m : LedMemory, taken = before ++ [(t, c)] ∧
      (ledNode x).run (LedNode.start server)
        (before.map fun c => c.2.event beyond out) = some (m.node server) ∧
      ∀ m', rest.run g.shared = some m' →
        ledNode x (m.node server) (c.event beyond out) = some (m'.node server)

/-- **The node leaves nothing out.**  However the statements of the tasks come, what they leave
is what the node has after their sections, in the order in which they took the mutex. -/
theorem ledTasks_refine (x : LedSetup) (server : GattServer) (beyond : ℕ → UInt8)
    (out : Outcomes) {es : List (GuardEvent τ ZoneSection)} {g : Guarded τ LedMemory}
    (hrun : (ledTasks x).run ⟨LedMemory.start, none⟩ es = some g) :
    FollowsNode x server beyond out (sections es) g := by
  have hsim : ∀ cs m m', System.run (@whole τ _ _ (ZoneSection.code x)) m cs = some m' →
      (ledNode x).run (m.node server) (cs.map fun c => c.2.event beyond out) =
        some (m'.node server) := by
    intro cs m m' hcs
    rw [System.run_map]
    obtain ⟨n, hn, rfl⟩ := System.run_simulation (fun m n => n = m.node server)
      (fun m c m' n hn hstep => ⟨m'.node server, hn ▸ ledNode_event x server beyond out hstep, rfl⟩)
      cs m m' _ rfl hcs
    exact hn
  have hserial : Serial (ZoneSection.code x) (fun _ _ => True) LedMemory.start (sections es) g :=
    serial_of_run (fun _ => trivial) (fun _ _ => trivial) (fun c => (c.code x).keeps_true) hrun
  rw [Serial] at hserial
  rw [FollowsNode]
  cases hholder : g.holder with
  | none =>
      rw [hholder] at hserial
      exact hsim _ _ _ hserial
  | some holder =>
      rw [hholder] at hserial
      obtain ⟨before, c, m, hsections, hbefore, hrest, -, -⟩ := hserial
      refine ⟨before, c, m, hsections, hsim _ _ _ hbefore, fun m' hm' => ?_⟩
      exact ledNode_event x server beyond out (hrest.trans hm')

end Tasks

/-- A round that finds no zone to draw, and then the first assignment of a set. -/
def setAfterLook : List (GuardEvent Bool ZoneSection) :=
  .take false (.round fun _ => ⟨0, 0⟩) :: List.replicate 8 (.go false) ++
    [.give false, .take true (.set 0 ⟨0, 3, 1, 0, (255, 0, 0), (0, 0, 0), 255, 128⟩), .go true]

theorem ledTasks_refine_setAfterLook :
    ∃ g, (ledTasks oneStrip).run ⟨LedMemory.start, none⟩ setAfterLook = some g ∧
      FollowsNode oneStrip GattServer.start (fun _ => 0) noOutcomes (sections setAfterLook) g :=
  ⟨_, rfl, ledTasks_refine oneStrip GattServer.start (fun _ => 0) noOutcomes rfl⟩

end Klippylink
