import Klippylink.Bridge.Listing
import Klippylink.Node.Animation

/-!
# What the recorded zones show

From a call of the host to the pixels: the zones that the host has recorded, the frames on
their way, the node, and the buffers that the rounds of its effects task draw into.  Once every
frame has arrived, one round is enough for the strips to show what the host has recorded.

## Main definitions

* `ShownSetup`, `ShownWorld`, `shownWorld` — the system.
* `LedZone.Covers` — the pixels of a recorded zone.
* `recorded_zones_show` — they show a frame of the zone.
-/

namespace Klippylink

open Lib

/-- What is fixed: the node's id on the host, and the node. -/
structure ShownSetup where
  nodeId : UInt8
  led : LedSetup

/-- The zones of both sides are of this node. -/
def ShownSetup.zones (x : ShownSetup) : ZoneSetup := ⟨x.nodeId, x.led.build⟩

/-- The zones of both sides, the buffers, and whether the processor has stopped. -/
structure ShownWorld where
  zones : ZoneWorld
  pixels : Pixels
  stopped : Bool

/-- What can happen. -/
inductive ShownEvent
  | set (name : String) (body : LedZoneBody)
  | clear (name : String) (zoneId : ℤ)
  /-- The node gets the packet of the next frame. -/
  | deliver (beyond : ℕ → UInt8) (out : Outcomes)
  /-- A round of the effects task. -/
  | pass (draws : Fin ledMaxZones → Draws)

namespace ShownWorld

/-- The node. -/
def node (w : ShownWorld) : LedNode := ⟨w.zones.server, w.zones.effects, w.pixels, w.stopped⟩

/-- The node has come to this, with these frames still on their way. -/
def after (w : ShownWorld) (line : List (List UInt8)) (n : LedNode) : ShownWorld :=
  ⟨{ w.zones with line := line, server := n.server, effects := n.effects }, n.pixels, n.stopped⟩

/-- One event. -/
def step (x : ShownSetup) (w : ShownWorld) : ShownEvent → Option ShownWorld
  | .set name body => (w.zones.step x.zones (.set name body)).map fun zones => { w with zones }
  | .clear name zoneId =>
      (w.zones.step x.zones (.clear name zoneId)).map fun zones => { w with zones }
  | .deliver beyond out =>
      match w.zones.line with
      | [] => none
      | bytes :: rest =>
          (ledNode x.led w.node (.packet ⟨bytes.tail, beyond⟩ out)).map (w.after rest)
  | .pass draws => (ledNode x.led w.node (.pass draws)).map (w.after w.zones.line)

/-- The host has recorded nothing, the effects engine has been started, and nothing is lit. -/
def start (host : ApiHost) (server : GattServer) : ShownWorld :=
  ⟨⟨host, [], server, ledEffectsInit LedEffects.start, []⟩, fun _ => dark, false⟩

end ShownWorld

/-- The host and the node as a system of events. -/
def shownWorld (x : ShownSetup) : System ShownWorld ShownEvent := fun w e => w.step x e

/-- The pixels of a recorded zone. -/
def LedZone.Covers (z : LedZone) (p : Pixel) : Prop :=
  z.strip = p.1 ∧ z.start ≤ p.2 ∧ (p.2 : ℤ) < z.start + z.count

/-! ### The zones of both sides -/

/-- A packet about a zone is carried out. -/
theorem LedStep.perform {x : LedSetup} {n n' : LedNode} {w : Written} {out : Outcomes}
    (h : LedStep x n (.packet w out) n') :
    n'.server = (n.server.writeEvt x.build w out).1 ∧
      (n.server.writeEvt x.build w out).2.foldlM LedEffects.perform n.effects =
        some n'.effects := by
  cases h with
  | set hcall hr =>
      refine ⟨rfl, ?_⟩
      rw [hcall]
      simp [LedEffects.perform, hr, LedNode.returned]
  | clear hcall hr =>
      refine ⟨rfl, ?_⟩
      rw [hcall]
      simp [LedEffects.perform, hr, LedNode.returned]

/-- Nothing is recorded, and no zone is active. -/
theorem zonesKept_start (x : ZoneSetup) {host : ApiHost}
    (hhost : ∀ id, host.zones x.nodeId id = none) (server : GattServer) (effects : LedEffects)
    (heffects : ∀ i, effects.zone i = none) : ZonesKept x ⟨host, [], server, effects, []⟩ := by
  refine ⟨hhost, by simp, [], [], rfl, .nil, fun i _ => ?_⟩
  rw [heffects]
  exact .none

/-- **Every step keeps the calls, the line and the two tables together.** -/
theorem zonesKept_shown {x : ShownSetup} (w : ShownWorld) (e : ShownEvent) (w' : ShownWorld)
    (h : ZonesKept x.zones w.zones) (hstep : shownWorld x w e = some w') :
    ZonesKept x.zones w'.zones := by
  cases e with
  | set name body =>
      obtain ⟨zones, hzones, rfl⟩ := Option.map_eq_some_iff.mp hstep
      exact zonesKept_step w.zones (.set name body) zones h hzones
  | clear name zoneId =>
      obtain ⟨zones, hzones, rfl⟩ := Option.map_eq_some_iff.mp hstep
      exact zonesKept_step w.zones (.clear name zoneId) zones h hzones
  | deliver beyond out =>
      simp only [shownWorld, ShownWorld.step] at hstep
      split at hstep
      · cases hstep
      · next bytes rest hline =>
          obtain ⟨n, hn, rfl⟩ := Option.map_eq_some_iff.mp hstep
          obtain ⟨hserver, hperform⟩ := (ledStep_of_step hn).2.perform
          refine zonesKept_step w.zones (.deliver beyond out) _ h ?_
          simp only [zoneWorld, ZoneWorld.step, hline]
          refine Option.map_eq_some_iff.mpr ⟨n.effects, hperform, ?_⟩
          rw [ShownWorld.after, hserver]
          rfl
  | pass draws =>
      obtain ⟨n, hn, rfl⟩ := Option.map_eq_some_iff.mp hstep
      obtain ⟨done, pending, hcalls, hline, hshows⟩ := h.split
      have hzone : n.effects.zone = w.zones.effects.zone := by
        cases (ledStep_of_step hn).2 with
        | stop hfault => rfl
        | pass hr => exact zone_effectsPass hr
      refine ⟨h.host, h.ids, done, pending, hcalls, hline, fun i hi => ?_⟩
      rw [show (w.after w.zones.line n).zones.effects.zone = _ from hzone]
      exact hshows i hi

/-! ### The pixels -/

/-- A pixel of the packed zone is one of the recorded zone. -/
theorem Packs.mem_range {z : LedZone} {id : UInt8} {c : LedZoneCfg} (h : Packs z.body id c)
    {p : Pixel} : p ∈ c.range ↔ z.Covers p := by
  have hstrip : z.strip = c.stripIdx.toNat := h.strip
  have hstart : z.start = c.start.toNat := h.start
  have hcount : z.count = c.count.toNat := h.count
  rw [LedZone.Covers, hstrip, hstart, hcount]
  show p.1 = c.stripIdx.toNat ∧ c.start.toNat ≤ p.2 ∧ p.2 < c.start.toNat + c.count.toNat ↔ _
  omega

/-- An effect that sets every pixel in every round. -/
theorem frame_isSome {level : UInt32 → UInt32 → UInt8 → UInt8} {c : LedZoneCfg}
    (h : c.effect.toNat < 6) (t : ℕ) (draws : Draws) (i : ℕ) :
    ∃ rgb, c.frame level t draws i = some rgb := by
  have hcode : ∀ k : Fin 6, ∃ effect ∈ LedEffectId.ofCode (UInt8.ofNat k), effect ≠ .twinkle := by
    decide
  obtain ⟨effect, heffect, htwinkle⟩ := hcode ⟨c.effect.toNat, h⟩
  rw [UInt8.ofNat_toNat] at heffect
  cases effect with
  | twinkle => exact absurd rfl htwinkle
  | _ => exact ⟨_, by rw [LedZoneCfg.frame, heffect]⟩

theorem rel_some_left {α β : Type} {R : α → β → Prop} {a : α} {y : Option β}
    (h : Option.Rel R (some a) y) : ∃ b, y = some b ∧ R a b := by
  cases h with
  | some hR => exact ⟨_, rfl, hR⟩

theorem rel_some_right {α β : Type} {R : α → β → Prop} {x : Option α} {b : β}
    (h : Option.Rel R x (some b)) : ∃ a, x = some a ∧ R a b := by
  cases h with
  | some hR => exact ⟨_, rfl, hR⟩

/-- The zone of an id, on both sides, when nothing is on its way. -/
theorem ZonesKept.packs {x : ZoneSetup} {w : ZoneWorld} (h : ZonesKept x w) (hline : w.line = [])
    {i : ℕ} (hi : i < ledMaxZones) :
    Option.Rel (fun z c => ∃ id, Packs z.body id c) (w.host.zones x.nodeId i)
      (w.effects.zone i) := by
  obtain ⟨done, pending, hcalls, hpending, hshows⟩ := h.split
  rw [hline] at hpending
  cases hpending
  rw [List.append_nil] at hcalls
  have hrel := hshows i hi
  rw [h.host, hcalls]
  generalize w.effects.zone i = zone at hrel ⊢
  generalize standing done (i : ℤ) = body at hrel ⊢
  cases hrel with
  | none => exact .none
  | some hpacks => exact .some hpacks

/-- A round shows a recorded zone, when nothing is on its way, on the pixels that no recorded zone
with a greater id has. -/
theorem ZonesKept.shown {x : ShownSetup} {w : ZoneWorld} (h : ZonesKept x.zones w)
    (hline : w.line = []) (pixels : Pixels) {draws : Fin ledMaxZones → Draws} {r : PassReturn}
    (hr : effectsPass x.led.level draws w.effects = .ok r) {i : Fin ledMaxZones} {z : LedZone}
    (hz : w.host.zones x.nodeId (i : ℕ) = some z) (heffect : z.effect < 6) {p : Pixel}
    (hpixel : p ∈ x.led.strips.pixels) (hp : z.Covers p)
    (habove : ∀ j : Fin ledMaxZones, i < j → ∀ z', w.host.zones x.nodeId (j : ℕ) = some z' →
      ¬ z'.Covers p) :
    ∃ id c t, Packs z.body id c ∧
      c.frame x.led.level t (draws i) (p.2 - c.start.toNat) =
        some (pixels.show x.led.strips r.calls p) := by
  have hrel : ∀ j : Fin ledMaxZones, Option.Rel (fun z c => ∃ id, Packs z.body id c)
      (w.host.zones x.nodeId (j : ℕ)) (w.effects.zone j) := fun j => h.packs hline j.isLt
  -- no zone above it has the pixel
  have hclear : ∀ j, i < j → p ∉ w.effects.area j := by
    intro j hj hmem
    obtain ⟨c', hc', hp'⟩ := LedEffects.mem_area.mp hmem
    obtain ⟨z', hz', id', hpacks'⟩ := rel_some_right (hc' ▸ hrel j)
    exact habove j hj z' hz' (hpacks'.mem_range.mp hp')
  obtain ⟨c, hc, id, hpacks⟩ := rel_some_left (hz ▸ hrel i)
  have hlt : c.effect.toNat < 6 := by
    have heq : z.effect = c.effect.toNat := hpacks.effect
    omega
  obtain ⟨rgb, hrgb⟩ := @frame_isSome x.led.level c hlt
    (w.effects.slot i).tick.toNat (draws i) (p.2 - c.start.toNat)
  refine ⟨id, c, _, hpacks, hrgb.trans (congrArg some ?_)⟩
  obtain ⟨hactive, rfl⟩ := LedEffects.zone_eq_some_iff.mp hc
  exact (show_effectsPass pixels hr hactive ⟨hpacks.mem_range.mpr hp, hpixel⟩ hclear hrgb).symm

/-- **The recorded zones are what the strips show.**  In every run of calls, deliveries and
rounds: after a round, when no frame is on its way, a pixel of a recorded zone whose effect
sets every pixel, and of no recorded zone with a greater id, shows a frame of it. -/
theorem recorded_zones_show (x : ShownSetup) (host : ApiHost) (server : GattServer)
    (hhost : ∀ id, host.zones x.nodeId id = none) {es : List ShownEvent}
    {draws : Fin ledMaxZones → Draws} {w : ShownWorld}
    (hrun : (shownWorld x).run (ShownWorld.start host server) (es ++ [.pass draws]) = some w)
    (hrunning : w.stopped = false) (hline : w.zones.line = []) {i : Fin ledMaxZones} {z : LedZone}
    (hz : w.zones.host.zones x.nodeId (i : ℕ) = some z) (heffect : z.effect < 6) {p : Pixel}
    (hpixel : p ∈ x.led.strips.pixels) (hp : z.Covers p)
    (habove : ∀ j : Fin ledMaxZones, i < j → ∀ z', w.zones.host.zones x.nodeId (j : ℕ) = some z' →
      ¬ z'.Covers p) :
    ∃ id c t, Packs z.body id c ∧
      c.frame x.led.level t (draws i) (p.2 - c.start.toNat) = some (w.pixels p) := by
  obtain ⟨before, hbefore, hstep⟩ := System.run_snoc_eq_some.mp hrun
  have hkept := System.run_induction (fun w => ZonesKept x.zones w.zones) zonesKept_shown es _ _
    (zonesKept_start x.zones hhost server _ fun i => LedEffects.zone_init _ i) hbefore
  obtain ⟨n, hn, rfl⟩ := Option.map_eq_some_iff.mp hstep
  cases (ledStep_of_step hn).2 with
  | stop hfault => cases hrunning
  | pass hr => exact hkept.shown hline before.pixels hr hz heffect hpixel hp habove

/-- A node with one strip. -/
def lampSetup : ShownSetup := ⟨0, oneStrip⟩

/-- A zone is set, and its frame arrives. -/
def lampRun : List ShownEvent := [.set "lamp" secondZone, .deliver (fun _ => 0) noOutcomes]

theorem recorded_zones_show_lamp :
    ∃ w, (shownWorld lampSetup).run (ShownWorld.start lampHost GattServer.start)
        (lampRun ++ [.pass fun _ => ⟨0, 0⟩]) = some w ∧
      ∃ id c t, Packs secondZone id c ∧
        c.frame oneStrip.level t ⟨0, 0⟩ (1 - c.start.toNat) = some (w.pixels (0, 1)) := by
  refine ⟨_, rfl, @recorded_zones_show lampSetup lampHost GattServer.start (fun _ => rfl) lampRun
    (fun _ => ⟨0, 0⟩) _ rfl rfl rfl 2 secondZone.zone rfl (by decide) (0, 1)
    ⟨⟨4, 8⟩, rfl, by decide⟩ ⟨rfl, by decide, by decide⟩ fun j hj z' hz' => ?_⟩
  have hsome := Option.isSome_of_eq_some hz'
  clear hz'
  exfalso
  revert j
  decide

end Klippylink
