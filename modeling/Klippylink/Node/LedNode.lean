import Klippylink.Lib.System
import Klippylink.Node.Flashing
import Klippylink.Node.Pixels

/-!
# A node that shows zones

Packets about zones arrive, and between them the effects task draws the zones into the
buffers of the strips.  A division by zero stops the processor; the restart that follows
is a new start.

## Main definitions

* `zoneSetPacket`, `zoneClrPacket` — LED_ZONE_SET and LED_ZONE_CLR.
* `LedSetup`, `LedNode`, `ledNode` — the system.
* `runs_without_fault_iff` — when the processor is not stopped.
* `no_orphans_iff` — when every lit pixel is one of an active zone.
-/

namespace Klippylink

open Lib

/-! ## The packets -/

/-- LED_ZONE_SET. -/
def zoneSetPacket (zoneId : UInt8) (c : LedZoneCfg) : KlipPacket :=
  ⟨KlipCommand.ledZoneSet.code,
    [zoneId, c.stripIdx, c.start, c.count, c.effect, c.color.1, c.color.2.1, c.color.2.2,
      c.color2.1, c.color2.2.1, c.color2.2.2, c.brightness, c.speed]⟩

/-- LED_ZONE_CLR. -/
def zoneClrPacket (zoneId : UInt8) : KlipPacket := ⟨KlipCommand.ledZoneClr.code, [zoneId]⟩

section Packets

variable (s : GattServer) (build : NodeBuild) (beyond : ℕ → UInt8) (out : Outcomes)

theorem writeEvt_zoneSetPacket (zoneId : UInt8) (c : LedZoneCfg) :
    s.writeEvt build ((zoneSetPacket zoneId c).written beyond) out =
      (s, [.ledEffectsSetZone zoneId c]) := by
  obtain ⟨hmagic, hcommand, hbyte⟩ := header_written (zoneSetPacket zoneId c) .ledZoneSet rfl beyond
  have hlength : (UInt8.ofNat (zoneSetPacket zoneId c).payload.length).toNat = 13 := rfl
  rw [writeEvt_packet, GattServer.dispatchPacket, hmagic, hcommand, hbyte, hlength]
  simp only [ne_eq, not_true_eq_false, if_false, Nat.le_refl, if_true]
  rfl

theorem writeEvt_zoneClrPacket (zoneId : UInt8) :
    s.writeEvt build ((zoneClrPacket zoneId).written beyond) out =
      (s, [.ledEffectsClearZone zoneId]) := by
  obtain ⟨hmagic, hcommand, hbyte⟩ := header_written (zoneClrPacket zoneId) .ledZoneClr rfl beyond
  have hlength : (UInt8.ofNat (zoneClrPacket zoneId).payload.length).toNat = 1 := rfl
  rw [writeEvt_packet, GattServer.dispatchPacket, hmagic, hcommand, hbyte, hlength]
  simp only [ne_eq, not_true_eq_false, if_false, Nat.le_refl, if_true]
  rfl

end Packets

/-! ## The system -/

/-- What is fixed: how the node was built, its strips, and the light of BREATHE. -/
structure LedSetup where
  build : NodeBuild
  strips : StripTable
  level : UInt32 → UInt32 → UInt8 → UInt8

/-- The server, the zones, the buffers, and whether the processor has stopped. -/
structure LedNode where
  server : GattServer
  effects : LedEffects
  pixels : Pixels
  stopped : Bool

/-- What can happen. -/
inductive LedEvent
  /-- A packet about a zone. -/
  | packet (w : Written) (out : Outcomes)
  /-- A round of the effects task. -/
  | pass (draws : Fin ledMaxZones → Draws)

/-- The calls of `neopixel_set_pixel` that turn pixels off. -/
def EffectsReturn.calls (r : EffectsReturn) : List PixelCall :=
  r.off.map fun p => ⟨p.1, UInt32.ofNat p.2, dark⟩

namespace LedNode

/-- The effects engine has been started, and nothing is lit. -/
def start (server : GattServer) : LedNode :=
  ⟨server, ledEffectsInit LedEffects.start, fun _ => dark, false⟩

/-- A function of the effects engine has returned. -/
def returned (x : LedSetup) (n : LedNode) (server : GattServer) (r : EffectsReturn) : LedNode :=
  ⟨server, r.effects, n.pixels.show x.strips r.calls, n.stopped⟩

/-- What a packet comes to, if it is about a zone. -/
def packet (x : LedSetup) (n : LedNode) (w : Written) (out : Outcomes) : Option LedNode :=
  let written := n.server.writeEvt x.build w out
  match written.2 with
  | [.ledEffectsSetZone zoneId cfg] =>
      (ledEffectsSetZone n.effects zoneId cfg).map (n.returned x written.1)
  | [.ledEffectsClearZone zoneId] =>
      (ledEffectsClearZone n.effects zoneId).map (n.returned x written.1)
  | _ => none

/-- What a round comes to. -/
def pass (x : LedSetup) (n : LedNode) (draws : Fin ledMaxZones → Draws) : LedNode :=
  match effectsPass x.level draws n.effects with
  | .error _ => { n with stopped := true }
  | .ok r => { n with effects := r.effects, pixels := n.pixels.show x.strips r.calls }

end LedNode

/-- The node as a system of events. -/
def ledNode (x : LedSetup) : System LedNode LedEvent := fun n e =>
  if n.stopped then none
  else match e with
    | .packet w out => n.packet x w out
    | .pass draws => some (n.pass x draws)

/-- What one event can come to. -/
inductive LedStep (x : LedSetup) (n : LedNode) : LedEvent → LedNode → Prop
  | set {w : Written} {out : Outcomes} {zoneId : UInt8} {cfg : LedZoneCfg} {r : EffectsReturn}
      (hcall : (n.server.writeEvt x.build w out).2 = [.ledEffectsSetZone zoneId cfg])
      (hr : ledEffectsSetZone n.effects zoneId cfg = some r) :
      LedStep x n (.packet w out) (n.returned x (n.server.writeEvt x.build w out).1 r)
  | clear {w : Written} {out : Outcomes} {zoneId : UInt8} {r : EffectsReturn}
      (hcall : (n.server.writeEvt x.build w out).2 = [.ledEffectsClearZone zoneId])
      (hr : ledEffectsClearZone n.effects zoneId = some r) :
      LedStep x n (.packet w out) (n.returned x (n.server.writeEvt x.build w out).1 r)
  | stop {draws : Fin ledMaxZones → Draws} {fault : RenderFault}
      (hfault : effectsPass x.level draws n.effects = .error fault) :
      LedStep x n (.pass draws) { n with stopped := true }
  | pass {draws : Fin ledMaxZones → Draws} {r : PassReturn}
      (hr : effectsPass x.level draws n.effects = .ok r) :
      LedStep x n (.pass draws)
        { n with effects := r.effects, pixels := n.pixels.show x.strips r.calls }

theorem ledStep_of_step {x : LedSetup} {n n' : LedNode} {e : LedEvent}
    (h : ledNode x n e = some n') : n.stopped = false ∧ LedStep x n e n' := by
  simp only [ledNode] at h
  split at h
  · cases h
  · next hstopped =>
      refine ⟨Bool.eq_false_iff.mpr hstopped, ?_⟩
      cases e with
      | packet w out =>
          simp only [LedNode.packet] at h
          split at h
          · next hcall =>
              obtain ⟨r, hr, rfl⟩ := Option.map_eq_some_iff.mp h
              exact .set hcall hr
          · next hcall =>
              obtain ⟨r, hr, rfl⟩ := Option.map_eq_some_iff.mp h
              exact .clear hcall hr
          · cases h
      | pass draws =>
          simp only [LedNode.pass, Option.some.injEq] at h
          split at h
          · next hfault =>
              subst h
              exact .stop hfault
          · next hr =>
              subst h
              exact .pass hr

/-! ## Division by zero -/

/-- A zone of no pixels whose effect divides by their number. -/
def LedZoneCfg.Hazard (c : LedZoneCfg) : Prop :=
  c.count = 0 ∧
    (LedEffectId.ofCode c.effect = some .chase ∨ LedEffectId.ofCode c.effect = some .wipe ∨
      LedEffectId.ofCode c.effect = some .twinkle)

/-- Every such zone is still at its first tick, the one at which TWINKLE divides too. -/
def LedEffects.Fresh (e : LedEffects) : Prop :=
  ∀ i : Fin ledMaxZones, (e.slot i).active = true → (e.slot i).cfg.Hazard → (e.slot i).tick = 0

theorem Stops.hazard {z : ZoneState} (h : Stops z) : z.cfg.Hazard := by
  obtain ⟨hcount, heffect | heffect | ⟨heffect, -⟩⟩ := h
  · exact ⟨hcount, .inl heffect⟩
  · exact ⟨hcount, .inr (.inl heffect)⟩
  · exact ⟨hcount, .inr (.inr heffect)⟩

theorem LedZoneCfg.Hazard.stops {z : ZoneState} (h : z.cfg.Hazard) (htick : z.tick = 0) :
    Stops z := by
  obtain ⟨hcount, heffect | heffect | heffect⟩ := h
  · exact ⟨hcount, .inl heffect⟩
  · exact ⟨hcount, .inr (.inl heffect)⟩
  · refine ⟨hcount, .inr (.inr ⟨heffect, ?_⟩)⟩
    rw [htick]
    exact UInt32.zero_mod

/-- A round ends exactly when no active zone stops the processor. -/
theorem effectsPass_isOk_iff (level : UInt32 → UInt32 → UInt8 → UInt8)
    (draws : Fin ledMaxZones → Draws) (e : LedEffects) :
    (∃ r, effectsPass level draws e = .ok r) ↔
      ∀ i : Fin ledMaxZones, (e.slot i).active = true → ¬ Stops (e.slot i) := by
  have hnodup := List.nodup_finRange ledMaxZones
  constructor
  · intro hok i
    obtain ⟨r, hr⟩ := hok
    obtain ⟨drawn, hdrawn, -⟩ := bind_eq_ok.mp hr
    exact not_stops_of_drawZones level draws hnodup hdrawn i (List.mem_finRange i)
  · intro h
    obtain ⟨e', he'⟩ := drawZones_of_not_stops level draws hnodup fun i _ => h i
    exact ⟨_, bind_eq_ok.mpr ⟨_, he', rfl⟩⟩

/-- A round from fresh zones ends exactly when no active zone is a hazard. -/
theorem LedEffects.Fresh.effectsPass_isOk_iff {e : LedEffects} (h : e.Fresh)
    (level : UInt32 → UInt32 → UInt8 → UInt8) (draws : Fin ledMaxZones → Draws) :
    (∃ r, effectsPass level draws e = .ok r) ↔
      ∀ i : Fin ledMaxZones, (e.slot i).active = true → ¬ (e.slot i).cfg.Hazard := by
  rw [Klippylink.effectsPass_isOk_iff]
  refine forall₂_congr fun i hactive => not_congr ⟨Stops.hazard, fun hhazard => ?_⟩
  exact hhazard.stops (h i hactive hhazard)

/-- A round that ends has changed no configuration. -/
theorem zone_effectsPass {level : UInt32 → UInt32 → UInt8 → UInt8}
    {draws : Fin ledMaxZones → Draws} {e : LedEffects} {r : PassReturn}
    (h : effectsPass level draws e = .ok r) : r.effects.zone = e.zone := by
  obtain ⟨drawn, hdrawn, hret⟩ := bind_eq_ok.mp h
  cases hret
  exact (zone_drawZones level draws hdrawn).1

/-- A zone that has been set or cleared is at its first tick. -/
theorem LedStep.fresh {x : LedSetup} {n n' : LedNode} {e : LedEvent} (h : LedStep x n e n')
    (hfresh : n.effects.Fresh)
    (hguard : (∃ draws, e = .pass draws) → ∀ i : Fin ledMaxZones,
      (n.effects.slot i).active = true → ¬ (n.effects.slot i).cfg.Hazard) :
    n'.effects.Fresh := by
  intro i hactive hhazard
  cases h with
  | set hcall hr =>
      have hzone := (LedEffects.zones_setZone hr).2 i
      simp only [LedNode.returned, hzone] at hactive hhazard ⊢
      split
      · rfl
      · next hne =>
          rw [if_neg hne] at hactive hhazard
          exact hfresh i hactive hhazard
  | clear hcall hr =>
      have hzone := (LedEffects.zones_clearZone hr).1 i
      simp only [LedNode.returned, hzone] at hactive hhazard ⊢
      split
      · rfl
      · next hne =>
          rw [if_neg hne] at hactive hhazard
          exact hfresh i hactive hhazard
  | stop hfault => exact hfresh i hactive hhazard
  | @pass draws r hr =>
      have hzone : r.effects.zone i = some (r.effects.slot i).cfg :=
        LedEffects.zone_eq_some_iff.mpr ⟨hactive, rfl⟩
      rw [zone_effectsPass hr, LedEffects.zone_eq_some_iff] at hzone
      refine absurd ?_ (hguard ⟨draws, rfl⟩ i hzone.1)
      rw [hzone.2]
      exact hhazard

/-- **The processor is not stopped** by a division by zero exactly when no round of the
effects task meets an active zone of no pixels whose effect is CHASE, WIPE or TWINKLE. -/
theorem runs_without_fault_iff (x : LedSetup) (server : GattServer) (es : List LedEvent) :
    System.Along (ledNode x) (fun _ _ n' => n'.stopped = false) (LedNode.start server) es ↔
      System.Along (ledNode x) (fun n e _ => (∃ draws, e = .pass draws) →
        ∀ i : Fin ledMaxZones, (n.effects.slot i).active = true →
          ¬ (n.effects.slot i).cfg.Hazard) (LedNode.start server) es := by
  refine System.along_iff (fun _ => True) (fun n => n.effects.Fresh) _ _ (fun _ _ _ _ _ => trivial)
    ?_ ?_ es _ trivial ?_
  · intro n e n' _ hfresh hstep
    obtain ⟨hrunning, hstep⟩ := ledStep_of_step hstep
    cases hstep with
    | set hcall hr => simp [LedNode.returned, hrunning]
    | clear hcall hr => simp [LedNode.returned, hrunning]
    | @stop draws fault hfault =>
        refine iff_of_false (by simp) fun hguard => ?_
        obtain ⟨r, hr⟩ := (hfresh.effectsPass_isOk_iff x.level draws).mpr (hguard ⟨draws, rfl⟩)
        rw [hfault] at hr
        cases hr
    | @pass draws r hr =>
        refine iff_of_true hrunning fun _ => ?_
        exact (hfresh.effectsPass_isOk_iff x.level draws).mp ⟨r, hr⟩
  · intro n e n' _ hfresh hstep hguard
    exact (ledStep_of_step hstep).2.fresh hfresh hguard
  · intro i hactive
    have hzone := LedEffects.zone_eq_some_iff.mpr ⟨hactive, rfl⟩
    rw [LedNode.start, LedEffects.zone_init] at hzone
    cases hzone

/-- A node with one strip of eight pixels. -/
def oneStrip : LedSetup := ⟨⟨false, none, crc32⟩, ⟨[⟨4, 8⟩], by decide⟩, fun _ _ bri => bri⟩

/-- LED_ZONE_SET of a zone of no pixels that chases. -/
def emptyChase : LedEvent :=
  .packet ((zoneSetPacket 0 ⟨0, 0, 0, 4, (255, 0, 0), (0, 0, 0), 255, 128⟩).written fun _ => 0)
    noOutcomes

/-- It is accepted, and the next round divides by zero. -/
theorem emptyChase_stops :
    ¬ System.Along (ledNode oneStrip) (fun _ _ n' => n'.stopped = false)
      (LedNode.start GattServer.start) [emptyChase, .pass fun _ => ⟨0, 0⟩] := by
  intro halong
  have hround := ((System.along_cons rfl).mp halong).2
  have hstopped := ((System.along_cons rfl).mp hround).1
  exact absurd hstopped (by decide)

/-! ## Lit pixels -/

/-- A pixel that there is and that has a colour. -/
def LedNode.Lit (x : LedSetup) (n : LedNode) (p : Pixel) : Prop :=
  p ∈ x.strips.pixels ∧ n.pixels p ≠ dark

/-- Every lit pixel is one of an active zone. -/
def LedNode.NoOrphans (x : LedSetup) (n : LedNode) : Prop :=
  ∀ p, n.Lit x p → ∃ i, p ∈ n.effects.area i

/-- The event is a packet that sets a zone. -/
def LedNode.Sets (x : LedSetup) (n : LedNode) (e : LedEvent) (i : Fin ledMaxZones)
    (cfg : LedZoneCfg) : Prop :=
  ∃ w out zoneId, e = .packet w out ∧ (i : ℕ) = zoneId.toNat ∧
    (n.server.writeEvt x.build w out).2 = [.ledEffectsSetZone zoneId cfg]

/-- The zone is active, and one of its lit pixels is neither in the new range nor in the
range of another active zone. -/
def LedNode.GivesUp (x : LedSetup) (n : LedNode) (i : Fin ledMaxZones) (cfg : LedZoneCfg) :
    Prop :=
  ∃ p ∈ n.effects.area i, n.Lit x p ∧ p ∉ cfg.range ∧ ∀ j, j ≠ i → p ∉ n.effects.area j

/-- What is lit after some calls was lit before, or has been written. -/
theorem show_ne_dark {strips : StripTable} {pixels : Pixels} {calls : List PixelCall} {p : Pixel}
    (h : pixels.show strips calls p ≠ dark) :
    pixels p ≠ dark ∨ ∃ call ∈ calls, ∃ w, call.write strips = some w ∧ w.1 = p := by
  by_cases hwritten : ∃ w ∈ calls.filterMap (PixelCall.write strips), w.1 = p
  · obtain ⟨w, hw, hp⟩ := hwritten
    obtain ⟨call, hcall, hwrite⟩ := List.mem_filterMap.mp hw
    exact .inr ⟨call, hcall, w, hwrite, hp⟩
  · refine .inl fun hdark => h ?_
    rw [Pixels.show, replay_of_forall_ne pixels fun w hw hp => hwritten ⟨w, hw, hp⟩, hdark]

/-- The calls that turn pixels off light none, and leave none lit that they are for. -/
theorem show_off {x : LedSetup} {n : LedNode} {r : EffectsReturn} {p : Pixel}
    (h : n.pixels.show x.strips r.calls p ≠ dark) :
    n.pixels p ≠ dark ∧ ∀ call ∈ r.calls, ∀ w, call.write x.strips = some w → w.1 ≠ p := by
  have hdark : ∀ w ∈ r.calls.filterMap (PixelCall.write x.strips), w.2 = dark := by
    intro w hw
    obtain ⟨call, hcall, hwrite⟩ := List.mem_filterMap.mp hw
    obtain ⟨q, -, rfl⟩ := List.mem_map.mp hcall
    rw [(write_eq_some_iff.mp hwrite).1]
  have hnot : ∀ call ∈ r.calls, ∀ w, call.write x.strips = some w → w.1 ≠ p := by
    intro call hcall w hwrite hp
    have hmem : (p, dark) ∈ r.calls.filterMap (PixelCall.write x.strips) := by
      have hw := List.mem_filterMap.mpr ⟨call, hcall, hwrite⟩
      rw [← hp, ← hdark w hw]
      exact hw
    exact h (replay_of_forall_value n.pixels hmem hdark)
  refine ⟨?_, hnot⟩
  rcases show_ne_dark h with hbefore | ⟨call, hcall, w, hwrite, hp⟩
  · exact hbefore
  · exact absurd hp (hnot call hcall w hwrite)

/-- Every call of a round comes from one of the zones. -/
theorem mem_effectsPass {level : UInt32 → UInt32 → UInt8 → UInt8}
    {draws : Fin ledMaxZones → Draws} {e : LedEffects} {r : PassReturn}
    (h : effectsPass level draws e = .ok r) {call : PixelCall} (hcall : call ∈ r.calls) :
    ∃ i, call ∈ zoneCalls level draws e i := by
  have hnodup := List.nodup_finRange ledMaxZones
  obtain ⟨drawn, hdrawn, hret⟩ := bind_eq_ok.mp h
  cases hret
  obtain ⟨e', he'⟩ := drawZones_of_not_stops level draws hnodup
    (not_stops_of_drawZones level draws hnodup hdrawn)
  rw [hdrawn] at he'
  cases he'
  obtain ⟨i, -, hi⟩ := List.mem_flatMap.mp hcall
  exact ⟨i, hi⟩

/-- **A round lights pixels of active zones only.** -/
theorem LedNode.NoOrphans.pass {x : LedSetup} {n : LedNode} (h : n.NoOrphans x)
    {draws : Fin ledMaxZones → Draws} {r : PassReturn}
    (hr : effectsPass x.level draws n.effects = .ok r) :
    LedNode.NoOrphans x
      { n with effects := r.effects, pixels := n.pixels.show x.strips r.calls } := by
  have harea : ∀ i p, p ∈ r.effects.area i ↔ p ∈ n.effects.area i := fun i p => by
    rw [LedEffects.mem_area, LedEffects.mem_area, zone_effectsPass hr]
  intro p hlit
  obtain ⟨hpixel, hcolor⟩ := hlit
  rcases show_ne_dark hcolor with hbefore | ⟨call, hcall, w, hwrite, hp⟩
  · obtain ⟨i, hi⟩ := h p ⟨hpixel, hbefore⟩
    exact ⟨i, (harea i p).mpr hi⟩
  · obtain ⟨i, hi⟩ := mem_effectsPass hr hcall
    have hmem := List.mem_filterMap.mpr ⟨call, hi, hwrite⟩
    have hin := (within_zoneCalls x.level x.strips draws n.effects i w hmem).1
    exact ⟨i, (harea i p).mpr (hp ▸ hin)⟩

/-- Turning off the pixels of a zone that is cleared leaves none of them lit. -/
theorem LedNode.NoOrphans.clear {x : LedSetup} {n : LedNode} (h : n.NoOrphans x)
    {server : GattServer} {zoneId : UInt8} {r : EffectsReturn}
    (hr : ledEffectsClearZone n.effects zoneId = some r) : (n.returned x server r).NoOrphans x := by
  obtain ⟨hzones, hoff⟩ := LedEffects.zones_clearZone hr
  intro p hlit
  obtain ⟨hpixel, hcolor⟩ := hlit
  obtain ⟨hbefore, hnot⟩ := show_off hcolor
  obtain ⟨i, hactive, hp⟩ := h p ⟨hpixel, hbefore⟩
  by_cases hi : (i : ℕ) = zoneId.toNat
  · -- its pixels have been turned off
    exfalso
    obtain ⟨hstrip, hstart, hend⟩ := hp
    have hk : p.2 - (n.effects.slot i).cfg.start.toNat < (n.effects.slot i).cfg.count.toNat := by
      omega
    have hcall := hnot ⟨(n.effects.slot i).cfg.stripIdx, UInt32.ofNat p.2, dark⟩ (by
      rw [EffectsReturn.calls, hoff i hi hactive, List.map_map]
      refine List.mem_map.mpr ⟨_, List.mem_range.mpr hk, ?_⟩
      rw [Function.comp_apply, Nat.add_sub_cancel' hstart])
    have hplace : (UInt32.ofNat p.2).toNat = p.2 := by
      have hlt := (n.effects.slot i).cfg.start.toNat_lt
      have hlt' := (n.effects.slot i).cfg.count.toNat_lt
      exact UInt32.toNat_ofNat_of_lt' (by simp only [UInt32.size]; omega)
    refine hcall (p, dark) (write_eq_some_iff.mpr ⟨?_, hpixel⟩) rfl
    rw [hplace, ← hstrip]
  · refine ⟨i, ?_⟩
    have hzone := hzones i
    rw [if_neg hi] at hzone
    show (r.effects.slot i).active = true ∧ p ∈ (r.effects.slot i).cfg.range
    rw [hzone]
    exact ⟨hactive, hp⟩

/-- **Setting a zone keeps the pixels lit**, so that it leaves an orphan exactly when the
zone gives one up. -/
theorem LedNode.NoOrphans.set_iff {x : LedSetup} {n : LedNode} (h : n.NoOrphans x)
    {server : GattServer} {zoneId : UInt8} {cfg : LedZoneCfg} {r : EffectsReturn}
    (hr : ledEffectsSetZone n.effects zoneId cfg = some r) :
    (n.returned x server r).NoOrphans x ↔
      ∀ i : Fin ledMaxZones, (i : ℕ) = zoneId.toNat → ¬ n.GivesUp x i cfg := by
  obtain ⟨hoff, hzones⟩ := LedEffects.zones_setZone hr
  have hlit : ∀ p, (n.returned x server r).Lit x p ↔ n.Lit x p := fun p => by
    simp only [Lit, returned, EffectsReturn.calls, hoff, List.map_nil, Pixels.show,
      List.filterMap_nil, replay_nil]
  have harea : ∀ i p, p ∈ (n.returned x server r).effects.area i ↔
      if (i : ℕ) = zoneId.toNat then p ∈ cfg.range else p ∈ n.effects.area i := fun i p => by
    have hzone := hzones i
    show (r.effects.slot i).active = true ∧ p ∈ (r.effects.slot i).cfg.range ↔ _
    rw [hzone]
    split
    · exact and_iff_right rfl
    · exact Iff.rfl
  constructor
  · intro hafter i hi hgives
    obtain ⟨p, -, hp, hnew, hothers⟩ := hgives
    obtain ⟨j, hj⟩ := hafter p ((hlit p).mpr hp)
    rw [harea] at hj
    split at hj
    · exact hnew hj
    · next hne => exact hothers j (fun heq => hne (heq ▸ hi)) hj
  · intro hkeeps p hp
    have hp := (hlit p).mp hp
    obtain ⟨i, hi⟩ := h p hp
    by_cases hcover : p ∈ cfg.range ∧ zoneId.toNat < ledMaxZones
    · exact ⟨⟨zoneId.toNat, hcover.2⟩, by rw [harea, if_pos rfl]; exact hcover.1⟩
    · by_cases hid : (i : ℕ) = zoneId.toNat
      · by_contra hno
        have hnew : p ∉ cfg.range := fun hnew => hcover ⟨hnew, hid ▸ i.isLt⟩
        refine hkeeps i hid ⟨p, hi, hp, hnew, fun j hj hmem => hno ⟨j, ?_⟩⟩
        rw [harea, if_neg fun heq => hj (Fin.ext (heq.trans hid.symm))]
        exact hmem
      · exact ⟨i, by rw [harea, if_neg hid]; exact hi⟩

/-- **No orphan lit pixels**, in every state of a run, exactly when no LED_ZONE_SET takes
a lit pixel from an active zone that is in no other active zone's range. -/
theorem no_orphans_iff (x : LedSetup) (server : GattServer) (es : List LedEvent) :
    System.Along (ledNode x) (fun _ _ n' => n'.NoOrphans x) (LedNode.start server) es ↔
      System.Along (ledNode x) (fun n e _ => ∀ i cfg, n.Sets x e i cfg → ¬ n.GivesUp x i cfg)
        (LedNode.start server) es := by
  have hiff : ∀ n e n', n.NoOrphans x → ledNode x n e = some n' →
      (n'.NoOrphans x ↔ ∀ i cfg, n.Sets x e i cfg → ¬ n.GivesUp x i cfg) := by
    intro n e n' h hstep
    obtain ⟨-, hstep⟩ := ledStep_of_step hstep
    cases hstep with
    | @set w out zoneId cfg r hcall hr =>
        rw [h.set_iff hr]
        constructor
        · intro hkeeps i cfg' hsets
          obtain ⟨w', out', zoneId', heq, hi, hcall'⟩ := hsets
          cases heq
          rw [hcall] at hcall'
          cases hcall'
          exact hkeeps i hi
        · intro hguard i hi
          exact hguard i cfg ⟨w, out, zoneId, rfl, hi, hcall⟩
    | @clear w out zoneId r hcall hr =>
        refine iff_of_true (h.clear hr) fun i cfg hsets => ?_
        obtain ⟨w', out', zoneId', heq, -, hcall'⟩ := hsets
        cases heq
        rw [hcall] at hcall'
        cases hcall'
    | stop hfault =>
        refine iff_of_true h fun i cfg hsets => ?_
        obtain ⟨w', out', zoneId', heq, -⟩ := hsets
        cases heq
    | pass hr =>
        refine iff_of_true (h.pass hr) fun i cfg hsets => ?_
        obtain ⟨w', out', zoneId', heq, -⟩ := hsets
        cases heq
  refine System.along_iff (fun _ => True) (fun n => n.NoOrphans x) _ _ (fun _ _ _ _ _ => trivial)
    (fun n e n' _ h hstep => hiff n e n' h hstep)
    (fun n e n' _ h hstep hguard => (hiff n e n' h hstep).mpr hguard) es _ trivial ?_
  exact fun p hlit => absurd rfl hlit.2

/-- A red zone of one pixel, at this place. -/
def redPixel (place : UInt8) : LedEvent :=
  .packet ((zoneSetPacket 0 ⟨0, place, 1, 0, (255, 0, 0), (0, 0, 0), 255, 128⟩).written
    fun _ => 0) noOutcomes

/-- The zone is moved by one pixel, and the first pixel stays lit. -/
theorem redPixel_orphan :
    ¬ System.Along (ledNode oneStrip) (fun _ _ n' => n'.NoOrphans oneStrip)
      (LedNode.start GattServer.start)
      [redPixel 0, .pass fun _ => ⟨0, 0⟩, redPixel 1] := by
  intro halong
  have hround := ((System.along_cons rfl).mp halong).2
  have hmoved := ((System.along_cons rfl).mp hround).2
  have horphans := ((System.along_cons rfl).mp hmoved).1
  obtain ⟨i, hactive, -, hstart, -⟩ := horphans (0, 0) ⟨⟨⟨4, 8⟩, rfl, by decide⟩, by decide⟩
  revert i
  decide

end Klippylink
