import Klippylink.Node.GattServer

/-!
# The node's LED zones

`led_effects.c` keeps eight zones, each with its configuration, whether it is active,
and the tick of its animation.  The effects task draws the active zones and moves their
ticks; only setting and clearing change the rest.

## Main definitions

* `LedEffects` — `s_zones` and `s_mutex`.
* `ledEffectsInit`, `ledEffectsSetZone`, `ledEffectsClearZone` — the public functions.
* `LedEffects.zone` — the configuration of an active zone.
-/

namespace Klippylink

open Lib

/-- `LED_MAX_ZONES`. -/
def ledMaxZones : ℕ := 8

instance : @NeZero ℕ ⟨0⟩ ledMaxZones := ⟨Nat.succ_ne_zero 7⟩

/-- `zone_state_t`. -/
structure ZoneState where
  active : Bool
  cfg : LedZoneCfg
  tick : UInt32
  deriving DecidableEq

/-- `s_zones`, and whether `s_mutex` has been created. -/
structure LedEffects where
  zones : Vector ZoneState ledMaxZones
  mutex : Bool
  deriving DecidableEq

/-- A zone of zeros. -/
def ZoneState.zero : ZoneState := ⟨false, ⟨0, 0, 0, 0, (0, 0, 0), (0, 0, 0), 0, 0⟩, 0⟩

/-- The static initialisers. -/
def LedEffects.start : LedEffects := ⟨Vector.replicate _ .zero, false⟩

/-- `led_effects_init`, when the mutex can be created. -/
def ledEffectsInit (_ : LedEffects) : LedEffects := ⟨Vector.replicate _ .zero, true⟩

/-- `s_zones[i]`. -/
def LedEffects.slot (e : LedEffects) (i : Fin ledMaxZones) : ZoneState := e.zones[i]

/-- What a function returns: the zones, the pixels turned off, each a strip and a place
on it, the strip that is flushed, and the error code. -/
structure EffectsReturn where
  effects : LedEffects
  off : List (UInt8 × ℕ)
  flushed : Option UInt8
  ret : EspErr

/-- `led_effects_set_zone`; `none` where `xSemaphoreTake` is given a null handle. -/
def ledEffectsSetZone (e : LedEffects) (zoneId : UInt8) (cfg : LedZoneCfg) :
    Option EffectsReturn :=
  if h : ledMaxZones ≤ zoneId.toNat then some ⟨e, [], none, espErrInvalidArg⟩
  else if e.mutex then
    some ⟨{ e with zones := e.zones.set zoneId.toNat ⟨true, cfg, 0⟩ (Nat.lt_of_not_le h) }, [],
      none, espOk⟩
  else none

/-- `led_effects_clear_zone`; `none` where `xSemaphoreTake` is given a null handle. -/
def ledEffectsClearZone (e : LedEffects) (zoneId : UInt8) : Option EffectsReturn :=
  if h : ledMaxZones ≤ zoneId.toNat then some ⟨e, [], none, espErrInvalidArg⟩
  else if e.mutex then
    let z := e.zones.get ⟨zoneId.toNat, Nat.lt_of_not_le h⟩
    let cleared := { e with zones := e.zones.set zoneId.toNat .zero (Nat.lt_of_not_le h) }
    if z.active then
      some ⟨cleared, (List.range z.cfg.count.toNat).map fun i =>
        (z.cfg.stripIdx, z.cfg.start.toNat + i), some z.cfg.stripIdx, espOk⟩
    else some ⟨cleared, [], none, espOk⟩
  else none

namespace LedEffects

/-- What a call of the GATT server does to the zones. -/
def perform (e : LedEffects) : NodeCall → Option LedEffects
  | .ledEffectsSetZone zoneId cfg => (ledEffectsSetZone e zoneId cfg).map EffectsReturn.effects
  | .ledEffectsClearZone zoneId => (ledEffectsClearZone e zoneId).map EffectsReturn.effects
  | _ => some e

/-- The effects task has drawn a zone. -/
def drawn (e : LedEffects) (i : Fin ledMaxZones) (tick : UInt32) : LedEffects :=
  { e with zones := e.zones.set i { e.zones[i] with tick := tick } }

/-- The configuration of an active zone. -/
def zone (e : LedEffects) (i : ℕ) : Option LedZoneCfg :=
  e.zones.toList[i]?.bind fun z => if z.active then some z.cfg else none

/-! ### What each function changes -/

theorem zone_of_le (e : LedEffects) {i : ℕ} (h : ledMaxZones ≤ i) : e.zone i = none := by
  have hnone : e.zones.toList[i]? = none := by
    rw [List.getElem?_eq_none_iff, Vector.length_toList]
    exact h
  rw [zone, hnone, Option.bind_none]

theorem zone_eq_some_iff {e : LedEffects} {i : Fin ledMaxZones} {c : LedZoneCfg} :
    e.zone i = some c ↔ (e.slot i).active = true ∧ (e.slot i).cfg = c := by
  have hrow : e.zones.toList[(i : ℕ)]? = some (e.slot i) := by
    simp [slot]
  rw [zone, hrow, Option.bind_some, Option.ite_none_right_eq_some, Option.some.injEq]

theorem slot_set (e : LedEffects) {k : ℕ} (h : k < ledMaxZones) (z : ZoneState)
    (i : Fin ledMaxZones) :
    slot { e with zones := e.zones.set k z h } i = if (i : ℕ) = k then z else e.slot i := by
  simp only [slot, Fin.getElem_fin, Vector.getElem_set, eq_comm]

theorem zone_set (e : LedEffects) {k : ℕ} (h : k < ledMaxZones) (z : ZoneState) (i : ℕ) :
    zone { e with zones := e.zones.set k z h } i =
      if i = k then (if z.active then some z.cfg else none) else e.zone i := by
  by_cases heq : i = k
  · subst heq
    simp [zone, h]
  · have hne : k ≠ i := fun hk => heq hk.symm
    simp [zone, heq, Vector.getElem?_set_ne _ hne]

/-- After the start no zone is active. -/
theorem zone_init (e : LedEffects) (i : ℕ) : (ledEffectsInit e).zone i = none := by
  by_cases h : i < ledMaxZones
  · simp [zone, ledEffectsInit, ZoneState.zero, h]
  · exact zone_of_le _ (Nat.le_of_not_lt h)

/-- Drawing changes no configuration. -/
theorem zone_drawn (e : LedEffects) (k : Fin ledMaxZones) (tick : UInt32) (i : ℕ) :
    (e.drawn k tick).zone i = e.zone i := by
  rw [drawn, zone_set]
  by_cases heq : i = k
  · subst heq
    simp [zone]
  · rw [if_neg heq]

/-- **Setting** makes the zone active with the configuration, when there is one with
that id. -/
theorem zone_setZone {e : LedEffects} {zoneId : UInt8} {cfg : LedZoneCfg} {r : EffectsReturn}
    (h : ledEffectsSetZone e zoneId cfg = some r) (i : ℕ) :
    r.effects.zone i =
      if i = zoneId.toNat ∧ i < ledMaxZones then some cfg else e.zone i := by
  rw [ledEffectsSetZone] at h
  split at h
  · next hmax =>
      cases h
      have hno : ¬ (i = zoneId.toNat ∧ i < ledMaxZones) := fun ⟨heq, hlt⟩ =>
        Nat.not_le.mpr hlt (heq ▸ hmax)
      rw [if_neg hno]
  · next hmax =>
      split at h
      · cases h
        rw [zone_set]
        by_cases heq : i = zoneId.toNat
        · have hlt : i < ledMaxZones := heq ▸ Nat.lt_of_not_le hmax
          rw [if_pos heq, if_pos rfl, if_pos ⟨heq, hlt⟩]
        · rw [if_neg heq, if_neg fun hand => heq hand.1]
      · cases h

/-- **Clearing** makes the zone inactive. -/
theorem zone_clearZone {e : LedEffects} {zoneId : UInt8} {r : EffectsReturn}
    (h : ledEffectsClearZone e zoneId = some r) (i : ℕ) :
    r.effects.zone i = if i = zoneId.toNat then none else e.zone i := by
  rw [ledEffectsClearZone] at h
  split at h
  · next hmax =>
      cases h
      by_cases heq : i = zoneId.toNat
      · rw [if_pos heq, e.zone_of_le (heq ▸ hmax)]
      · rw [if_neg heq]
  · next hmax =>
      split at h
      · have hcleared : r.effects =
            { e with zones := e.zones.set zoneId.toNat .zero (Nat.lt_of_not_le hmax) } := by
          simp only at h
          split at h <;> cases h <;> rfl
        rw [hcleared, zone_set]
        rfl
      · cases h

/-! ### One zone after a call -/

theorem zones_setZone {e : LedEffects} {zoneId : UInt8} {cfg : LedZoneCfg} {r : EffectsReturn}
    (h : ledEffectsSetZone e zoneId cfg = some r) :
    r.off = [] ∧ ∀ i : Fin ledMaxZones, r.effects.slot i =
      if (i : ℕ) = zoneId.toNat then ⟨true, cfg, 0⟩ else e.slot i := by
  rw [ledEffectsSetZone] at h
  split at h
  · next hmax =>
      cases h
      refine ⟨rfl, fun i => ?_⟩
      have hne : (i : ℕ) ≠ zoneId.toNat := fun heq => Nat.not_le.mpr i.isLt (heq ▸ hmax)
      rw [if_neg hne]
  · split at h
    · cases h
      exact ⟨rfl, LedEffects.slot_set e _ _⟩
    · cases h

theorem zones_clearZone {e : LedEffects} {zoneId : UInt8} {r : EffectsReturn}
    (h : ledEffectsClearZone e zoneId = some r) :
    (∀ i : Fin ledMaxZones, r.effects.slot i =
      if (i : ℕ) = zoneId.toNat then .zero else e.slot i) ∧
    ∀ i : Fin ledMaxZones, (i : ℕ) = zoneId.toNat → (e.slot i).active = true →
      r.off = (List.range (e.slot i).cfg.count.toNat).map fun k =>
        ((e.slot i).cfg.stripIdx, (e.slot i).cfg.start.toNat + k) := by
  rw [ledEffectsClearZone] at h
  split at h
  · next hmax =>
      cases h
      have hne : ∀ i : Fin ledMaxZones, (i : ℕ) ≠ zoneId.toNat := fun i heq =>
        Nat.not_le.mpr i.isLt (heq ▸ hmax)
      exact ⟨fun i => by rw [if_neg (hne i)], fun i hi => absurd hi (hne i)⟩
  · next hmax =>
      split at h
      · simp only at h
        split at h
        · cases h
          refine ⟨LedEffects.slot_set e _ _, fun i hi hactive => ?_⟩
          have heq : i = ⟨zoneId.toNat, Nat.lt_of_not_le hmax⟩ := Fin.ext hi
          subst heq
          rfl
        · next hinactive =>
            cases h
            refine ⟨LedEffects.slot_set e _ _, fun i hi hactive => ?_⟩
            have heq : i = ⟨zoneId.toNat, Nat.lt_of_not_le hmax⟩ := Fin.ext hi
            subst heq
            exact absurd hactive hinactive
      · cases h

end LedEffects
end Klippylink
