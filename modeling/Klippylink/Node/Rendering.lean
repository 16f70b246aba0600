import Klippylink.Lib.Fallible
import Klippylink.Node.Drivers
import Klippylink.Node.LedEffects

/-!
# How a zone is drawn

`render_zone` of `led_effects.c` draws one step of a zone's effect: it sets pixels of the
zone and moves its tick.  The effects divide by numbers that come from the zone, and the
processor stops on a division by zero.

The light of BREATHE is a `float` computation, of the place in the cycle, the length of
the cycle and the brightness; it is a parameter here.

## Main definitions

* `dim`, `speedPeriod`, `hsvToRgb` — the helpers.
* `renderZone` — `render_zone`.
* `drawZones`, `effectsPass` — the loop of `effects_task`.
* `Stops` — what `render_zone` divides by zero for.
-/

namespace Klippylink

open Lib

/-! ## The helpers -/

/-- A colour: red, green, blue. -/
abbrev Rgb := UInt8 × UInt8 × UInt8

/-- `dim`. -/
def dim (v bri : UInt8) : UInt8 := UInt8.ofNat (v.toNat * bri.toNat / 255)

/-- `speed_period`. -/
def speedPeriod (speed : UInt8) : UInt32 := 1 + UInt32.ofNat ((255 - speed.toNat) * 49 / 255)

/-- `hsv_to_rgb`. -/
def hsvToRgb (h s v : UInt8) : Rgb :=
  if s = 0 then (v, v, v)
  else
    let region := h / 43
    let remainder := UInt8.ofNat ((h.toNat - region.toNat * 43) * 6)
    let p := dim v (255 - s)
    let q := dim v (255 - UInt8.ofNat (s.toNat * remainder.toNat / 255))
    let t := dim v (255 - UInt8.ofNat (s.toNat * (255 - remainder.toNat) / 255))
    match region.toNat with
    | 0 => (v, t, p)
    | 1 => (q, v, p)
    | 2 => (p, v, t)
    | 3 => (p, q, v)
    | 4 => (t, p, v)
    | _ => (v, p, q)

/-- A colour at a brightness. -/
def dimRgb (c : Rgb) (bri : UInt8) : Rgb := (dim c.1 bri, dim c.2.1 bri, dim c.2.2 bri)

/-- `led_effect_id_t`. -/
inductive LedEffectId
  | solid
  | blink
  | breathe
  | rainbow
  | chase
  | wipe
  | twinkle
  deriving DecidableEq

/-- The effect with this number. -/
def LedEffectId.ofCode : UInt8 → Option LedEffectId
  | 0 => some .solid
  | 1 => some .blink
  | 2 => some .breathe
  | 3 => some .rainbow
  | 4 => some .chase
  | 5 => some .wipe
  | 6 => some .twinkle
  | _ => none

/-! ## One zone -/

/-- What stops the processor. -/
inductive RenderFault
  | divideByZero
  deriving DecidableEq

/-- `a / b`. -/
def divide (a b : UInt32) : Except RenderFault UInt32 :=
  if b = 0 then .error .divideByZero else .ok (a / b)

/-- `a % b`. -/
def modulo (a b : UInt32) : Except RenderFault UInt32 :=
  if b = 0 then .error .divideByZero else .ok (a % b)

/-- A call of `neopixel_set_pixel`. -/
structure PixelCall where
  stripIdx : UInt8
  ledIdx : UInt32
  color : Rgb
  deriving DecidableEq

/-- The call for the `i`-th pixel of a zone; `start + i` is not a byte. -/
def LedZoneCfg.pixel (c : LedZoneCfg) (i : ℕ) (color : Rgb) : PixelCall :=
  ⟨c.stripIdx, UInt32.ofNat (c.start.toNat + i), color⟩

/-- The calls of a loop over the pixels of a zone. -/
def LedZoneCfg.pixels (c : LedZoneCfg) (color : ℕ → Rgb) : List PixelCall :=
  (List.range c.count.toNat).map fun i => c.pixel i (color i)

/-- What two calls of `rand` return. -/
structure Draws where
  place : UInt32
  choice : UInt32

/-- `render_zone`: the tick it leaves, and the pixels it sets.  `level` is the light of
BREATHE. -/
def renderZone (level : UInt32 → UInt32 → UInt8 → UInt8) (z : ZoneState) (draws : Draws) :
    Except RenderFault (UInt32 × List PixelCall) :=
  let c := z.cfg
  let bri := c.brightness
  let period := speedPeriod c.speed
  let count := c.count.toUInt32
  match LedEffectId.ofCode c.effect with
  | some .solid => .ok (z.tick, c.pixels fun _ => dimRgb c.color bri)
  | some .blink => do
      let phase ← divide z.tick period
      let on := phase % 2 = 0
      pure (z.tick + 1, c.pixels fun _ => if on then dimRgb c.color bri else (0, 0, 0))
  | some .breathe => do
      let cycle := period * 2
      let place ← modulo z.tick cycle
      pure (z.tick + 1, c.pixels fun _ => dimRgb c.color (level place cycle bri))
  | some .rainbow => do
      let base ← divide z.tick period
      let hueBase := (base % 256).toUInt8
      -- the loop divides at every pixel
      let calls ← (List.range c.count.toNat).mapM fun i => do
        let step ← divide (UInt32.ofNat i * 256) count
        pure (c.pixel i (hsvToRgb (hueBase.toUInt32 + step).toUInt8 255 bri))
      pure (z.tick + 1, calls)
  | some .chase => do
      let steps ← divide z.tick period
      let pos := (← modulo steps count).toUInt8
      pure (z.tick + 1, c.pixels fun i =>
        if i = pos.toNat then dimRgb c.color bri else dimRgb c.color2 bri)
  | some .wipe => do
      let cycleLen := count * 2
      let steps ← divide z.tick period
      let pos := (← modulo steps cycleLen).toUInt16
      let lit := fun i =>
        if pos.toNat < c.count.toNat then i ≤ pos.toNat else pos.toNat - c.count.toNat < i
      pure (z.tick + 1, c.pixels fun i => if lit i then dimRgb c.color bri else (0, 0, 0))
  | some .twinkle => do
      if (← modulo z.tick period) = 0 then
        let idx := (← modulo draws.place count).toUInt8
        let color := if draws.choice % 2 = 1 then c.color else c.color2
        pure (z.tick + 1, [c.pixel idx.toNat (dimRgb color bri)])
      else pure (z.tick + 1, [])
  | none => .ok (z.tick, [])

/-! ## The effects task -/

/-- The loop over the zones, in some order: the zones after it, and the pixels it
sets. -/
def drawZones (level : UInt32 → UInt32 → UInt8 → UInt8) (draws : Fin ledMaxZones → Draws) :
    List (Fin ledMaxZones) → LedEffects → Except RenderFault (LedEffects × List PixelCall)
  | [], e => .ok (e, [])
  | i :: order, e =>
      if (e.slot i).active then do
        let r ← renderZone level (e.slot i) (draws i)
        let later ← drawZones level draws order (e.drawn i r.1)
        pure (later.1, r.2 ++ later.2)
      else drawZones level draws order e

/-- `dirty`: the strips of the active zones. -/
def dirty (e : LedEffects) : List ℕ :=
  (List.range neopixelMaxStrips).filter fun s =>
    e.zones.toList.any fun z => z.active && z.cfg.stripIdx.toNat == s

/-- What one round of `effects_task` leaves: the zones, the pixels it sets, and the strips
it flushes. -/
structure PassReturn where
  effects : LedEffects
  calls : List PixelCall
  flushed : List ℕ

/-- One round of `effects_task`. -/
def effectsPass (level : UInt32 → UInt32 → UInt8 → UInt8) (draws : Fin ledMaxZones → Draws)
    (e : LedEffects) : Except RenderFault PassReturn := do
  let r ← drawZones level draws (List.finRange ledMaxZones) e
  pure ⟨r.1, r.2, dirty e⟩

/-! ### When it divides by zero -/

theorem divide_of_ne_zero (a : UInt32) {b : UInt32} (h : b ≠ 0) : divide a b = .ok (a / b) :=
  if_neg h

theorem modulo_of_ne_zero (a : UInt32) {b : UInt32} (h : b ≠ 0) : modulo a b = .ok (a % b) :=
  if_neg h

theorem modulo_zero (a : UInt32) : modulo a 0 = .error .divideByZero := rfl

theorem toNat_speedPeriod (speed : UInt8) :
    (speedPeriod speed).toNat = 1 + (255 - speed.toNat) * 49 / 255 := by
  have hlt : (255 - speed.toNat) * 49 / 255 < 50 := by omega
  rw [speedPeriod, UInt32.toNat_add, UInt32.toNat_ofNat_of_lt' (by simp only [UInt32.size]; omega),
    UInt32.toNat_one]
  omega

/-- The period is at least one tick. -/
theorem speedPeriod_ne_zero (speed : UInt8) : speedPeriod speed ≠ 0 := by
  intro h
  have htoNat := toNat_speedPeriod speed
  rw [h, UInt32.toNat_zero] at htoNat
  omega

/-- So is the cycle of BREATHE. -/
theorem speedPeriod_mul_two_ne_zero (speed : UInt8) : speedPeriod speed * 2 ≠ 0 := by
  intro h
  have htoNat : (speedPeriod speed * 2).toNat = 0 := by rw [h, UInt32.toNat_zero]
  have htwo : (2 : UInt32).toNat = 2 := rfl
  have hlt : (255 - speed.toNat) * 49 / 255 < 50 := by omega
  rw [UInt32.toNat_mul, toNat_speedPeriod, htwo, Nat.mod_eq_of_lt (by omega)] at htoNat
  omega

theorem toUInt32_eq_zero {n : UInt8} : n.toUInt32 = 0 ↔ n = 0 := by
  rw [← UInt32.toNat_inj, ← UInt8.toNat_inj, UInt8.toNat_toUInt32]
  rfl

theorem toUInt32_mul_two_eq_zero {n : UInt8} : n.toUInt32 * 2 = 0 ↔ n = 0 := by
  have hlt := n.toNat_lt
  have htwo : (2 : UInt32).toNat = 2 := rfl
  rw [← UInt32.toNat_inj, ← UInt8.toNat_inj, UInt32.toNat_mul, UInt8.toNat_toUInt32, htwo,
    UInt32.toNat_zero, UInt8.toNat_zero]
  omega

/-- A remainder by a byte is a byte. -/
theorem toNat_mod_lt (a : UInt32) {n : UInt8} (h : n ≠ 0) :
    (a % n.toUInt32).toUInt8.toNat < n.toNat := by
  have hlt := n.toNat_lt
  have hpos : 0 < n.toNat := Nat.pos_of_ne_zero fun hzero => h (UInt8.toNat_inj.mp hzero)
  have hmod := Nat.mod_lt a.toNat hpos
  rw [UInt32.toNat_toUInt8, UInt32.toNat_mod, UInt8.toNat_toUInt32]
  omega

/-- The effects that need a pixel: CHASE and WIPE at every tick, TWINKLE at the ticks at
which it sets one. -/
def Stops (z : ZoneState) : Prop :=
  z.cfg.count = 0 ∧
    (LedEffectId.ofCode z.cfg.effect = some .chase ∨
      LedEffectId.ofCode z.cfg.effect = some .wipe ∨
      LedEffectId.ofCode z.cfg.effect = some .twinkle ∧
        z.tick % speedPeriod z.cfg.speed = 0)

variable (level : UInt32 → UInt32 → UInt8 → UInt8)

/-- The in-loop divisions of RAINBOW are by the number of pixels of a zone that has
one. -/
theorem exists_rainbow (c : LedZoneCfg) (hueBase : UInt8) (bri : UInt8) :
    ∃ calls, ((List.range c.count.toNat).mapM fun i => do
        let step ← divide (UInt32.ofNat i * 256) c.count.toUInt32
        pure (c.pixel i (hsvToRgb (hueBase.toUInt32 + step).toUInt8 255 bri))) = .ok calls ∧
      ∀ call ∈ calls, ∃ i < c.count.toNat, ∃ color, call = c.pixel i color := by
  have hcell : ∀ i ∈ List.range c.count.toNat, (do
      let step ← divide (UInt32.ofNat i * 256) c.count.toUInt32
      pure (c.pixel i (hsvToRgb (hueBase.toUInt32 + step).toUInt8 255 bri))) =
        (.ok (c.pixel i (hsvToRgb
          (hueBase.toUInt32 + UInt32.ofNat i * 256 / c.count.toUInt32).toUInt8 255 bri)) :
            Except RenderFault PixelCall) := by
    intro i hi
    have hne : c.count.toUInt32 ≠ 0 := fun hzero => by
      rw [toUInt32_eq_zero.mp hzero] at hi
      exact absurd (List.mem_range.mp hi) (by simp)
    rw [divide_of_ne_zero _ hne]
    rfl
  obtain ⟨calls, hcalls, hmem⟩ := mapM_isOk_of_forall fun i hi => ⟨_, hcell i hi⟩
  refine ⟨calls, hcalls, fun call hcall => ?_⟩
  obtain ⟨i, hi, heq⟩ := hmem call hcall
  rw [hcell i hi] at heq
  cases heq
  exact ⟨i, List.mem_range.mp hi, _, rfl⟩

theorem mem_pixels {c : LedZoneCfg} {color : ℕ → Rgb} {call : PixelCall}
    (h : call ∈ c.pixels color) : ∃ i < c.count.toNat, ∃ color, call = c.pixel i color := by
  obtain ⟨i, hi, heq⟩ := List.mem_map.mp h
  exact ⟨i, List.mem_range.mp hi, color i, heq.symm⟩

/-- **A zone that does not stop the processor is drawn**, and each pixel it sets is one
of its own. -/
theorem renderZone_of_not_stops {z : ZoneState} (draws : Draws) (h : ¬ Stops z) :
    ∃ r, renderZone level z draws = .ok r ∧
      ∀ call ∈ r.2, ∃ i < z.cfg.count.toNat, ∃ color, call = z.cfg.pixel i color := by
  have hperiod := speedPeriod_ne_zero z.cfg.speed
  have hcycle := speedPeriod_mul_two_ne_zero z.cfg.speed
  have hcount : ∀ effect, LedEffectId.ofCode z.cfg.effect = some effect →
      effect = .chase ∨ effect = .wipe → z.cfg.count ≠ 0 := by
    intro effect heffect hkind hzero
    refine h ⟨hzero, ?_⟩
    rcases hkind with rfl | rfl
    · exact .inl heffect
    · exact .inr (.inl heffect)
  rw [renderZone]
  cases heffect : LedEffectId.ofCode z.cfg.effect with
  | none => exact ⟨_, rfl, by simp⟩
  | some effect =>
      cases effect with
      | solid => exact ⟨_, rfl, fun call hcall => mem_pixels hcall⟩
      | blink =>
          rw [divide_of_ne_zero _ hperiod]
          exact ⟨_, rfl, fun call hcall => mem_pixels hcall⟩
      | breathe =>
          simp only [modulo_of_ne_zero _ hcycle]
          exact ⟨_, rfl, fun call hcall => mem_pixels hcall⟩
      | rainbow =>
          obtain ⟨calls, hcalls, hmem⟩ := exists_rainbow z.cfg
            (z.tick / speedPeriod z.cfg.speed % 256).toUInt8 z.cfg.brightness
          simp only [divide_of_ne_zero _ hperiod]
          exact ⟨(z.tick + 1, calls), by rw [bind_eq_ok]; exact ⟨_, rfl, by rw [hcalls]; rfl⟩, hmem⟩
      | chase =>
          have hne := mt toUInt32_eq_zero.mp (hcount _ heffect (.inl rfl))
          simp only [divide_of_ne_zero _ hperiod, modulo_of_ne_zero _ hne]
          exact ⟨_, rfl, fun call hcall => mem_pixels hcall⟩
      | wipe =>
          have hne := mt toUInt32_mul_two_eq_zero.mp (hcount _ heffect (.inr rfl))
          simp only [divide_of_ne_zero _ hperiod, modulo_of_ne_zero _ hne]
          exact ⟨_, rfl, fun call hcall => mem_pixels hcall⟩
      | twinkle =>
          simp only [modulo_of_ne_zero _ hperiod, bind, Except.bind]
          by_cases htick : z.tick % speedPeriod z.cfg.speed = 0
          · have hpos : z.cfg.count ≠ 0 := fun hzero =>
              h ⟨hzero, .inr (.inr ⟨heffect, htick⟩)⟩
            rw [if_pos htick, modulo_of_ne_zero _ (mt toUInt32_eq_zero.mp hpos)]
            refine ⟨_, rfl, fun call hcall => ?_⟩
            exact ⟨_, toNat_mod_lt draws.place hpos, _, List.mem_singleton.mp hcall⟩
          · rw [if_neg htick]
            exact ⟨_, rfl, by simp⟩

/-- **It divides by zero exactly for a zone that stops it.** -/
theorem renderZone_isOk_iff (z : ZoneState) (draws : Draws) :
    (∃ r, renderZone level z draws = .ok r) ↔ ¬ Stops z := by
  constructor
  · intro hok hstops
    obtain ⟨r, hr⟩ := hok
    have hperiod := speedPeriod_ne_zero z.cfg.speed
    obtain ⟨hcount, heffect | heffect | ⟨heffect, htick⟩⟩ := hstops
    all_goals rw [renderZone, heffect, hcount] at hr
    · simp only [divide_of_ne_zero _ hperiod] at hr
      cases hr
    · simp only [divide_of_ne_zero _ hperiod] at hr
      cases hr
    · simp only [modulo_of_ne_zero _ hperiod, htick, bind, Except.bind, if_true] at hr
      cases hr
  · intro h
    obtain ⟨r, hr, -⟩ := renderZone_of_not_stops level draws h
    exact ⟨r, hr⟩

/-! ### A round of the effects task -/

section Rounds

variable (draws : Fin ledMaxZones → Draws)

/-- The pixels that one zone sets, when it is drawn from these zones. -/
def zoneCalls (e : LedEffects) (i : Fin ledMaxZones) : List PixelCall :=
  if (e.slot i).active then
    match renderZone level (e.slot i) (draws i) with
    | .error _ => []
    | .ok r => r.2
  else []

theorem zones_drawn_of_ne (e : LedEffects) {i j : Fin ledMaxZones} (h : i ≠ j) (tick : UInt32) :
    (e.drawn i tick).slot j = e.slot j := by
  have hne : (j : ℕ) ≠ i := fun heq => h (Fin.ext heq.symm)
  rw [LedEffects.drawn, LedEffects.slot_set, if_neg hne]

theorem zoneCalls_drawn_of_ne (e : LedEffects) {i j : Fin ledMaxZones} (h : i ≠ j)
    (tick : UInt32) : zoneCalls level draws (e.drawn i tick) j = zoneCalls level draws e j := by
  rw [zoneCalls, zones_drawn_of_ne e h]
  rfl

/-- **A round in which no zone stops the processor** sets the pixels of one zone after
another, each as if it were alone. -/
theorem drawZones_of_not_stops {order : List (Fin ledMaxZones)} {e : LedEffects}
    (hnodup : order.Nodup) (h : ∀ i ∈ order, (e.slot i).active = true → ¬ Stops (e.slot i)) :
    ∃ e', drawZones level draws order e =
      .ok (e', order.flatMap (zoneCalls level draws e)) := by
  induction order generalizing e with
  | nil => exact ⟨e, rfl⟩
  | cons i order ih =>
      have hnot : i ∉ order := (List.nodup_cons.mp hnodup).1
      have hrest := fun j hj => h j (List.mem_cons_of_mem i hj)
      have hcalls : (i :: order).flatMap (zoneCalls level draws e) =
          zoneCalls level draws e i ++ order.flatMap (zoneCalls level draws e) :=
        List.flatMap_cons
      rw [drawZones, hcalls]
      by_cases hactive : (e.slot i).active = true
      · obtain ⟨r, hr, -⟩ := renderZone_of_not_stops level (draws i)
          (h i List.mem_cons_self hactive)
        have hfirst : zoneCalls level draws e i = r.2 := by rw [zoneCalls, if_pos hactive, hr]
        -- the others are as they were
        have hne : ∀ j ∈ order, i ≠ j := fun j hj heq => hnot (heq ▸ hj)
        obtain ⟨e', he'⟩ := ih (e := e.drawn i r.1) (List.nodup_cons.mp hnodup).2 fun j hj => by
          rw [zones_drawn_of_ne e (hne j hj)]
          exact hrest j hj
        refine ⟨e', ?_⟩
        rw [if_pos hactive, hr, hfirst]
        simp only [bind, Except.bind, he', pure, Except.pure]
        congr 3
        exact List.flatMap_congr fun j hj => zoneCalls_drawn_of_ne level draws e (hne j hj) r.1
      · have hfirst : zoneCalls level draws e i = [] := by rw [zoneCalls, if_neg hactive]
        rw [if_neg hactive, hfirst]
        exact ih (List.nodup_cons.mp hnodup).2 hrest

/-- A round that ends has drawn no zone that stops the processor. -/
theorem not_stops_of_drawZones {order : List (Fin ledMaxZones)} {e : LedEffects}
    {r : LedEffects × List PixelCall} (hnodup : order.Nodup)
    (h : drawZones level draws order e = .ok r) :
    ∀ i ∈ order, (e.slot i).active = true → ¬ Stops (e.slot i) := by
  induction order generalizing e r with
  | nil => simp
  | cons j order ih =>
      have hnot : j ∉ order := (List.nodup_cons.mp hnodup).1
      rw [drawZones] at h
      intro i hi hactive
      split at h
      · obtain ⟨first, hfirst, h⟩ := bind_eq_ok.mp h
        obtain ⟨later, hlater, -⟩ := bind_eq_ok.mp h
        rcases List.mem_cons.mp hi with rfl | hi
        · exact (renderZone_isOk_iff level _ (draws i)).mp ⟨first, hfirst⟩
        · have hne : j ≠ i := fun heq => hnot (heq ▸ hi)
          have hrest := ih (List.nodup_cons.mp hnodup).2 hlater i hi
          rw [zones_drawn_of_ne e hne] at hrest
          exact hrest hactive
      · next hinactive =>
          rcases List.mem_cons.mp hi with rfl | hi
          · exact absurd hactive hinactive
          · exact ih (List.nodup_cons.mp hnodup).2 h i hi hactive

/-- Drawing changes no configuration. -/
theorem zone_drawZones {order : List (Fin ledMaxZones)} {e : LedEffects}
    {r : LedEffects × List PixelCall} (h : drawZones level draws order e = .ok r) :
    r.1.zone = e.zone ∧ r.1.mutex = e.mutex := by
  induction order generalizing e r with
  | nil =>
      cases h
      exact ⟨rfl, rfl⟩
  | cons i order ih =>
      rw [drawZones] at h
      split at h
      · obtain ⟨first, -, h⟩ := bind_eq_ok.mp h
        obtain ⟨later, hlater, hret⟩ := bind_eq_ok.mp h
        cases hret
        obtain ⟨hzone, hmutex⟩ := ih hlater
        exact ⟨hzone.trans (funext fun k => e.zone_drawn i first.1 k), hmutex⟩
      · exact ih h

end Rounds

end Klippylink
