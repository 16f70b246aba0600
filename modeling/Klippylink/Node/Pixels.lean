import Klippylink.Lib.Journal
import Klippylink.Node.Rendering
import Mathlib.Data.List.Nodup

/-!
# The pixels of the strips, and the zones that draw them

A strip's buffer keeps a colour for each of its pixels.  `neopixel_set_pixel` writes one
of them, when there is a strip with the index and a pixel at the place; the calls of a
round are then a journal of writes.

Each zone writes in its own range of one strip.  Zones whose ranges are disjoint do not
see each other, and the order in which they are drawn does not matter.

## Main definitions

* `Pixels`, `PixelCall.write`, `Pixels.show` — the buffers.
* `LedZoneCfg.range`, `StripTable.pixels` — the pixels of a zone, and those there are.
* `zones_do_not_interfere` — the zones and the order in which they are drawn.
-/

namespace Klippylink

open Lib

/-- A pixel: the index of its strip, and its place on it. -/
abbrev Pixel := ℕ × ℕ

/-- The buffers of the strips. -/
abbrev Pixels := Pixel → Rgb

/-- No colour. -/
abbrev dark : Rgb := (0, 0, 0)

/-- What a call of `neopixel_set_pixel` writes, if anything. -/
def PixelCall.write (strips : StripTable) (call : PixelCall) : Option (Pixel × Rgb) :=
  match neopixelSetPixel strips call.stripIdx.toNat call.ledIdx call.color with
  | .error _ => none
  | .ok set => some ((call.stripIdx.toNat, set.index.toNat), set.color)

/-- The buffers after some calls. -/
def Pixels.show (pixels : Pixels) (strips : StripTable) (calls : List PixelCall) : Pixels :=
  replay pixels (calls.filterMap (PixelCall.write strips))

/-- The pixels there are. -/
def StripTable.pixels (strips : StripTable) : Set Pixel :=
  {p | ∃ strip, strips.rows[p.1]? = some strip ∧ p.2 < strip.count.toNat}

/-- The range of a zone: `start .. start + count - 1` on its strip. -/
def LedZoneCfg.range (c : LedZoneCfg) : Set Pixel :=
  {p | p.1 = c.stripIdx.toNat ∧ c.start.toNat ≤ p.2 ∧ p.2 < c.start.toNat + c.count.toNat}

/-! ### What is written -/

/-- A call writes its pixel in its colour, when there is such a pixel. -/
theorem write_eq_some_iff {strips : StripTable} {call : PixelCall} {w : Pixel × Rgb} :
    call.write strips = some w ↔
      w = ((call.stripIdx.toNat, call.ledIdx.toNat), call.color) ∧ w.1 ∈ strips.pixels := by
  have hsign : ¬ ((call.stripIdx.toNat : ℤ) < 0) := by omega
  simp only [PixelCall.write, neopixelSetPixel, if_neg hsign, Int.toNat_natCast]
  cases hrow : strips.rows[call.stripIdx.toNat]? with
  | none =>
      refine iff_of_false (by simp) fun hand => ?_
      obtain ⟨rfl, strip, hstrip, -⟩ := hand
      rw [hrow] at hstrip
      cases hstrip
  | some strip =>
      by_cases hle : strip.count ≤ call.ledIdx
      · simp only [if_pos hle]
        refine iff_of_false (by simp) fun hand => ?_
        obtain ⟨rfl, strip', hstrip', hlt⟩ := hand
        rw [hrow] at hstrip'
        cases hstrip'
        exact Nat.not_lt.mpr (UInt32.le_iff_toNat_le.mp hle) hlt
      · simp only [if_neg hle, Option.some.injEq]
        have hlt : call.ledIdx.toNat < strip.count.toNat :=
          Nat.lt_of_not_le fun h => hle (UInt32.le_iff_toNat_le.mpr h)
        refine ⟨fun heq => ⟨heq.symm, ?_⟩, fun hand => hand.1.symm⟩
        rw [← heq]
        exact ⟨strip, hrow, hlt⟩

theorem toNat_ledIdx_pixel (c : LedZoneCfg) {i : ℕ} (h : i < c.count.toNat) (color : Rgb) :
    (c.pixel i color).ledIdx.toNat = c.start.toNat + i := by
  have hstart := c.start.toNat_lt
  have hcount := c.count.toNat_lt
  exact UInt32.toNat_ofNat_of_lt' (by simp only [UInt32.size]; omega)

/-- The `i`-th pixel of a zone is in its range. -/
theorem write_pixel {strips : StripTable} {c : LedZoneCfg} {i : ℕ} (h : i < c.count.toNat)
    {color : Rgb} {w : Pixel × Rgb} (hw : (c.pixel i color).write strips = some w) :
    w.1 ∈ c.range ∩ strips.pixels := by
  obtain ⟨rfl, hpixel⟩ := write_eq_some_iff.mp hw
  refine ⟨⟨rfl, ?_⟩, hpixel⟩
  show c.start.toNat ≤ (c.pixel i color).ledIdx.toNat ∧
    (c.pixel i color).ledIdx.toNat < c.start.toNat + c.count.toNat
  rw [toNat_ledIdx_pixel c h]
  omega

/-! ### The range of a zone -/

variable {level : UInt32 → UInt32 → UInt8 → UInt8} {strips : StripTable}

/-- **A zone is drawn in its range.** -/
theorem within_renderZone {z : ZoneState} {draws : Draws} {r : UInt32 × List PixelCall}
    (h : renderZone level z draws = .ok r) :
    Within (z.cfg.range ∩ strips.pixels) (r.2.filterMap (PixelCall.write strips)) := by
  have hstops := (renderZone_isOk_iff level z draws).mp ⟨r, h⟩
  obtain ⟨r', hr', hcalls⟩ := renderZone_of_not_stops level draws hstops
  rw [h] at hr'
  cases hr'
  intro w hw
  obtain ⟨call, hcall, hwrite⟩ := List.mem_filterMap.mp hw
  obtain ⟨i, hi, color, rfl⟩ := hcalls call hcall
  exact write_pixel hi hwrite

/-- The range of a zone, if it is active. -/
def LedEffects.area (e : LedEffects) (i : Fin ledMaxZones) : Set Pixel :=
  {p | (e.slot i).active = true ∧ p ∈ (e.slot i).cfg.range}

theorem LedEffects.mem_area {e : LedEffects} {i : Fin ledMaxZones} {p : Pixel} :
    p ∈ e.area i ↔ ∃ c, e.zone i = some c ∧ p ∈ c.range := by
  constructor
  · intro h
    exact ⟨_, zone_eq_some_iff.mpr ⟨h.1, rfl⟩, h.2⟩
  · intro h
    obtain ⟨c, hc, hp⟩ := h
    obtain ⟨hactive, rfl⟩ := zone_eq_some_iff.mp hc
    exact ⟨hactive, hp⟩

variable (level strips)

/-- What a zone adds to a round is in its range. -/
theorem within_zoneCalls (draws : Fin ledMaxZones → Draws) (e : LedEffects)
    (i : Fin ledMaxZones) :
    Within (e.area i ∩ strips.pixels)
      ((zoneCalls level draws e i).filterMap (PixelCall.write strips)) := by
  rw [zoneCalls]
  split
  · next hactive =>
      cases hr : renderZone level (e.slot i) (draws i) with
      | error _ => simp [Within]
      | ok r =>
          intro w hw
          have hmem := within_renderZone hr w hw
          exact ⟨⟨hactive, hmem.1⟩, hmem.2⟩
  · simp [Within]

/-! ### Rounds in any order -/

/-- Every active zone has a pixel. -/
def LedEffects.HavePixels (e : LedEffects) : Prop :=
  ∀ i : Fin ledMaxZones, (e.slot i).active = true → (e.slot i).cfg.count ≠ 0

/-- No two active zones have a pixel in common. -/
def LedEffects.Apart (e : LedEffects) : Prop :=
  ∀ i j : Fin ledMaxZones, i ≠ j → Disjoint (e.area i) (e.area j)

/-- What a round of zones that have pixels writes: the zones one after another. -/
theorem drawZones_of_havePixels {e : LedEffects} (h : e.HavePixels)
    (draws : Fin ledMaxZones → Draws) {order : List (Fin ledMaxZones)} (hnodup : order.Nodup) :
    ∃ r, drawZones level draws order e = .ok r ∧
      r.2.filterMap (PixelCall.write strips) =
        order.flatMap fun i =>
          (zoneCalls level draws e i).filterMap (PixelCall.write strips) := by
  obtain ⟨e', he'⟩ := drawZones_of_not_stops level draws hnodup fun i _ hactive hstops =>
    h i hactive hstops.1
  exact ⟨_, he', List.filterMap_flatMap⟩

/-- **Zones stay in their ranges and do not interfere.**  A zone with a pixel is drawn,
and every write is to a pixel that there is, on its strip and in its range.  When all
active zones have a pixel and no two have one in common, the buffers after a round are the
same for every order of the zones, and the pixels of each are what it makes of them
alone. -/
theorem zones_do_not_interfere (level : UInt32 → UInt32 → UInt8 → UInt8) (strips : StripTable) :
    (∀ z draws, z.active = true → z.cfg.count ≠ 0 →
      ∃ r, renderZone level z draws = .ok r ∧
        Within (z.cfg.range ∩ strips.pixels) (r.2.filterMap (PixelCall.write strips))) ∧
    ∀ (e : LedEffects) (draws : Fin ledMaxZones → Draws) (pixels : Pixels),
      e.HavePixels → e.Apart → ∃ pass, effectsPass level draws e = .ok pass ∧
        (∀ order, order.Perm (List.finRange ledMaxZones) →
          ∃ r, drawZones level draws order e = .ok r ∧
            pixels.show strips r.2 = pixels.show strips pass.calls) ∧
        ∀ i : Fin ledMaxZones, (e.slot i).active = true →
          ∃ alone, drawZones level draws [i] e = .ok alone ∧
            ∀ p ∈ (e.slot i).cfg.range,
              pixels.show strips pass.calls p = pixels.show strips alone.2 p := by
  constructor
  · intro z draws _ hcount
    have hstops : ¬ Stops z := fun hstops => hcount hstops.1
    obtain ⟨r, hr⟩ := (renderZone_isOk_iff level z draws).mpr hstops
    exact ⟨r, hr, within_renderZone hr⟩
  · intro e draws pixels hhave hapart
    have hnodup := List.nodup_finRange ledMaxZones
    have hwithin := fun i => within_zoneCalls level strips draws e i
    have hdisjoint : ∀ i j, i ≠ j →
        Disjoint (e.area i ∩ strips.pixels) (e.area j ∩ strips.pixels) := fun i j hij =>
      (hapart i j hij).mono Set.inter_subset_left Set.inter_subset_left
    obtain ⟨pass, hpass, hwrites⟩ :=
      drawZones_of_havePixels level strips hhave draws hnodup
    refine ⟨⟨pass.1, pass.2, dirty e⟩, by rw [effectsPass, hpass]; rfl, ?_, ?_⟩
    · intro order hperm
      obtain ⟨r, hr, hwrites'⟩ := drawZones_of_havePixels level strips hhave draws
        (hperm.nodup_iff.mpr hnodup)
      refine ⟨r, hr, ?_⟩
      rw [Pixels.show, Pixels.show, hwrites, hwrites']
      exact replay_flatMap_perm pixels hwithin hdisjoint hnodup hperm
    · intro i hactive
      obtain ⟨alone, halone, hwrites'⟩ := drawZones_of_havePixels level strips hhave draws
        (List.nodup_singleton i)
      refine ⟨alone, halone, fun p hp => ?_⟩
      rw [Pixels.show, Pixels.show, hwrites, hwrites', List.flatMap_singleton]
      by_cases hpixel : p ∈ strips.pixels
      · exact replay_flatMap_of_mem pixels hwithin hdisjoint hnodup (List.mem_finRange i)
          ⟨⟨hactive, hp⟩, hpixel⟩
      · -- a pixel that there is not is not written
        rw [replay_flatMap_of_notMem pixels hwithin fun _ _ hmem => hpixel hmem.2,
          replay_of_notMem pixels (hwithin i) fun hmem => hpixel hmem.2]

/-- A strip of 252 pixels. -/
def longStrip : StripTable := ⟨[⟨4, 252⟩], by decide⟩

/-- The first zone chases on the pixels 0 to 9, the second twinkles from 250 to beyond the
end of the strip. -/
def twoZones : LedEffects :=
  ⟨Vector.ofFn fun i =>
    if i = 0 then ⟨true, ⟨0, 0, 10, 4, (255, 0, 0), (0, 0, 9), 255, 128⟩, 7⟩
    else if i = 1 then ⟨true, ⟨0, 250, 10, 6, (0, 255, 0), (9, 0, 0), 255, 255⟩, 3⟩
    else .zero, true⟩

theorem twoZones_havePixels : twoZones.HavePixels := by
  rw [LedEffects.HavePixels]
  decide

theorem twoZones_apart : twoZones.Apart := by
  have hactive : ∀ i : Fin ledMaxZones, (twoZones.slot i).active = true → i = 0 ∨ i = 1 := by
    decide
  have hfirst : ∀ p ∈ twoZones.area 0, p.2 < 10 := fun p hp => hp.2.2.2
  have hsecond : ∀ p ∈ twoZones.area 1, 250 ≤ p.2 := fun p hp => hp.2.2.1
  intro i j hij
  rw [Set.disjoint_left]
  intro p hi hj
  rcases hactive i hi.1 with rfl | rfl <;> rcases hactive j hj.1 with rfl | rfl
  · exact hij rfl
  · exact absurd (hfirst p hi) (by have := hsecond p hj; omega)
  · exact absurd (hfirst p hj) (by have := hsecond p hi; omega)
  · exact hij rfl

/-- Drawn from the last to the first, they leave the strip the same. -/
theorem zones_do_not_interfere_twoZones :
    ∃ pass r, effectsPass (fun _ _ bri => bri) (fun _ => ⟨5, 1⟩) twoZones = .ok pass ∧
      drawZones (fun _ _ bri => bri) (fun _ => ⟨5, 1⟩) (List.finRange ledMaxZones).reverse
        twoZones = .ok r ∧
      Pixels.show (fun _ => dark) longStrip r.2 =
        Pixels.show (fun _ => dark) longStrip pass.calls := by
  obtain ⟨pass, hpass, horder, -⟩ := (zones_do_not_interfere (fun _ _ bri => bri) longStrip).2
    twoZones (fun _ => ⟨5, 1⟩) (fun _ => dark) twoZones_havePixels twoZones_apart
  obtain ⟨r, hr, hsame⟩ := horder _ (List.reverse_perm _)
  exact ⟨pass, r, hpass, hr, hsame⟩

end Klippylink
