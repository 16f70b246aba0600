import Klippylink.Lib.Cycle
import Klippylink.Node.LedNode

/-!
# What a zone shows

`render_zone` counts in ticks, in machine words, and sets pixels.  What a viewer sees is an
animation: in each round every pixel of a zone has a colour that depends on the time since the
zone was set, and on the zone alone.

## Main definitions

* `LedZoneCfg.frame` — the animation of a zone, in numbers.
* `renderZone_frame` — `render_zone` draws a frame.
* `LedNode.colors` — the colours of a pixel, round by round.
* `zone_shows_frames` — a zone shows its animation.
-/

namespace Klippylink

open Lib

/-! ## The animation -/

namespace LedZoneCfg

variable (level : UInt32 → UInt32 → UInt8 → UInt8) (c : LedZoneCfg)

/-- The rounds for which a phase of the animation lasts. -/
def period : ℕ := 1 + (255 - c.speed.toNat) * 49 / 255

/-- The zone at its brightness. -/
def lit : Rgb := dimRgb c.color c.brightness

/-- A pixel is in front of what WIPE has reached, or behind it on the way back. -/
def WipeLit (pos i : ℕ) : Prop :=
  if pos < c.count.toNat then i ≤ pos else pos - c.count.toNat < i

instance (pos i : ℕ) : Decidable (c.WipeLit pos i) := inferInstanceAs (Decidable (ite _ _ _))

/-- The colour of the `i`-th pixel in round `t`, when the round sets it. -/
def frame (t : ℕ) (draws : Draws) (i : ℕ) : Option Rgb :=
  match LedEffectId.ofCode c.effect with
  | some .solid => some c.lit
  | some .blink => some (if phase c.period 2 t = 0 then c.lit else dark)
  | some .breathe =>
      let cycle := 2 * c.period
      some (dimRgb c.color (level (UInt32.ofNat (t % cycle)) (UInt32.ofNat cycle) c.brightness))
  | some .rainbow =>
      some (hsvToRgb (UInt8.ofNat (t / c.period + i * 256 / c.count.toNat)) 255 c.brightness)
  | some .chase =>
      some (if phase c.period c.count.toNat t = i then c.lit else dimRgb c.color2 c.brightness)
  | some .wipe =>
      some (if c.WipeLit (phase c.period (2 * c.count.toNat) t) i then c.lit else dark)
  | some .twinkle =>
      if t % c.period = 0 ∧ i = draws.place.toNat % c.count.toNat then
        some (if draws.choice % 2 = 1 then c.lit else dimRgb c.color2 c.brightness)
      else none
  | none => none

/-- The calls set the pixels of the zone that have a colour. -/
def Sets (color : ℕ → Option Rgb) (calls : List PixelCall) : Prop :=
  ∀ call, call ∈ calls ↔ ∃ i < c.count.toNat, ∃ rgb, color i = some rgb ∧ call = c.pixel i rgb

end LedZoneCfg

/-- The tick after a round. -/
def ZoneState.nextTick (z : ZoneState) : UInt32 :=
  match LedEffectId.ofCode z.cfg.effect with
  | some .solid | none => z.tick
  | _ => z.tick + 1

/-! ## `render_zone` draws it -/

section Render

variable {level : UInt32 → UInt32 → UInt8 → UInt8} (c : LedZoneCfg)

theorem sets_pixels (color : ℕ → Rgb) : c.Sets (fun i => some (color i)) (c.pixels color) := by
  intro call
  simp [LedZoneCfg.pixels, eq_comm]

theorem sets_none : c.Sets (fun _ => none) [] := by simp [LedZoneCfg.Sets]

/-- One pixel only. -/
theorem sets_single {q : Prop} [Decidable q] {k : ℕ} (hq : q) (hk : k < c.count.toNat)
    (color : Rgb) : c.Sets (fun i => if q ∧ i = k then some color else none) [c.pixel k color] := by
  intro call
  rw [List.mem_singleton]
  constructor
  · intro hcall
    exact ⟨k, hk, color, if_pos ⟨hq, rfl⟩, hcall⟩
  · intro hset
    obtain ⟨i, -, rgb, hcolor, rfl⟩ := hset
    obtain ⟨⟨-, rfl⟩, hrgb⟩ := Option.ite_none_right_eq_some.mp hcolor
    rw [Option.some.inj hrgb]

theorem speedPeriod_eq : (speedPeriod c.speed).toNat = c.period := toNat_speedPeriod c.speed

theorem period_pos : 0 < c.period := Nat.lt_of_lt_of_le Nat.zero_lt_one (Nat.le_add_right 1 _)

theorem period_le : c.period ≤ 50 := by
  rw [LedZoneCfg.period]
  omega

theorem count_pos {c : LedZoneCfg} (h : c.count ≠ 0) : 0 < c.count.toNat :=
  Nat.pos_of_ne_zero fun hzero => h (UInt8.toNat_inj.mp hzero)

/-! ### The words that it counts in -/

theorem toNat_steps (a : UInt32) : (a / speedPeriod c.speed).toNat = a.toNat / c.period := by
  rw [UInt32.toNat_div, speedPeriod_eq]

theorem toNat_cycle : (speedPeriod c.speed * 2).toNat = 2 * c.period := by
  have hle := period_le c
  have htwo : (2 : UInt32).toNat = 2 := rfl
  rw [UInt32.toNat_mul, speedPeriod_eq, htwo, Nat.mod_eq_of_lt (by omega), Nat.mul_comm]

/-- A remainder by a byte fits one. -/
theorem toNat_mod_byte (a : UInt32) {n : UInt8} (h : 0 < n.toNat) :
    (a % n.toUInt32).toUInt8.toNat = a.toNat % n.toNat := by
  have hn := n.toNat_lt
  have hlt := Nat.mod_lt a.toNat h
  rw [UInt32.toNat_toUInt8, UInt32.toNat_mod, UInt8.toNat_toUInt32, Nat.mod_eq_of_lt (by omega)]

/-- A remainder by twice a byte fits two. -/
theorem toNat_mod_twice (a : UInt32) {n : UInt8} (h : 0 < n.toNat) :
    (a % (n.toUInt32 * 2)).toUInt16.toNat = a.toNat % (2 * n.toNat) := by
  have hn := n.toNat_lt
  have htwo : (2 : UInt32).toNat = 2 := rfl
  have hlt := Nat.mod_lt a.toNat (show 2 * n.toNat > 0 by omega)
  rw [UInt32.toNat_toUInt16, UInt32.toNat_mod, UInt32.toNat_mul, UInt8.toNat_toUInt32, htwo,
    Nat.mod_eq_of_lt (b := 2 ^ 32) (by omega), Nat.mul_comm n.toNat, Nat.mod_eq_of_lt (by omega)]

/-- The steps that RAINBOW makes around the circle, in bytes. -/
theorem hue_eq (step : UInt32) {i : ℕ} (hi : i < c.count.toNat) :
    ((step % 256).toUInt8.toUInt32 + UInt32.ofNat i * 256 / c.count.toUInt32).toUInt8 =
      UInt8.ofNat (step.toNat + i * 256 / c.count.toNat) := by
  have hcount := c.count.toNat_lt
  have hle : i * 256 / c.count.toNat ≤ i * 256 := Nat.div_le_self _ _
  rw [← UInt8.toNat_inj, UInt32.toNat_toUInt8, UInt32.toNat_add, UInt8.toNat_toUInt32,
    UInt32.toNat_toUInt8, UInt32.toNat_mod, UInt32.toNat_div, UInt32.toNat_mul,
    UInt8.toNat_toUInt32, UInt8.toNat_ofNat']
  have h256 : (256 : UInt32).toNat = 256 := rfl
  rw [h256, UInt32.toNat_ofNat_of_lt' (by simp only [UInt32.size]; omega),
    Nat.mod_eq_of_lt (a := i * 256) (by omega)]
  omega

/-- The loop of RAINBOW. -/
theorem rainbow_eq (tick : UInt32) :
    ((List.range c.count.toNat).mapM fun i => do
        let step ← divide (UInt32.ofNat i * 256) c.count.toUInt32
        pure (c.pixel i (hsvToRgb ((tick / speedPeriod c.speed % 256).toUInt8.toUInt32
          + step).toUInt8 255 c.brightness))) =
      (.ok (c.pixels fun i => hsvToRgb
        (UInt8.ofNat (tick.toNat / c.period + i * 256 / c.count.toNat)) 255 c.brightness) :
          Except RenderFault (List PixelCall)) := by
  refine mapM_eq_map fun i hi => ?_
  have hlt := List.mem_range.mp hi
  have hne : c.count.toUInt32 ≠ 0 := fun hzero => by
    rw [toUInt32_eq_zero.mp hzero] at hlt
    exact absurd hlt (Nat.not_lt_zero i)
  have hhue := hue_eq c (tick / speedPeriod c.speed) hlt
  rw [toNat_steps] at hhue
  rw [divide_of_ne_zero _ hne]
  exact congrArg (fun hue => Except.ok (c.pixel i (hsvToRgb hue 255 c.brightness))) hhue

/-! ### The frames -/

/-- **`render_zone` draws a frame**, and moves the tick on. -/
theorem renderZone_frame {z : ZoneState} {draws : Draws} {r : UInt32 × List PixelCall}
    (h : renderZone level z draws = .ok r) :
    r.1 = z.nextTick ∧ z.cfg.Sets (z.cfg.frame level z.tick.toNat draws) r.2 := by
  have hstops := (renderZone_isOk_iff level z draws).mp ⟨r, h⟩
  have hperiod := speedPeriod_ne_zero z.cfg.speed
  rw [renderZone] at h
  unfold LedZoneCfg.frame ZoneState.nextTick
  cases heffect : LedEffectId.ofCode z.cfg.effect with
  | none =>
      rw [heffect] at h
      cases h
      exact ⟨rfl, sets_none _⟩
  | some effect =>
      rw [heffect] at h
      cases effect with
      | solid =>
          cases h
          exact ⟨rfl, sets_pixels _ _⟩
      | blink =>
          simp only [divide_of_ne_zero _ hperiod] at h
          cases h
          refine ⟨rfl, ?_⟩
          have hon : z.tick / speedPeriod z.cfg.speed % 2 = 0 ↔
              phase z.cfg.period 2 z.tick.toNat = 0 := by
            rw [← UInt32.toNat_inj, UInt32.toNat_mod, toNat_steps]
            rfl
          simp only [hon]
          exact sets_pixels _ _
      | breathe =>
          simp only [modulo_of_ne_zero _ (speedPeriod_mul_two_ne_zero _)] at h
          cases h
          refine ⟨rfl, ?_⟩
          simp only [← toNat_cycle, ← UInt32.toNat_mod, UInt32.ofNat_toNat]
          exact sets_pixels _ _
      | rainbow =>
          simp only [divide_of_ne_zero _ hperiod] at h
          obtain ⟨base, hbase, h⟩ := bind_eq_ok.mp h
          cases hbase
          obtain ⟨calls, hcalls, hret⟩ := bind_eq_ok.mp h
          cases hret
          rw [rainbow_eq] at hcalls
          cases hcalls
          exact ⟨rfl, sets_pixels _ _⟩
      | chase =>
          have hne : z.cfg.count ≠ 0 := fun hzero => hstops ⟨hzero, .inl heffect⟩
          simp only [divide_of_ne_zero _ hperiod,
            modulo_of_ne_zero _ (mt toUInt32_eq_zero.mp hne)] at h
          cases h
          refine ⟨rfl, ?_⟩
          simp only [toNat_mod_byte _ (count_pos hne), toNat_steps, eq_comm]
          exact sets_pixels _ _
      | wipe =>
          have hne : z.cfg.count ≠ 0 := fun hzero => hstops ⟨hzero, .inr (.inl heffect)⟩
          simp only [divide_of_ne_zero _ hperiod,
            modulo_of_ne_zero _ (mt toUInt32_mul_two_eq_zero.mp hne)] at h
          cases h
          refine ⟨rfl, ?_⟩
          simp only [toNat_mod_twice _ (count_pos hne), toNat_steps]
          exact sets_pixels _ _
      | twinkle =>
          simp only [modulo_of_ne_zero _ hperiod, bind, Except.bind] at h
          have htick : z.tick % speedPeriod z.cfg.speed = 0 ↔ z.tick.toNat % z.cfg.period = 0 := by
            rw [← UInt32.toNat_inj, UInt32.toNat_mod, speedPeriod_eq, UInt32.toNat_zero]
          split at h
          · next hzero =>
              have hne : z.cfg.count ≠ 0 := fun hcount =>
                hstops ⟨hcount, .inr (.inr ⟨heffect, hzero⟩)⟩
              rw [modulo_of_ne_zero _ (mt toUInt32_eq_zero.mp hne)] at h
              cases h
              refine ⟨rfl, ?_⟩
              have hcolor : dimRgb (if draws.choice % 2 = 1 then z.cfg.color else z.cfg.color2)
                  z.cfg.brightness = if draws.choice % 2 = 1 then z.cfg.lit
                    else dimRgb z.cfg.color2 z.cfg.brightness :=
                apply_ite (fun color => dimRgb color z.cfg.brightness) _ _ _
              rw [toNat_mod_byte _ (count_pos hne), hcolor]
              exact sets_single _ (htick.mp hzero) (Nat.mod_lt _ (count_pos hne)) _
          · next hzero =>
              cases h
              have hnone : ∀ i, ¬ (z.tick.toNat % z.cfg.period = 0 ∧
                  i = draws.place.toNat % z.cfg.count.toNat) := fun i hand =>
                hzero (htick.mpr hand.1)
              refine ⟨rfl, ?_⟩
              simp only [if_neg (hnone _)]
              exact sets_none _

end Render

/-! ## A round -/

section Round

variable {level : UInt32 → UInt32 → UInt8 → UInt8} {draws : Fin ledMaxZones → Draws}

/-- A pixel of a zone that is given a colour has it. -/
theorem show_sets {strips : StripTable} (pixels : Pixels) {c : LedZoneCfg}
    {color : ℕ → Option Rgb} {calls : List PixelCall} (h : c.Sets color calls) {p : Pixel}
    (hp : p ∈ c.range ∩ strips.pixels) {rgb : Rgb} (hrgb : color (p.2 - c.start.toNat) = some rgb) :
    pixels.show strips calls p = rgb := by
  obtain ⟨⟨hstrip, hstart, hend⟩, hpixel⟩ := hp
  have hi : p.2 - c.start.toNat < c.count.toNat := by omega
  refine replay_of_key pixels (List.mem_filterMap.mpr ⟨c.pixel (p.2 - c.start.toNat) rgb,
    (h _).mpr ⟨_, hi, rgb, hrgb, rfl⟩, write_eq_some_iff.mpr ⟨?_, hpixel⟩⟩) fun w hw heq => ?_
  · rw [toNat_ledIdx_pixel c hi, Nat.add_sub_cancel' hstart]
    exact congrArg₂ Prod.mk (congrArg₂ Prod.mk hstrip rfl) rfl
  · obtain ⟨call, hcall, hwrite⟩ := List.mem_filterMap.mp hw
    obtain ⟨j, hj, rgb', hrgb', rfl⟩ := (h call).mp hcall
    obtain ⟨rfl, -⟩ := write_eq_some_iff.mp hwrite
    have hplace : c.start.toNat + j = p.2 := by
      rw [← toNat_ledIdx_pixel c hj rgb', ← heq]
    have hsame : j = p.2 - c.start.toNat := by omega
    rw [← hsame, hrgb'] at hrgb
    exact Option.some.inj hrgb

/-- The zones after a round: every active one that has been drawn is at its next tick. -/
theorem slot_drawZones {order : List (Fin ledMaxZones)} {e : LedEffects}
    {r : LedEffects × List PixelCall} (hnodup : order.Nodup)
    (h : drawZones level draws order e = .ok r) (j : Fin ledMaxZones) :
    r.1.slot j = if j ∈ order ∧ (e.slot j).active = true
      then { e.slot j with tick := (e.slot j).nextTick } else e.slot j := by
  induction order generalizing e r with
  | nil =>
      cases h
      simp
  | cons i order ih =>
      have hnot : i ∉ order := (List.nodup_cons.mp hnodup).1
      rw [drawZones] at h
      split at h
      · next hactive =>
          obtain ⟨first, hfirst, h⟩ := bind_eq_ok.mp h
          obtain ⟨later, hlater, hret⟩ := bind_eq_ok.mp h
          cases hret
          rw [ih (List.nodup_cons.mp hnodup).2 hlater]
          by_cases hij : j = i
          · subst hij
            have hdrawn : (e.drawn j first.1).slot j =
                { e.slot j with tick := (e.slot j).nextTick } := by
              rw [LedEffects.drawn, LedEffects.slot_set, if_pos rfl, (renderZone_frame hfirst).1]
              rfl
            simp [hnot, hdrawn, hactive]
          · rw [zones_drawn_of_ne e (Ne.symm hij)]
            simp [hij]
      · next hinactive =>
          rw [ih (List.nodup_cons.mp hnodup).2 h]
          by_cases hij : j = i
          · subst hij
            simp [hnot, hinactive]
          · simp [hij]

/-- The zones after a round of the effects task. -/
theorem slot_effectsPass {e : LedEffects} {r : PassReturn}
    (h : effectsPass level draws e = .ok r) {j : Fin ledMaxZones}
    (hactive : (e.slot j).active = true) :
    r.effects.slot j = { e.slot j with tick := (e.slot j).nextTick } := by
  obtain ⟨drawn, hdrawn, hret⟩ := bind_eq_ok.mp h
  cases hret
  rw [slot_drawZones (List.nodup_finRange _) hdrawn, if_pos ⟨List.mem_finRange j, hactive⟩]

/-- The pixels that a round sets: those of the zones, from the first to the last. -/
theorem calls_effectsPass {e : LedEffects} {r : PassReturn}
    (h : effectsPass level draws e = .ok r) :
    r.calls = (List.finRange ledMaxZones).flatMap (zoneCalls level draws e) := by
  have hnodup := List.nodup_finRange ledMaxZones
  obtain ⟨drawn, hdrawn, hret⟩ := bind_eq_ok.mp h
  cases hret
  obtain ⟨e', he'⟩ := drawZones_of_not_stops level draws hnodup
    (not_stops_of_drawZones level draws hnodup hdrawn)
  rw [hdrawn] at he'
  cases he'
  rfl

/-- **A round shows the frame of a zone** on every pixel that it gives a colour and that no
zone above it has. -/
theorem show_effectsPass {strips : StripTable} (pixels : Pixels) {e : LedEffects} {r : PassReturn}
    (h : effectsPass level draws e = .ok r) {i : Fin ledMaxZones}
    (hactive : (e.slot i).active = true) {p : Pixel}
    (hp : p ∈ (e.slot i).cfg.range ∩ strips.pixels) (habove : ∀ j, i < j → p ∉ e.area j) {rgb : Rgb}
    (hrgb : (e.slot i).cfg.frame level (e.slot i).tick.toNat (draws i)
      (p.2 - (e.slot i).cfg.start.toNat) = some rgb) :
    pixels.show strips r.calls p = rgb := by
  have hnodup := List.nodup_finRange ledMaxZones
  have hwithin := fun j => within_zoneCalls level strips draws e j
  -- the zones below, the zone, and those above, which write elsewhere
  obtain ⟨below, above, hsplit⟩ := List.append_of_mem (List.mem_finRange i)
  have hlt : ∀ j ∈ above, i < j := by
    have hsorted := List.pairwise_lt_finRange ledMaxZones
    rw [hsplit, List.pairwise_append, List.pairwise_cons] at hsorted
    exact hsorted.2.1.1
  have hframe : ∃ calls, zoneCalls level draws e i = calls ∧
      (e.slot i).cfg.Sets ((e.slot i).cfg.frame level (e.slot i).tick.toNat (draws i)) calls := by
    obtain ⟨drawn, hdrawn, -⟩ := bind_eq_ok.mp h
    have hstops := not_stops_of_drawZones level draws hnodup hdrawn i (List.mem_finRange i) hactive
    obtain ⟨first, hfirst⟩ := (renderZone_isOk_iff level (e.slot i) (draws i)).mpr hstops
    refine ⟨first.2, ?_, (renderZone_frame hfirst).2⟩
    rw [zoneCalls, if_pos hactive, hfirst]
  obtain ⟨calls, hcalls, hsets⟩ := hframe
  rw [Pixels.show, calls_effectsPass h, List.filterMap_flatMap, hsplit, List.flatMap_append,
    List.flatMap_cons, replay_append, replay_append,
    replay_flatMap_of_notMem _ hwithin fun j hj hmem => habove j (hlt j hj) hmem.1, hcalls]
  exact show_sets _ hsets hp hrgb

end Round

/-! ## Runs -/

/-- The packet sets or clears this zone. -/
def LedNode.About (x : LedSetup) (n : LedNode) (e : LedEvent) (i : Fin ledMaxZones) : Prop :=
  ∃ w out zoneId, e = .packet w out ∧ (i : ℕ) = zoneId.toNat ∧
    ((∃ cfg, (n.server.writeEvt x.build w out).2 = [.ledEffectsSetZone zoneId cfg]) ∨
      (n.server.writeEvt x.build w out).2 = [.ledEffectsClearZone zoneId])

/-- The zone is left alone, and no zone above it has the pixel. -/
def LedNode.Leaves (x : LedSetup) (i : Fin ledMaxZones) (p : Pixel) (n : LedNode) (e : LedEvent)
    (_ : LedNode) : Prop :=
  ¬ n.About x e i ∧ ∀ j, i < j → p ∉ n.effects.area j

/-- What is drawn at random in the rounds of a run, for one zone. -/
def drawsOf (i : Fin ledMaxZones) (es : List LedEvent) : List Draws :=
  es.filterMap fun
    | .packet _ _ => none
    | .pass draws => some (draws i)

/-- The colour of a pixel after a round. -/
def LedNode.color (p : Pixel) (n : LedNode) : LedEvent → List Rgb
  | .packet _ _ => []
  | .pass _ => [n.pixels p]

/-- The colours of a pixel, after each round of a run. -/
def LedNode.colors (x : LedSetup) (p : Pixel) : LedNode → List LedEvent → List Rgb
  | _, [] => []
  | n, e :: es =>
      match ledNode x n e with
      | none => []
      | some n' => n'.color p e ++ colors x p n' es

/-- The frames of a zone on one of its pixels, from round `t` on.  The tick is a word. -/
def LedZoneCfg.frames (level : UInt32 → UInt32 → UInt8 → UInt8) (c : LedZoneCfg) (p : Pixel)
    (t : ℕ) (draws : List Draws) : List (Option Rgb) :=
  (draws.zipIdx t).map fun d => c.frame level (d.2 % 2 ^ 32) d.1 (p.2 - c.start.toNat)

/-- The effect depends on the tick. -/
def LedZoneCfg.Moves (c : LedZoneCfg) : Prop :=
  LedEffectId.ofCode c.effect ≠ some .solid ∧ LedEffectId.ofCode c.effect ≠ none

/-- The zone has been drawn `t` times. -/
structure ZoneState.At (z : ZoneState) (c : LedZoneCfg) (t : ℕ) : Prop where
  active : z.active = true
  cfg : z.cfg = c
  tick : c.Moves → z.tick.toNat = t % 2 ^ 32

theorem colors_cons {x : LedSetup} {p : Pixel} {n n' : LedNode} {e : LedEvent}
    (h : ledNode x n e = some n') (es : List LedEvent) :
    n.colors x p (e :: es) = n'.color p e ++ n'.colors x p es := by
  rw [LedNode.colors, h]

/-- A zone that does not move has one frame. -/
theorem frame_of_not_moves {level : UInt32 → UInt32 → UInt8 → UInt8} {c : LedZoneCfg}
    (h : ¬ c.Moves) (t t' : ℕ) (draws : Draws) :
    c.frame level t draws = c.frame level t' draws := by
  rw [LedZoneCfg.Moves, ← not_or, not_not] at h
  funext i
  rcases h with h | h <;> simp only [LedZoneCfg.frame, h]

theorem ZoneState.At.frame {level : UInt32 → UInt32 → UInt8 → UInt8} {z : ZoneState}
    {c : LedZoneCfg} {t : ℕ} (h : z.At c t) (draws : Draws) :
    c.frame level z.tick.toNat draws = c.frame level (t % 2 ^ 32) draws := by
  by_cases hmoves : c.Moves
  · rw [h.tick hmoves]
  · exact frame_of_not_moves hmoves _ _ draws

/-- Once more. -/
theorem ZoneState.At.next {z : ZoneState} {c : LedZoneCfg} {t : ℕ} (h : z.At c t) :
    ZoneState.At { z with tick := z.nextTick } c (t + 1) := by
  refine ⟨h.active, h.cfg, fun hmoves => ?_⟩
  have htick : z.nextTick = z.tick + 1 := by
    rw [ZoneState.nextTick, h.cfg]
    split
    · next heffect => exact absurd heffect hmoves.1
    · next heffect => exact absurd heffect hmoves.2
    · rfl
  have hone : (1 : UInt32).toNat = 1 := rfl
  simp only [htick, UInt32.toNat_add, h.tick hmoves, hone]
  omega

/-- An event that is not about a zone leaves it, but for a round. -/
theorem LedStep.slot {x : LedSetup} {n n' : LedNode} {w : Written} {out : Outcomes}
    (h : LedStep x n (.packet w out) n') {i : Fin ledMaxZones}
    (habout : ¬ n.About x (.packet w out) i) : n'.effects.slot i = n.effects.slot i := by
  cases h with
  | @set _ _ zoneId cfg r hcall hr =>
      have hne : (i : ℕ) ≠ zoneId.toNat := fun heq =>
        habout ⟨w, out, zoneId, rfl, heq, .inl ⟨cfg, hcall⟩⟩
      exact ((LedEffects.zones_setZone hr).2 i).trans (if_neg hne)
  | @clear _ _ zoneId r hcall hr =>
      have hne : (i : ℕ) ≠ zoneId.toNat := fun heq =>
        habout ⟨w, out, zoneId, rfl, heq, .inr hcall⟩
      exact ((LedEffects.zones_clearZone hr).1 i).trans (if_neg hne)

/-- The colours are those of the frames, where they give one. -/
def FollowsFrames (colors : List Rgb) (frames : List (Option Rgb)) : Prop :=
  List.Forall₂ (fun color frame => ∀ rgb, frame = some rgb → color = rgb) colors frames

/-- A zone that has been drawn `t` times goes on with frame `t`. -/
theorem followsFrames_of_at {x : LedSetup} {i : Fin ledMaxZones} {c : LedZoneCfg} {p : Pixel}
    (hp : p ∈ c.range ∩ x.strips.pixels) {es : List LedEvent} {n n' : LedNode} {t : ℕ}
    (hat : (n.effects.slot i).At c t) (hrun : (ledNode x).run n es = some n')
    (hrunning : n'.stopped = false)
    (hleaves : System.Along (ledNode x) (LedNode.Leaves x i p) n es) :
    FollowsFrames (n.colors x p es) (c.frames x.level p t (drawsOf i es)) := by
  induction es generalizing n t with
  | nil => exact .nil
  | cons e es ih =>
      obtain ⟨next, hstep, hrest⟩ := System.run_cons_eq_some.mp hrun
      obtain ⟨⟨habout, habove⟩, hlater⟩ := (System.along_cons hstep).mp hleaves
      obtain ⟨-, hled⟩ := ledStep_of_step hstep
      cases e with
      | packet w out =>
          rw [colors_cons hstep]
          exact ih (by rw [hled.slot habout]; exact hat) hrest hlater
      | pass draws =>
          rw [colors_cons hstep]
          cases hled with
          | stop hfault =>
              -- a processor that has stopped stays so
              cases es with
              | nil =>
                  cases hrest
                  cases hrunning
              | cons e es =>
                  obtain ⟨_, hnone, _⟩ := System.run_cons_eq_some.mp hrest
                  simp [ledNode] at hnone
          | pass hr =>
              have hafter := hat.next
              rw [← slot_effectsPass hr hat.active] at hafter
              refine .cons (fun rgb hrgb => ?_) (ih hafter hrest hlater)
              refine show_effectsPass n.pixels hr hat.active (by rw [hat.cfg]; exact hp) habove ?_
              rw [hat.cfg, hat.frame]
              exact hrgb

/-- A zone that has just been set. -/
theorem at_zero_of_set {x : LedSetup} {server : GattServer} {before : List LedEvent}
    {i : Fin ledMaxZones} {c : LedZoneCfg} {beyond : ℕ → UInt8} {out : Outcomes} {n : LedNode}
    (hset : (ledNode x).run (LedNode.start server)
      (before ++ [.packet ((zoneSetPacket (UInt8.ofNat i) c).written beyond) out]) = some n) :
    (n.effects.slot i).At c 0 := by
  obtain ⟨m, -, hstep⟩ := System.run_snoc_eq_some.mp hset
  obtain ⟨-, hled⟩ := ledStep_of_step hstep
  have hid : (i : ℕ) = (UInt8.ofNat i).toNat := by
    have hlt : (i : ℕ) < 8 := i.isLt
    rw [UInt8.toNat_ofNat', Nat.mod_eq_of_lt (by omega)]
  have hslot : n.effects.slot i = ⟨true, c, 0⟩ := by
    cases hled with
    | set hcall hr =>
        rw [writeEvt_zoneSetPacket] at hcall
        cases hcall
        exact ((LedEffects.zones_setZone hr).2 i).trans (if_pos hid)
    | clear hcall hr =>
        rw [writeEvt_zoneSetPacket] at hcall
        cases hcall
  rw [hslot]
  exact ⟨rfl, rfl, fun _ => rfl⟩

/-- **A zone shows its animation.**  From the packet that sets it, round by round, until a packet
sets or clears it again: a pixel that no zone above it has gets the colour that the frame of the
round gives it, whatever happens to the other zones. -/
theorem zone_shows_frames (x : LedSetup) (server : GattServer) {before after : List LedEvent}
    {i : Fin ledMaxZones} {c : LedZoneCfg} {beyond : ℕ → UInt8} {out : Outcomes} {n n' : LedNode}
    (hset : (ledNode x).run (LedNode.start server)
      (before ++ [.packet ((zoneSetPacket (UInt8.ofNat i) c).written beyond) out]) = some n)
    (hrun : (ledNode x).run n after = some n') (hrunning : n'.stopped = false) {p : Pixel}
    (hp : p ∈ c.range ∩ x.strips.pixels)
    (hleaves : System.Along (ledNode x) (LedNode.Leaves x i p) n after) :
    FollowsFrames (n.colors x p after) (c.frames x.level p 0 (drawsOf i after)) :=
  followsFrames_of_at hp (at_zero_of_set hset) hrun hrunning hleaves

/-- Where no packet comes, the zones stay where they are. -/
theorem leaves_rounds (x : LedSetup) {i : Fin ledMaxZones} {p : Pixel}
    (rounds : List (Fin ledMaxZones → Draws)) {n : LedNode}
    (habove : ∀ j, i < j → p ∉ n.effects.area j) :
    System.Along (ledNode x) (LedNode.Leaves x i p) n (rounds.map .pass) := by
  induction rounds generalizing n with
  | nil => exact System.along_nil _ _
  | cons draws rounds ih =>
      rw [List.map_cons]
      cases hstep : ledNode x n (.pass draws) with
      | none => exact System.along_cons_none hstep
      | some n' =>
          have hnot : ¬ n.About x (.pass draws) i := by
            intro habout
            obtain ⟨w, out, zoneId, heq, -⟩ := habout
            cases heq
          refine (System.along_cons hstep).mpr ⟨⟨hnot, habove⟩, ih fun j hj hmem => habove j hj ?_⟩
          cases (ledStep_of_step hstep).2 with
          | stop hfault => exact hmem
          | pass hr =>
              rw [LedEffects.mem_area, zone_effectsPass hr, ← LedEffects.mem_area] at hmem
              exact hmem

/-- Zone 0 chases on two pixels, one step in a round. -/
def chaseCfg : LedZoneCfg := ⟨0, 0, 2, 4, (255, 0, 0), (0, 0, 9), 255, 255⟩

def chaseSet : LedEvent := .packet ((zoneSetPacket 0 chaseCfg).written fun _ => 0) noOutcomes

/-- The rounds that follow. -/
def chaseRounds : List LedEvent := List.map .pass [fun _ => ⟨0, 0⟩, fun _ => ⟨0, 0⟩]

theorem zone_shows_frames_chase :
    ∃ n n', (ledNode oneStrip).run (LedNode.start GattServer.start) ([] ++ [chaseSet]) = some n ∧
      (ledNode oneStrip).run n chaseRounds = some n' ∧
      FollowsFrames (n.colors oneStrip (0, 1) chaseRounds)
        (chaseCfg.frames oneStrip.level (0, 1) 0 (drawsOf 0 chaseRounds)) := by
  refine ⟨_, _, rfl, rfl, @zone_shows_frames oneStrip GattServer.start [] chaseRounds 0 chaseCfg
    (fun _ => 0) noOutcomes _ _ rfl rfl rfl (0, 1) ⟨⟨rfl, by decide, by decide⟩, ⟨4, 8⟩, rfl,
      by decide⟩ (leaves_rounds oneStrip _ fun j hj hmem => absurd hmem.1 ?_)⟩
  clear hmem
  revert j
  decide

end Klippylink
