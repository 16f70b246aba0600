import Klippylink.Node.Animation

/-!
# How long a pixel is lit

BLINK, CHASE and WIPE go through phases, in each of which a pixel is lit or not.  In every
stretch of rounds that is as long as their cycle a pixel is lit for a fixed number of them:
every pixel of a zone gets the same share.

## Main definitions

* `LedZoneCfg.phases`, `LedZoneCfg.LitIn` — the phases, and those in which a pixel is lit.
* `light_is_shared` — the share of a pixel.
-/

namespace Klippylink

open Lib

namespace LedZoneCfg

variable (c : LedZoneCfg)

/-- The effect goes through phases. -/
def Phased : Prop :=
  LedEffectId.ofCode c.effect = some .blink ∨ LedEffectId.ofCode c.effect = some .chase ∨
    LedEffectId.ofCode c.effect = some .wipe

/-- The phases of a cycle. -/
def phases : ℕ :=
  match LedEffectId.ofCode c.effect with
  | some .blink => 2
  | some .chase => c.count.toNat
  | some .wipe => 2 * c.count.toNat
  | _ => 1

/-- The `i`-th pixel is lit in the phase. -/
def LitIn (phase i : ℕ) : Prop :=
  match LedEffectId.ofCode c.effect with
  | some .blink => phase = 0
  | some .chase => phase = i
  | some .wipe => c.WipeLit phase i
  | _ => True

instance (phase i : ℕ) : Decidable (c.LitIn phase i) := by
  unfold LitIn
  split <;> infer_instance

/-- The phases in which a pixel is lit. -/
def litPhases : ℕ :=
  match LedEffectId.ofCode c.effect with
  | some .wipe => c.count.toNat
  | _ => 1

/-- What a pixel shows when it is not lit. -/
def unlit : Rgb :=
  match LedEffectId.ofCode c.effect with
  | some .chase => dimRgb c.color2 c.brightness
  | _ => dark

variable {c}

/-- A frame tells the pixels that are lit in its phase. -/
theorem frame_of_phased (h : c.Phased) (level : UInt32 → UInt32 → UInt8 → UInt8) (t : ℕ)
    (draws : Draws) (i : ℕ) :
    c.frame level t draws i =
      some (if c.LitIn (phase c.period c.phases t) i then c.lit else c.unlit) := by
  rcases h with h | h | h
  all_goals
    simp only [frame, LitIn, phases, unlit, h]

/-- WIPE lights a pixel on its way out when it has reached it, and on its way back until then. -/
theorem count_wipeLit {i : ℕ} (hi : i < c.count.toNat) :
    Nat.count (fun k => c.WipeLit k i) (2 * c.count.toNat) = c.count.toNat := by
  have hout : Nat.count (fun k => c.WipeLit k i) c.count.toNat =
      Nat.count (fun k => i ≤ k) c.count.toNat :=
    count_congr fun k hk => by rw [WipeLit, if_pos hk]
  have hback : Nat.count (fun k => c.WipeLit (c.count.toNat + k) i) c.count.toNat =
      Nat.count (fun k => k < i) c.count.toNat := by
    refine count_congr fun k _ => ?_
    rw [WipeLit, if_neg (by omega), Nat.add_sub_cancel_left]
  rw [Nat.two_mul, Nat.count_add, hout, hback, count_from, count_below]
  omega

/-- Every pixel is lit in as many phases. -/
theorem count_litIn (h : c.Phased) {i : ℕ} (hi : i < c.count.toNat) :
    Nat.count (fun k => c.LitIn k i) c.phases = c.litPhases := by
  rcases h with h | h | h
  · simp only [LitIn, phases, litPhases, h]
    exact count_one Nat.two_pos
  · simp only [LitIn, phases, litPhases, h]
    exact count_one hi
  · simp only [LitIn, phases, litPhases, h]
    exact count_wipeLit hi

end LedZoneCfg

/-- What a pixel shows, round by round, when it follows frames that all give it a colour. -/
theorem eq_map_of_followsFrames {colors : List Rgb} {frames : List (Option Rgb)} {g : ℕ → Rgb}
    (h : FollowsFrames colors frames) (hframes : ∀ t, ∀ ht : t < frames.length,
      frames[t] = some (g t)) : colors = (List.range colors.length).map g := by
  refine List.ext_getElem (by simp) fun t ht ht' => ?_
  have hlen : t < frames.length := h.length_eq ▸ ht
  rw [List.getElem_map, List.getElem_range]
  exact h.get ht hlen (g t) (hframes t hlen)

/-- **The light is shared.**  While a zone that blinks, chases or wipes is left alone, every one
of its pixels is lit in the same number of rounds of every stretch that is as long as the cycle:
half of them for BLINK and WIPE, one phase for CHASE. -/
theorem light_is_shared (x : LedSetup) (server : GattServer) {before after : List LedEvent}
    {i : Fin ledMaxZones} {c : LedZoneCfg} {beyond : ℕ → UInt8} {out : Outcomes} {n n' : LedNode}
    (hset : (ledNode x).run (LedNode.start server)
      (before ++ [.packet ((zoneSetPacket (UInt8.ofNat i) c).written beyond) out]) = some n)
    (hrun : (ledNode x).run n after = some n') (hrunning : n'.stopped = false) {p : Pixel}
    (hp : p ∈ c.range ∩ x.strips.pixels)
    (hleaves : System.Along (ledNode x) (LedNode.Leaves x i p) n after) (hphased : c.Phased)
    (hcolors : c.lit ≠ c.unlit) {k : ℕ}
    (hk : k + c.period * c.phases ≤ (n.colors x p after).length)
    (hword : k + c.period * c.phases ≤ 2 ^ 32) :
    (((n.colors x p after).drop k).take (c.period * c.phases)).count c.lit =
      c.period * c.litPhases := by
  have hi : p.2 - c.start.toNat < c.count.toNat := by
    have hrange := hp.1.2
    omega
  have hfollows := followsFrames_of_at hp (at_zero_of_set hset) hrun hrunning hleaves
  -- round `t` shows the phase of `t`
  have hmap := eq_map_of_followsFrames (g := fun t =>
      if c.LitIn (phase c.period c.phases (t % 2 ^ 32)) (p.2 - c.start.toNat) then c.lit
        else c.unlit) hfollows fun t ht => by
    simp only [LedZoneCfg.frames, List.getElem_map, List.getElem_zipIdx, Nat.zero_add]
    exact LedZoneCfg.frame_of_phased hphased _ _ _ _
  have hstretch : ((n.colors x p after).drop k).take (c.period * c.phases) =
      (List.range (c.period * c.phases)).map fun d =>
        if c.LitIn (phase c.period c.phases (k + d)) (p.2 - c.start.toNat) then c.lit
          else c.unlit := by
    rw [hmap, ← List.map_drop, ← List.map_take, List.range_eq_range', List.drop_range',
      List.take_range'_of_length_ge (by omega), List.range'_eq_map_range, List.map_map]
    refine List.map_congr_left fun d hd => ?_
    have hlt := List.mem_range.mp hd
    simp only [Function.comp_apply, Nat.zero_add, Nat.mul_one]
    rw [Nat.mod_eq_of_lt (by omega)]
  have hcount : ((n.colors x p after).drop k |>.take (c.period * c.phases)).count c.lit =
      Nat.count (fun d => c.LitIn (phase c.period c.phases (k + d)) (p.2 - c.start.toNat))
        (c.period * c.phases) := by
    rw [hstretch, List.count, List.countP_map, Nat.count]
    refine List.countP_congr fun d _ => ?_
    by_cases hlit : c.LitIn (phase c.period c.phases (k + d)) (p.2 - c.start.toNat)
    · simp [hlit]
    · simp [hlit, Ne.symm hcolors]
  rw [hcount, count_phase (period_pos c) fun phase => c.LitIn phase (p.2 - c.start.toNat),
    LedZoneCfg.count_litIn hphased hi]

theorem light_is_shared_chase :
    ∃ n n', (ledNode oneStrip).run (LedNode.start GattServer.start) ([] ++ [chaseSet]) = some n ∧
      (ledNode oneStrip).run n chaseRounds = some n' ∧
      (((n.colors oneStrip (0, 1) chaseRounds).drop 0).take
        (chaseCfg.period * chaseCfg.phases)).count chaseCfg.lit =
          chaseCfg.period * chaseCfg.litPhases := by
  refine ⟨_, _, rfl, rfl, @light_is_shared oneStrip GattServer.start [] chaseRounds 0 chaseCfg
    (fun _ => 0) noOutcomes _ _ rfl rfl rfl (0, 1) ⟨⟨rfl, by decide, by decide⟩, ⟨4, 8⟩, rfl,
      by decide⟩ (leaves_rounds oneStrip _ fun j hj hmem => absurd hmem.1 ?_) (.inr (.inl rfl))
        (by decide) 0 (by decide) (by decide)⟩
  clear hmem
  revert j
  decide

end Klippylink
