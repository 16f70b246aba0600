import Mathlib.Algebra.Ring.Periodic
import Mathlib.Data.Nat.Count

/-!
# What goes round

A cycle has a number of phases, each of which lasts for a number of ticks.  Whatever is true of
some of its phases is true for a fixed share of the ticks of every stretch that is as long as
the cycle, wherever the stretch begins.

## Main definitions

* `phase` — the phase at a tick.
* `count_phase` — how often the phase has a property in a cycle.
-/

namespace Lib

/-! ## Counting -/

theorem count_congr {p q : ℕ → Prop} [DecidablePred p] [DecidablePred q] {n : ℕ}
    (h : ∀ k < n, p k ↔ q k) : Nat.count p n = Nat.count q n := by
  rw [Nat.count, Nat.count]
  refine List.countP_congr fun k hk => ?_
  simp [h k (List.mem_range.mp hk)]

theorem count_from (i n : ℕ) : Nat.count (fun k => i ≤ k) n = n - i := by
  induction n with
  | zero => simp
  | succ n ih =>
      rw [Nat.count_succ, ih]
      split <;> omega

theorem count_below (i n : ℕ) : Nat.count (fun k => k < i) n = min n i := by
  induction n with
  | zero => simp
  | succ n ih =>
      rw [Nat.count_succ, ih]
      split <;> omega

theorem count_one {i n : ℕ} (h : i < n) : Nat.count (fun k => k = i) n = 1 := by
  induction n with
  | zero => exact absurd h (Nat.not_lt_zero i)
  | succ n ih =>
      rw [Nat.count_succ]
      by_cases hi : n = i
      · subst hi
        rw [if_pos rfl, Nat.count_iff_forall_not.mpr fun k hk heq => Nat.ne_of_lt hk heq]
      · rw [if_neg hi, ih (by omega)]

/-! ## Phases -/

/-- The phase at a tick. -/
def phase (period phases t : ℕ) : ℕ := t / period % phases

variable {period phases : ℕ}

/-- After a cycle the phases come again. -/
theorem phase_periodic (hperiod : 0 < period) :
    Function.Periodic (phase period phases) (period * phases) := by
  intro t
  rw [phase, phase, Nat.add_mul_div_left _ _ hperiod, Nat.add_mod_right]

/-- During the `k`-th phase. -/
theorem phase_mul_add {k d : ℕ} (hd : d < period) (hk : k < phases) :
    phase period phases (period * k + d) = k := by
  have hperiod : 0 < period := Nat.zero_lt_of_lt hd
  rw [phase, Nat.mul_add_div hperiod, Nat.div_eq_of_lt hd, Nat.add_zero, Nat.mod_eq_of_lt hk]

/-- A property of phases during the first ones. -/
theorem count_phase_mul (p : ℕ → Prop) [DecidablePred p] {k : ℕ} (hk : k ≤ phases) :
    Nat.count (fun t => p (phase period phases t)) (period * k) = period * Nat.count p k := by
  induction k with
  | zero => simp
  | succ k ih =>
      have hstretch : Nat.count (fun d => p (phase period phases (period * k + d))) period =
          if p k then period else 0 := by
        have hsame : ∀ d < period, p (phase period phases (period * k + d)) ↔ p k := fun d hd => by
          rw [phase_mul_add hd hk]
        split
        · next hp => exact Nat.count_iff_forall.mpr fun d hd => (hsame d hd).mpr hp
        · next hp => exact Nat.count_iff_forall_not.mpr fun d hd => mt (hsame d hd).mp hp
      rw [Nat.mul_succ, Nat.count_add, ih (Nat.le_of_succ_le hk), hstretch, Nat.count_succ,
        Nat.mul_add]
      split <;> simp

/-- **The share of a property.**  In every stretch as long as the cycle, the phase has the
property for as many ticks as the phases that have it last. -/
theorem count_phase (hperiod : 0 < period) (p : ℕ → Prop) [DecidablePred p] (t : ℕ) :
    Nat.count (fun d => p (phase period phases (t + d))) (period * phases) =
      period * Nat.count p phases := by
  have hagain : ∀ k, phase period phases (period * phases + k) = phase period phases k := by
    intro k
    rw [Nat.add_comm]
    exact phase_periodic hperiod k
  -- the first `t + cycle` ticks, cut behind `t` and cut behind the cycle
  have hcut := Nat.count_add (fun s => p (phase period phases s)) t (period * phases)
  have hcut' := Nat.count_add (fun s => p (phase period phases s)) (period * phases) t
  simp only [hagain] at hcut'
  rw [Nat.add_comm t, hcut', count_phase_mul p le_rfl] at hcut
  omega

end Lib
