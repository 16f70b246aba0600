import Mathlib.Data.List.Basic

/-!
# Byte-at-a-time machines

A transducer reads one symbol and writes a list of outputs.  Code that is called
with one buffer after another and keeps its state between the calls is the run of
a transducer, and `runChunks_eq_run_flatten` says that only the concatenation of
the buffers matters.

`run_invariant` is the rule for what holds of the state and of what was read.  `run_sim` and
`run_image` are the rules for two machines that do the same.

## Main definitions

* `Transducer σ α β` — one step of the machine.
* `Transducer.run` — the state and the outputs after a list of symbols.
* `Transducer.runChunks` — the same, over a list of buffers.
-/

namespace Lib

universe u v w

/-- One step: the next state and what is written. -/
abbrev Transducer (σ : Type u) (α : Type v) (β : Type w) := σ → α → σ × List β

namespace Transducer

variable {σ τ : Type u} {α : Type v} {β γ : Type w}

/-- The state and the outputs after a list of symbols. -/
def run (t : Transducer σ α β) : σ → List α → σ × List β
  | s, [] => (s, [])
  | s, a :: as =>
      let first := t s a
      let rest := run t first.1 as
      (rest.1, first.2 ++ rest.2)

/-- The state and the outputs after a list of buffers, one call a buffer. -/
def runChunks (t : Transducer σ α β) : σ → List (List α) → σ × List β
  | s, [] => (s, [])
  | s, c :: cs =>
      let first := run t s c
      let rest := runChunks t first.1 cs
      (rest.1, first.2 ++ rest.2)

variable {t : Transducer σ α β}

@[simp] theorem run_nil (s : σ) : run t s [] = (s, []) := rfl

theorem run_cons (s : σ) (a : α) (as : List α) :
    run t s (a :: as) = ((run t (t s a).1 as).1, (t s a).2 ++ (run t (t s a).1 as).2) := rfl

/-- Reading `as` and then `bs`. -/
theorem run_append (s : σ) (as bs : List α) :
    run t s (as ++ bs) =
      ((run t (run t s as).1 bs).1, (run t s as).2 ++ (run t (run t s as).1 bs).2) := by
  induction as generalizing s with
  | nil => simp
  | cons a as ih => simp [run_cons, ih]

/-- **Only the concatenation of the buffers matters.** -/
theorem runChunks_eq_run_flatten (s : σ) (cs : List (List α)) :
    runChunks t s cs = run t s cs.flatten := by
  induction cs generalizing s with
  | nil => rfl
  | cons c cs ih => simp [runChunks, run_append, ih]

/-- A relation between the states of two machines that every step keeps, with
equal outputs, gives equal outputs over every input. -/
theorem run_sim (t : Transducer σ α β) (t' : Transducer τ α β) (R : σ → τ → Prop)
    (hstep : ∀ s s' a, R s s' → R (t s a).1 (t' s' a).1 ∧ (t s a).2 = (t' s' a).2) :
    ∀ (as : List α) (s : σ) (s' : τ), R s s' →
      R (run t s as).1 (run t' s' as).1 ∧ (run t s as).2 = (run t' s' as).2 := by
  intro as
  induction as with
  | nil => intro s s' h; exact ⟨h, rfl⟩
  | cons a as ih =>
      intro s s' h
      obtain ⟨hnext, hout⟩ := hstep s s' a h
      obtain ⟨hfinal, houts⟩ := ih _ _ hnext
      exact ⟨hfinal, by rw [run_cons, run_cons, hout, houts]⟩

/-- **The invariant rule.**  What holds of the state and of what was read before, and is kept
by every step, holds after every input. -/
theorem run_invariant (t : Transducer σ α β) (I : List α → σ → Prop)
    (hstep : ∀ as s a, I as s → I (as ++ [a]) (t s a).1) :
    ∀ (bs as : List α) (s : σ), I as s → I (as ++ bs) (run t s bs).1 := by
  intro bs
  induction bs with
  | nil =>
      intro as s h
      rw [List.append_nil]
      exact h
  | cons b bs ih =>
      intro as s h
      have hrest := ih (as ++ [b]) (t s b).1 (hstep as s b h)
      rw [List.append_assoc, List.singleton_append] at hrest
      exact hrest

/-- **The refinement rule.**  A machine whose states are images of another's, and whose
outputs contain the other's, does what the other does over every input. -/
theorem run_image {t' : Transducer τ α γ} (f : σ → τ) (g : γ → Option β)
    (hstep : ∀ s a, (t' (f s) a).1 = f (t s a).1 ∧ (t' (f s) a).2.filterMap g = (t s a).2) :
    ∀ (as : List α) (s : σ), (run t' (f s) as).1 = f (run t s as).1 ∧
      (run t' (f s) as).2.filterMap g = (run t s as).2 := by
  intro as
  induction as with
  | nil => intro s; exact ⟨rfl, rfl⟩
  | cons a as ih =>
      intro s
      obtain ⟨hnext, hout⟩ := hstep s a
      obtain ⟨hfinal, houts⟩ := ih (t s a).1
      rw [run_cons, run_cons, hnext, List.filterMap_append, hout]
      exact ⟨hfinal, by rw [houts]⟩

end Transducer
end Lib
