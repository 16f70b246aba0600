import Mathlib.Data.List.Basic

/-!
# Partial labelled systems and their runs

A system is a partial step function: `step s e` is `none` when the event `e`
cannot occur in the state `s`.  A run is a list of events, and it is a run only
when every one of its events can occur where it stands.

Four rules carry the results about runs.  `run_induction` is the invariant rule.
`run_simulation` is the rule for two systems, one of which follows the other.
`along_iff` is the rule for a step that has a property exactly when a guard
holds: the property then holds along a whole run exactly when the guard does.
`run_ranked` is the rule for a system in which every run comes to an end.

## Main definitions

* `System σ ε` — a partial labelled step function.
* `System.run` — the state after a list of events, if all of them can occur.
* `System.Along` — a relation between states and events holds at every step of a
  run.
-/

namespace Lib

universe u v

/-- A partial labelled step function. -/
abbrev System (σ : Type u) (ε : Type v) := σ → ε → Option σ

namespace System

variable {σ : Type u} {ε : Type v}

/-- The state after a list of events; `none` when one of them cannot occur. -/
def run (step : System σ ε) : σ → List ε → Option σ
  | s, [] => some s
  | s, e :: es => (step s e).bind fun s' => run step s' es

/-- Some run leads from `s` to `t`. -/
def Reaches (step : System σ ε) (s t : σ) : Prop := ∃ es, run step s es = some t

/-- The relation `T` holds at every step of the run of `es` from `s`.  An event
that cannot occur ends the run, so it asks for nothing. -/
def Along (step : System σ ε) (T : σ → ε → σ → Prop) : σ → List ε → Prop
  | _, [] => True
  | s, e :: es =>
      match step s e with
      | none => True
      | some s' => T s e s' ∧ Along step T s' es

variable {step : System σ ε}

@[simp] theorem run_nil (s : σ) : run step s [] = some s := rfl

theorem run_cons (s : σ) (e : ε) (es : List ε) :
    run step s (e :: es) = (step s e).bind fun s' => run step s' es := rfl

/-- A run splits at its first event. -/
theorem run_cons_eq_some {s t : σ} {e : ε} {es : List ε} :
    run step s (e :: es) = some t ↔ ∃ s', step s e = some s' ∧ run step s' es = some t := by
  simp [run_cons, Option.bind_eq_some_iff]

/-- A run splits anywhere. -/
theorem run_append (es es' : List ε) (s : σ) :
    run step s (es ++ es') = (run step s es).bind fun s' => run step s' es' := by
  induction es generalizing s with
  | nil => rfl
  | cons e es ih =>
      rw [List.cons_append, run_cons, run_cons, Option.bind_assoc]
      simp only [ih]

/-- A run splits at its last event. -/
theorem run_snoc_eq_some {s t : σ} {e : ε} {es : List ε} :
    run step s (es ++ [e]) = some t ↔ ∃ s', run step s es = some s' ∧ step s' e = some t := by
  simp [run_append, run_cons, Option.bind_eq_some_iff]

/-- Events under another name. -/
theorem run_map {δ : Type*} (f : δ → ε) (ds : List δ) (s : σ) :
    run step s (ds.map f) = run (fun s d => step s (f d)) s ds := by
  induction ds generalizing s with
  | nil => rfl
  | cons d ds ih =>
      rw [List.map_cons, run_cons, run_cons]
      simp only [ih]

@[simp] theorem along_nil (T : σ → ε → σ → Prop) (s : σ) : Along step T s [] := trivial

theorem along_cons {T : σ → ε → σ → Prop} {s s' : σ} {e : ε} {es : List ε}
    (h : step s e = some s') :
    Along step T s (e :: es) ↔ T s e s' ∧ Along step T s' es := by
  simp [Along, h]

theorem along_cons_none {T : σ → ε → σ → Prop} {s : σ} {e : ε} {es : List ε}
    (h : step s e = none) : Along step T s (e :: es) := by
  simp [Along, h]

/-- **The invariant rule.**  What holds at the start and is kept by every step
holds at the end of every run. -/
theorem run_induction (I : σ → Prop)
    (hstep : ∀ s e s', I s → step s e = some s' → I s') :
    ∀ (es : List ε) (s t : σ), I s → run step s es = some t → I t := by
  intro es
  induction es with
  | nil =>
      intro s t hs hrun
      cases hrun
      exact hs
  | cons e es ih =>
      intro s t hs hrun
      obtain ⟨s', hfirst, hrest⟩ := run_cons_eq_some.mp hrun
      exact ih s' t (hstep s e s' hs hfirst) hrest

/-- The invariant rule, for an invariant that may say which events there are. -/
theorem run_induction_mem (I : σ → Prop) {es : List ε}
    (hstep : ∀ s e s', e ∈ es → I s → step s e = some s' → I s') :
    ∀ {s t : σ}, I s → run step s es = some t → I t := by
  induction es with
  | nil =>
      intro s t hs hrun
      cases hrun
      exact hs
  | cons e es ih =>
      intro s t hs hrun
      obtain ⟨s', hfirst, hrest⟩ := run_cons_eq_some.mp hrun
      have hs' := hstep s e s' List.mem_cons_self hs hfirst
      exact ih (fun s e s' he => hstep s e s' (List.mem_cons_of_mem _ he)) hs' hrest

/-- Events that change nothing may be left out. -/
theorem run_filter {keep : ε → Bool} (h : ∀ s e s', keep e = false → step s e = some s' → s' = s) :
    ∀ {es : List ε} {s t : σ}, run step s es = some t → run step s (es.filter keep) = some t := by
  intro es
  induction es with
  | nil => exact fun hrun => hrun
  | cons e es ih =>
      intro s t hrun
      obtain ⟨s', hfirst, hrest⟩ := run_cons_eq_some.mp hrun
      cases hkeep : keep e with
      | true =>
          rw [List.filter_cons_of_pos hkeep, run_cons, hfirst]
          exact ih hrest
      | false =>
          cases h s e s' hkeep hfirst
          rw [List.filter_cons_of_neg (by simp [hkeep])]
          exact ih hrest

/-- **The simulation rule.**  When each step from related states is followed, under the same
event, by a step to related states, so is each run. -/
theorem run_simulation {τ : Type*} {step' : System τ ε} (R : σ → τ → Prop)
    (hstep : ∀ s e s' a, R s a → step s e = some s' → ∃ a', step' a e = some a' ∧ R s' a') :
    ∀ (es : List ε) (s t : σ) (a : τ), R s a → run step s es = some t →
      ∃ b, run step' a es = some b ∧ R t b := by
  intro es
  induction es with
  | nil =>
      intro s t a hs hrun
      cases hrun
      exact ⟨a, rfl, hs⟩
  | cons e es ih =>
      intro s t a hs hrun
      obtain ⟨s', hfirst, hrest⟩ := run_cons_eq_some.mp hrun
      obtain ⟨a', hfirst', hs'⟩ := hstep s e s' a hs hfirst
      obtain ⟨b, hrest', ht⟩ := ih s' t a' hs' hrest
      exact ⟨b, run_cons_eq_some.mpr ⟨a', hfirst', hrest'⟩, ht⟩

/-- An invariant holds in every reachable state. -/
theorem Reaches.induction (I : σ → Prop) {s t : σ}
    (hstep : ∀ s e s', I s → step s e = some s' → I s')
    (hs : I s) (h : Reaches step s t) : I t := by
  obtain ⟨es, hrun⟩ := h
  exact run_induction I hstep es s t hs hrun

theorem Reaches.refl (s : σ) : Reaches step s s := ⟨[], rfl⟩

/-- One step, and on from there. -/
theorem Reaches.head {s s' t : σ} (e : ε) (hfirst : step s e = some s') (h : Reaches step s' t) :
    Reaches step s t := by
  obtain ⟨es, hrun⟩ := h
  exact ⟨e :: es, run_cons_eq_some.mpr ⟨s', hfirst, hrun⟩⟩

/-- One run, and another from where it ends. -/
theorem Reaches.trans {s t v : σ} (h : Reaches step s t) (h' : Reaches step t v) :
    Reaches step s v := by
  obtain ⟨es, hrun⟩ := h
  induction es generalizing s with
  | nil =>
      cases hrun
      exact h'
  | cons e es ih =>
      obtain ⟨s', hfirst, hrest⟩ := run_cons_eq_some.mp hrun
      exact (ih hrest).head e hfirst

/-- What holds at every step of a run holds at the steps of its beginning, and from where
that ends. -/
theorem along_append {T : σ → ε → σ → Prop} {s t : σ} {es es' : List ε}
    (h : run step s es = some t) :
    Along step T s (es ++ es') ↔ Along step T s es ∧ Along step T t es' := by
  induction es generalizing s with
  | nil =>
      cases h
      simp
  | cons e es ih =>
      obtain ⟨s', hfirst, hrest⟩ := run_cons_eq_some.mp h
      rw [List.cons_append, along_cons hfirst, along_cons hfirst, ih hrest, and_assoc]

/-- What holds at each step of every run from a state that satisfies an
invariant. -/
theorem along_of_invariant (I : σ → Prop) (T : σ → ε → σ → Prop)
    (hstep : ∀ s e s', I s → step s e = some s' → I s')
    (hT : ∀ s e s', I s → step s e = some s' → T s e s') :
    ∀ (es : List ε) (s : σ), I s → Along step T s es := by
  intro es
  induction es with
  | nil => intro s _; exact along_nil T s
  | cons e es ih =>
      intro s hs
      cases h : step s e with
      | none => exact along_cons_none h
      | some s' => exact (along_cons h).mpr ⟨hT s e s' hs h, ih s' (hstep s e s' hs h)⟩

/-- What holds at every step of a run may be weakened at every step. -/
theorem Along.mono {T T' : σ → ε → σ → Prop} (h : ∀ s e s', T s e s' → T' s e s') :
    ∀ (es : List ε) (s : σ), Along step T s es → Along step T' s es := by
  intro es
  induction es with
  | nil => intro s _; exact along_nil T' s
  | cons e es ih =>
      intro s halong
      cases hstep : step s e with
      | none => exact along_cons_none hstep
      | some s' =>
          obtain ⟨hfirst, hrest⟩ := (along_cons hstep).mp halong
          exact (along_cons hstep).mpr ⟨h s e s' hfirst, ih s' hrest⟩

/-- What follows, at every step, from what holds at every step. -/
theorem Along.mp {T T' : σ → ε → σ → Prop} :
    ∀ (es : List ε) (s : σ), Along step (fun s e s' => T s e s' → T' s e s') s es →
      Along step T s es → Along step T' s es := by
  intro es
  induction es with
  | nil => intro s _ _; exact along_nil T' s
  | cons e es ih =>
      intro s himp halong
      cases hstep : step s e with
      | none => exact along_cons_none hstep
      | some s' =>
          obtain ⟨hfirst, hrest⟩ := (along_cons hstep).mp himp
          obtain ⟨hT, halong⟩ := (along_cons hstep).mp halong
          exact (along_cons hstep).mpr ⟨hfirst hT, ih s' hrest halong⟩

/-- **The exact guard rule.**  Let `K` be kept by every step.  Let a step from a
`K`-state that satisfies `P` satisfy `A` exactly when the guard `G` holds, and
keep `P` when it does.  Then a run from such a state satisfies `A` throughout
exactly when `G` holds at each of its steps. -/
theorem along_iff (K P : σ → Prop) (A G : σ → ε → σ → Prop)
    (hK : ∀ s e s', K s → step s e = some s' → K s')
    (hA : ∀ s e s', K s → P s → step s e = some s' → (A s e s' ↔ G s e s'))
    (hP : ∀ s e s', K s → P s → step s e = some s' → G s e s' → P s') :
    ∀ (es : List ε) (s : σ), K s → P s → (Along step A s es ↔ Along step G s es) := by
  intro es
  induction es with
  | nil => intro s _ _; simp
  | cons e es ih =>
      intro s hKs hPs
      cases h : step s e with
      | none => simp [along_cons_none h]
      | some s' =>
          have hguard := hA s e s' hKs hPs h
          rw [along_cons h, along_cons h, hguard]
          refine and_congr_right fun hG => ?_
          exact ih s' (hK s e s' hKs h) (hP s e s' hKs hPs h hG)

/-- **The guarded invariant rule.**  What holds at the start and is kept by every
step that satisfies the guard holds at the end of a run that satisfies it
throughout. -/
theorem Along.induction (I : σ → Prop) {G : σ → ε → σ → Prop}
    (hstep : ∀ s e s', I s → step s e = some s' → G s e s' → I s') :
    ∀ (es : List ε) (s t : σ), I s → Along step G s es → run step s es = some t → I t := by
  intro es
  induction es with
  | nil =>
      intro s t hs _ hrun
      cases hrun
      exact hs
  | cons e es ih =>
      intro s t hs halong hrun
      obtain ⟨s', hfirst, hrest⟩ := run_cons_eq_some.mp hrun
      obtain ⟨hG, halong⟩ := (along_cons hfirst).mp halong
      exact ih s' t (hstep s e s' hs hfirst hG) halong hrest

/-- **The ranked invariant rule.**  When every step leads to a state with a smaller
rank, a run is no longer than the rank it starts with, and ends in a ranked state. -/
theorem run_ranked (R : σ → ℕ → Prop)
    (hstep : ∀ s e s' n, R s n → step s e = some s' → ∃ m < n, R s' m) :
    ∀ (es : List ε) (s t : σ) (n : ℕ), R s n → run step s es = some t →
      ∃ m, es.length + m ≤ n ∧ R t m := by
  intro es
  induction es with
  | nil =>
      intro s t n hs hrun
      cases hrun
      exact ⟨n, by simp, hs⟩
  | cons e es ih =>
      intro s t n hs hrun
      obtain ⟨s', hfirst, hrest⟩ := run_cons_eq_some.mp hrun
      obtain ⟨m, hm, hs'⟩ := hstep s e s' n hs hfirst
      obtain ⟨k, hk, ht⟩ := ih s' t m hs' hrest
      refine ⟨k, ?_, ht⟩
      rw [List.length_cons]
      omega

end System
end Lib
