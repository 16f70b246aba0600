import Klippylink.Lib.System

/-!
# Sections under a mutex

Tasks share a state, and each works on it in sections of code between taking a mutex and
giving it back.  Any steps of the tasks may follow one another; only the mutex is waited for.
`serial_of_run` says that the shared state is nevertheless the one that the sections leave when
each of them is one step, in the order in which they took the mutex, and that what is done of
the section that is under way is related to it by whatever every step of the code keeps.

## Main definitions

* `Prog σ` — a section, step by step; where it goes on may depend on the state.
* `Prog.run` — the whole section as one step.
* `Prog.Keeps` — a relation that every step of a section keeps.
* `Guarded`, `guarded` — the tasks at work, as a system of events.
* `sections`, `whole` — the sections of a run, and the system in which each is one step.
-/

namespace Lib

universe u v w

/-- A section of code: a step, which may fail, and what comes after it. -/
inductive Prog (σ : Type u) : Type u
  | done
  | step (f : σ → Option σ) (next : σ → Prog σ)

namespace Prog

variable {σ : Type u} {α : Type v}

/-- What the section does when nothing comes between its steps. -/
def run : Prog σ → σ → Option σ
  | done, s => some s
  | step f next, s => (f s).bind fun s' => (next s').run s'

/-- One step that does not fail. -/
def act (f : σ → σ) : Prog σ := step (fun s => some (f s)) fun _ => done

/-- What comes next depends on the state. -/
def look (next : σ → Prog σ) : Prog σ := step some next

/-- One section after another. -/
def seq : Prog σ → Prog σ → Prog σ
  | done, q => q
  | step f next, q => step f fun s => (next s).seq q

/-- A loop over a list. -/
def each (body : α → Prog σ) : List α → Prog σ
  | [] => done
  | a :: as => (body a).seq (each body as)

@[simp] theorem run_done (s : σ) : (done : Prog σ).run s = some s := rfl

@[simp] theorem run_act (f : σ → σ) (s : σ) : (act f).run s = some (f s) := rfl

@[simp] theorem run_look (next : σ → Prog σ) (s : σ) : (look next).run s = (next s).run s := rfl

@[simp] theorem run_seq (p q : Prog σ) (s : σ) : (p.seq q).run s = (p.run s).bind q.run := by
  induction p generalizing s with
  | done => rfl
  | step f next ih =>
      rw [seq, run, run, Option.bind_assoc]
      simp only [ih]

/-- A loop whose body does not fail. -/
theorem run_each {body : α → Prog σ} {f : σ → α → σ} (h : ∀ a s, (body a).run s = some (f s a))
    (as : List α) (s : σ) : (each body as).run s = some (as.foldl f s) := by
  induction as generalizing s with
  | nil => rfl
  | cons a as ih => rw [each, run_seq, h, Option.bind_some, ih, List.foldl_cons]

/-- Every step of the section goes from a state to a related one. -/
def Keeps (R : σ → σ → Prop) : Prog σ → Prop
  | done => True
  | step f next => (∀ s s', f s = some s' → R s s') ∧ ∀ s, (next s).Keeps R

theorem keeps_true (p : Prog σ) : p.Keeps fun _ _ => True := by
  induction p with
  | done => trivial
  | step f next ih => exact ⟨fun _ _ _ => trivial, ih⟩

theorem keeps_act {R : σ → σ → Prop} {f : σ → σ} (h : ∀ s, R s (f s)) : (act f).Keeps R :=
  ⟨fun s _ hs => Option.some.inj hs ▸ h s, fun _ => trivial⟩

theorem Keeps.seq {R : σ → σ → Prop} {p q : Prog σ} (hp : p.Keeps R) (hq : q.Keeps R) :
    (p.seq q).Keeps R := by
  induction p with
  | done => exact hq
  | step f next ih => exact ⟨hp.1, fun s => ih s (hp.2 s)⟩

theorem keeps_each {R : σ → σ → Prop} {body : α → Prog σ} (h : ∀ a, (body a).Keeps R)
    (as : List α) : (each body as).Keeps R := by
  induction as with
  | nil => trivial
  | cons a as ih => exact (h a).seq ih

/-- The whole section does too, when the relation is a preorder. -/
theorem Keeps.run {R : σ → σ → Prop} (hrefl : ∀ s, R s s)
    (htrans : ∀ {a b c}, R a b → R b c → R a c) {p : Prog σ} (h : p.Keeps R) {s s' : σ}
    (hrun : p.run s = some s') : R s s' := by
  induction p generalizing s with
  | done => exact Option.some.inj hrun ▸ hrefl s
  | step f next ih =>
      obtain ⟨m, hm, hrest⟩ := Option.bind_eq_some_iff.mp hrun
      exact htrans (h.1 s m hm) (ih m (h.2 m) hrest)

end Prog

/-! ## The tasks -/

/-- The shared state, and the task that holds the mutex with what is left of its section. -/
structure Guarded (τ : Type v) (σ : Type u) where
  shared : σ
  holder : Option (τ × Prog σ)

/-- What can happen. -/
inductive GuardEvent (τ : Type v) (ι : Type w)
  /-- A task takes the mutex for a section. -/
  | take (t : τ) (i : ι)
  /-- A task makes a step. -/
  | go (t : τ)
  /-- A task gives the mutex back. -/
  | give (t : τ)

variable {τ : Type v} {σ : Type u} {ι : Type w}

/-- The tasks at work. -/
def guarded [DecidableEq τ] (code : ι → Prog σ) : System (Guarded τ σ) (GuardEvent τ ι) :=
  fun g e =>
    match e, g.holder with
    | .take t i, none => some { g with holder := some (t, code i) }
    | .go t, some (holder, .step f next) =>
        if t = holder then (f g.shared).map fun s => ⟨s, some (holder, next s)⟩ else none
    | .give t, some (holder, .done) => if t = holder then some { g with holder := none } else none
    | _, _ => none

/-- A section as one step. -/
def whole (code : ι → Prog σ) : System σ (τ × ι) := fun s section_ => (code section_.2).run s

/-- The sections of a run, in the order in which they took the mutex. -/
def sections (es : List (GuardEvent τ ι)) : List (τ × ι) :=
  es.filterMap fun e =>
    match e with
    | .take t i => some (t, i)
    | _ => none

section Serial

variable [DecidableEq τ] (code : ι → Prog σ) (R : σ → σ → Prop)

/-- The shared state is that of whole sections, but for what is done of the one that holds the
mutex. -/
def Serial (s : σ) (taken : List (τ × ι)) (g : Guarded τ σ) : Prop :=
  match g.holder with
  | none => System.run (whole code) s taken = some g.shared
  | some (t, rest) =>
      ∃ before i m, taken = before ++ [(t, i)] ∧ System.run (whole code) s before = some m ∧
        (code i).run m = rest.run g.shared ∧ R m g.shared ∧ rest.Keeps R

variable {code R} (hrefl : ∀ s, R s s) (htrans : ∀ {a b c}, R a b → R b c → R a c)
  (hcode : ∀ i, (code i).Keeps R)
include hrefl htrans hcode

/-- One step keeps it. -/
theorem Serial.step {s : σ} {taken : List (τ × ι)} {g g' : Guarded τ σ} {e : GuardEvent τ ι}
    (h : Serial code R s taken g) (hstep : guarded code g e = some g') :
    Serial code R s (taken ++ sections [e]) g' := by
  obtain ⟨shared, holder⟩ := g
  cases e with
  | take t i =>
      cases holder with
      | some _ => cases hstep
      | none =>
          cases hstep
          exact ⟨taken, i, shared, rfl, h, rfl, hrefl shared, hcode i⟩
  | go t =>
      match holder with
      | none | some (_, .done) => cases hstep
      | some (holder, .step f next) =>
          simp only [guarded] at hstep
          split at hstep
          · obtain ⟨s', hs', rfl⟩ := Option.map_eq_some_iff.mp hstep
            obtain ⟨before, i, m, htaken, hbefore, hrest, hR, hkeeps⟩ := h
            refine ⟨before, i, m, (List.append_nil taken).trans htaken, hbefore, ?_,
              htrans hR (hkeeps.1 shared s' hs'), hkeeps.2 s'⟩
            rw [hrest, Prog.run, hs', Option.bind_some]
          · cases hstep
  | give t =>
      match holder with
      | none | some (_, .step _ _) => cases hstep
      | some (holder, .done) =>
          simp only [guarded] at hstep
          split at hstep
          · cases hstep
            obtain ⟨before, i, m, htaken, hbefore, hrest, -, -⟩ := h
            have hlast : System.run (whole code) s (before ++ [(holder, i)]) = some shared :=
              System.run_snoc_eq_some.mpr ⟨m, hbefore, hrest⟩
            show System.run (whole code) s (taken ++ []) = some shared
            rw [List.append_nil, htaken]
            exact hlast
          · cases hstep

/-- **Sections under a mutex are serial.** -/
theorem serial_run {s : σ} :
    ∀ (es : List (GuardEvent τ ι)) (before : List (τ × ι)) (g g' : Guarded τ σ),
      Serial code R s before g → System.run (guarded code) g es = some g' →
        Serial code R s (before ++ sections es) g' := by
  intro es
  induction es with
  | nil =>
      intro before g g' h hrun
      cases hrun
      rw [sections, List.filterMap_nil, List.append_nil]
      exact h
  | cons e es ih =>
      intro before g g' h hrun
      obtain ⟨next, hfirst, hrest⟩ := System.run_cons_eq_some.mp hrun
      have hlater := ih _ _ _ (h.step hrefl htrans hcode hfirst) hrest
      have hsplit : sections (e :: es) = sections [e] ++ sections es :=
        List.filterMap_append (l := [e])
      rw [hsplit, ← List.append_assoc]
      exact hlater

/-- From a free mutex. -/
theorem serial_of_run {s : σ} {es : List (GuardEvent τ ι)} {g : Guarded τ σ}
    (h : System.run (guarded code) ⟨s, none⟩ es = some g) : Serial code R s (sections es) g :=
  serial_run hrefl htrans hcode es [] ⟨s, none⟩ g rfl h

end Serial

end Lib
