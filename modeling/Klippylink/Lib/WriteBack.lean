import Klippylink.Lib.System
import Mathlib.Logic.Function.Basic

/-!
# Buffers that are written and then sent

Tasks have a device write single keys of a buffer, and flush blocks of it; a flush sends the keys
of a block one after another, each as it is in the buffer at that moment.  No task waits for
another, so anything may come between a write and the flush of another task, and between the keys
of a flush.

A device may fail.  What is asked of it is little: an operation writes and sends its own keys
only, and one that goes well has done so for all of them.  A routine gives up where an operation
of it fails; the keys that its task has written and not sent are then in doubt, until they are
sent.

When every task flushes each block that it has written, then a key for whose block no task has a
flush left, and that is not in doubt, is shown as it is in the buffer.  `shown_of_settled` says so
of every run.

## Main definitions

* `BlockOp` — a write, a flush, or both for a whole block.
* `BlockOp.Writes`, `BlockOp.Sends`, `BlockOp.Done` — what a device may do, and has to.
* `Flushes` — a list of operations that flushes what it writes.
* `Progress`, `Screen`, `screen` — the buffer, what is shown, and the tasks at work.
* `Screen.Settled` — no task has a flush of the block left.
-/

namespace Lib

universe u v w x
variable {κ : Type u} {β : Type v} {ν : Type w} {τ : Type x}

/-- A write of a key, a flush of a block, or a write of all its keys and a flush. -/
inductive BlockOp (κ : Type u) (β : Type v) (ν : Type w)
  | write (k : κ) (v : ν)
  | flush (b : β)
  | fill (b : β) (v : ν)

/-- Operations one after another, up to the first that fails. -/
abbrev Routine (κ : Type u) (β : Type v) (ν : Type w) := List (BlockOp κ β ν)

namespace BlockOp

/-- The block that is sent. -/
def block : BlockOp κ β ν → Option β
  | write _ _ => none
  | flush b | fill b _ => some b

variable (keys : β → List κ)

/-- The operation may write this. -/
def Writes (k : κ) (v : ν) : BlockOp κ β ν → Prop
  | write k' v' => k = k' ∧ v = v'
  | flush _ => False
  | fill b v' => k ∈ keys b ∧ v = v'

/-- It may send this. -/
def Sends (k : κ) (op : BlockOp κ β ν) : Prop := ∃ b ∈ op.block, k ∈ keys b

/-- What it has written, and sent since, when it goes well. -/
def Done (wrote sent : List κ) : BlockOp κ β ν → Prop
  | write k _ => k ∈ wrote
  | flush b => ∀ k ∈ keys b, k ∈ sent
  | fill b _ => ∀ k ∈ keys b, k ∈ wrote ∧ k ∈ sent

section Decidable

variable [DecidableEq κ] [DecidableEq ν]

instance (k : κ) (v : ν) : (op : BlockOp κ β ν) → Decidable (op.Writes keys k v)
  | write _ _ => inferInstanceAs (Decidable (_ ∧ _))
  | flush _ => inferInstanceAs (Decidable False)
  | fill _ _ => inferInstanceAs (Decidable (_ ∧ _))

instance (k : κ) (op : BlockOp κ β ν) : Decidable (op.Sends keys k) :=
  match h : op.block with
  | none => .isFalse fun hsends => by simp [Sends, h] at hsends
  | some b => decidable_of_iff (k ∈ keys b) (by simp [Sends, h])

instance (wrote sent : List κ) : (op : BlockOp κ β ν) → Decidable (op.Done keys wrote sent)
  | write _ _ => inferInstanceAs (Decidable (_ ∈ _))
  | flush _ => inferInstanceAs (Decidable (∀ _ ∈ _, _))
  | fill _ _ => inferInstanceAs (Decidable (∀ _ ∈ _, _))

end Decidable

/-- A flush that has gone well has sent its keys. -/
theorem Done.sent {keys : β → List κ} {op : BlockOp κ β ν} {wrote sent : List κ}
    (h : op.Done keys wrote sent) {k : κ} (hk : op.Sends keys k) : k ∈ sent := by
  obtain ⟨b, hb, hk⟩ := hk
  cases op with
  | write k v => cases hb
  | flush b =>
      cases hb
      exact h k hk
  | fill b v =>
      cases hb
      exact (h k hk).2

end BlockOp

/-- What is written is flushed later. -/
def Flushes (keys : β → List κ) : Routine κ β ν → Prop
  | [] => True
  | .write k _ :: ops => (∃ op ∈ ops, op.Sends keys k) ∧ Flushes keys ops
  | _ :: ops => Flushes keys ops

theorem Flushes.tail {keys : β → List κ} {op : BlockOp κ β ν} {ops : Routine κ β ν}
    (h : Flushes keys (op :: ops)) : Flushes keys ops := by
  cases op with
  | write k v => exact h.2
  | flush b => exact h
  | fill b v => exact h

theorem Flushes.suffix {keys : β → List κ} {ops ops' : Routine κ β ν}
    (h : Flushes keys (ops ++ ops')) : Flushes keys ops' := by
  induction ops with
  | nil => exact h
  | cons op ops ih => exact ih h.tail

/-- Writes, and then operations that flush all their blocks. -/
theorem flushes_writes {keys : β → List κ} (writes : List (κ × ν)) {ops : Routine κ β ν}
    (hops : Flushes keys ops) (h : ∀ w ∈ writes, ∃ op ∈ ops, op.Sends keys w.1) :
    Flushes keys (writes.map (fun w => .write w.1 w.2) ++ ops) := by
  induction writes with
  | nil => exact hops
  | cons w writes ih =>
      obtain ⟨⟨op, hop, hw⟩, hrest⟩ := List.forall_mem_cons.mp h
      exact ⟨⟨op, List.mem_append_right _ hop, hw⟩, ih hrest⟩

/-! ## The tasks -/

/-- The routines that a task has left, of which the first operation is under way; what that has
written, and sent since; and what the task has written, and nobody has sent since. -/
structure Progress (κ : Type u) (β : Type v) (ν : Type w) where
  left : List (Routine κ β ν)
  wrote : List κ
  sent : List κ
  unsent : List κ

/-- The buffer, what is shown, the tasks, and the keys in doubt. -/
structure Screen (τ : Type x) (κ : Type u) (β : Type v) (ν : Type w) where
  buffer : κ → ν
  shown : κ → ν
  task : τ → Progress κ β ν
  doubt : List κ

/-- What can happen. -/
inductive ScreenEvent (τ : Type x) (κ : Type u) (β : Type v) (ν : Type w)
  /-- A task that has nothing left gets something to do. -/
  | begin (t : τ) (work : List (Routine κ β ν))
  /-- The operation under way writes a key. -/
  | write (t : τ) (k : κ) (v : ν)
  /-- It sends one. -/
  | send (t : τ) (k : κ)
  /-- It returns. -/
  | finish (t : τ) (ok : Bool)

/-- What is left when an operation has returned. -/
def nextRoutines (ok : Bool) : List (Routine κ β ν) → List (Routine κ β ν)
  | [] => []
  | [] :: routines => nextRoutines ok routines
  | (_ :: ops) :: routines => if ok then ops :: routines else routines

theorem flatten_nextRoutines_true (routines : List (Routine κ β ν)) :
    (nextRoutines true routines).flatten = routines.flatten.tail := by
  induction routines with
  | nil => rfl
  | cons routine routines ih =>
      cases routine with
      | nil => simpa [nextRoutines] using ih
      | cons op ops => simp [nextRoutines]

theorem exists_nextRoutines_false (routines : List (Routine κ β ν)) :
    ∃ ops, routines.flatten = ops ++ (nextRoutines false routines).flatten := by
  induction routines with
  | nil => exact ⟨[], rfl⟩
  | cons routine routines ih =>
      cases routine with
      | nil => simpa [nextRoutines] using ih
      | cons op ops => exact ⟨op :: ops, by simp [nextRoutines]⟩

namespace Progress

/-- Nothing to do. -/
def idle : Progress κ β ν := ⟨[], [], [], []⟩

/-- The operations that are left. -/
def ops (p : Progress κ β ν) : Routine κ β ν := p.left.flatten

/-- More work. -/
def begin (p : Progress κ β ν) (work : List (Routine κ β ν)) : Progress κ β ν :=
  ⟨work, [], [], p.unsent⟩

/-- The operation under way has returned. -/
def finish (p : Progress κ β ν) (ok : Bool) : Progress κ β ν :=
  ⟨nextRoutines ok p.left, [], [], if ok then p.unsent else []⟩

theorem mem_ops_of_finish {p : Progress κ β ν} {ok : Bool} {op : BlockOp κ β ν}
    (h : op ∈ (p.finish ok).ops) : op ∈ p.ops := by
  cases ok with
  | true =>
      rw [Progress.ops, Progress.finish, flatten_nextRoutines_true] at h
      exact List.mem_of_mem_tail h
  | false =>
      obtain ⟨given, hgiven⟩ := exists_nextRoutines_false p.left
      rw [Progress.ops, hgiven]
      exact List.mem_append_right _ h

variable [DecidableEq κ]

/-- It has written a key. -/
def write (p : Progress κ β ν) (k : κ) : Progress κ β ν :=
  ⟨p.left, k :: p.wrote, p.sent.filter (· ≠ k), k :: p.unsent⟩

/-- A key has been sent, by the task itself or by another. -/
def send (p : Progress κ β ν) (own : Bool) (k : κ) : Progress κ β ν :=
  ⟨p.left, p.wrote, if own then k :: p.sent else p.sent, p.unsent.filter (· ≠ k)⟩

end Progress

section Step

variable [DecidableEq κ] [DecidableEq τ]

namespace Screen

variable (s : Screen τ κ β ν) (t : τ)

/-- A task has got something to do. -/
def begin (work : List (Routine κ β ν)) : Screen τ κ β ν :=
  { s with task := Function.update s.task t ((s.task t).begin work) }

/-- A key has been written. -/
def write (k : κ) (v : ν) : Screen τ κ β ν :=
  { s with
    buffer := Function.update s.buffer k v
    task := Function.update s.task t ((s.task t).write k) }

/-- A key has been sent. -/
def send (k : κ) : Screen τ κ β ν :=
  { s with
    shown := Function.update s.shown k (s.buffer k)
    task := fun t' => (s.task t').send (t' = t) k
    doubt := s.doubt.filter (· ≠ k) }

/-- An operation has returned. -/
def finish (ok : Bool) : Screen τ κ β ν :=
  { s with
    task := Function.update s.task t ((s.task t).finish ok)
    doubt := if ok then s.doubt else (s.task t).unsent ++ s.doubt }

end Screen

variable [DecidableEq ν] (keys : β → List κ)

/-- The tasks at work. -/
def screen : System (Screen τ κ β ν) (ScreenEvent τ κ β ν) := fun s e =>
  match e with
  | .begin t work =>
      match (s.task t).ops with
      | [] => some (s.begin t work)
      | _ :: _ => none
  | .write t k v =>
      match (s.task t).ops with
      | [] => none
      | op :: _ => if op.Writes keys k v then some (s.write t k v) else none
  | .send t k =>
      match (s.task t).ops with
      | [] => none
      | op :: _ => if op.Sends keys k then some (s.send t k) else none
  | .finish t ok =>
      match (s.task t).ops with
      | [] => none
      | op :: _ =>
          if ok = true → op.Done keys (s.task t).wrote (s.task t).sent then some (s.finish t ok)
          else none

variable {keys} {s s' : Screen τ κ β ν} {t : τ}

theorem screen_begin {work : List (Routine κ β ν)}
    (h : screen keys s (.begin t work) = some s') :
    (s.task t).ops = [] ∧ s' = s.begin t work := by
  simp only [screen] at h
  split at h
  · next hops => exact ⟨hops, (Option.some.inj h).symm⟩
  · cases h

theorem screen_write {k : κ} {v : ν} (h : screen keys s (.write t k v) = some s') :
    ∃ op ops, (s.task t).ops = op :: ops ∧ op.Writes keys k v ∧ s' = s.write t k v := by
  simp only [screen] at h
  split at h
  · cases h
  · next op ops hops =>
      split at h
      · next hwrites => exact ⟨op, ops, hops, hwrites, (Option.some.inj h).symm⟩
      · cases h

theorem screen_send {k : κ} (h : screen keys s (.send t k) = some s') :
    ∃ op ops, (s.task t).ops = op :: ops ∧ op.Sends keys k ∧ s' = s.send t k := by
  simp only [screen] at h
  split at h
  · cases h
  · next op ops hops =>
      split at h
      · next hsends => exact ⟨op, ops, hops, hsends, (Option.some.inj h).symm⟩
      · cases h

theorem screen_finish {ok : Bool} (h : screen keys s (.finish t ok) = some s') :
    ∃ op ops, (s.task t).ops = op :: ops ∧
      (ok = true → op.Done keys (s.task t).wrote (s.task t).sent) ∧ s' = s.finish t ok := by
  simp only [screen] at h
  split at h
  · cases h
  · next op ops hops =>
      split at h
      · next hdone => exact ⟨op, ops, hops, hdone, (Option.some.inj h).symm⟩
      · cases h

end Step

/-- No task has a flush of the block left. -/
def Screen.Settled (s : Screen τ κ β ν) (b : β) : Prop :=
  ∀ t, ∀ op ∈ (s.task t).ops, op.block ≠ some b

/-- The event begins operations that flush what they write. -/
def ScreenEvent.Tidy (keys : β → List κ) : ScreenEvent τ κ β ν → Prop
  | .begin _ work => Flushes keys work.flatten
  | _ => True

/-! ### What a task owes -/

/-- What a task has written and not sent, it flushes later. -/
structure Progress.Tidy (keys : β → List κ) (p : Progress κ β ν) : Prop where
  covered : ∀ k ∈ p.unsent, ∃ op ∈ p.ops, op.Sends keys k
  sent : ∀ k ∈ p.sent, k ∉ p.unsent
  flushes : Flushes keys p.ops

namespace Progress.Tidy

variable {keys : β → List κ} {p : Progress κ β ν} {op : BlockOp κ β ν} {ops : Routine κ β ν}

theorem begin (h : p.Tidy keys) (hops : p.ops = []) {work : List (Routine κ β ν)}
    (hwork : Flushes keys work.flatten) : (p.begin work).Tidy keys := by
  refine ⟨fun k hk => ?_, fun k hk => (nomatch hk), hwork⟩
  obtain ⟨op, hop, -⟩ := h.covered k hk
  rw [hops] at hop
  cases hop

theorem finish (h : p.Tidy keys) (hops : p.ops = op :: ops) {ok : Bool}
    (hdone : ok = true → op.Done keys p.wrote p.sent) : (p.finish ok).Tidy keys := by
  have hflat : p.left.flatten = op :: ops := hops
  cases ok with
  | true =>
      have hrest : (p.finish true).ops = ops := by
        show (nextRoutines true p.left).flatten = ops
        rw [flatten_nextRoutines_true, hflat, List.tail_cons]
      refine ⟨fun k hk => ?_, fun k hk => (nomatch hk), ?_⟩
      · obtain ⟨op', hop', hsends⟩ := h.covered k hk
        rw [hops] at hop'
        rw [hrest]
        rcases List.mem_cons.mp hop' with rfl | hop'
        · exact absurd hk (h.sent k ((hdone rfl).sent hsends))
        · exact ⟨op', hop', hsends⟩
      · rw [hrest]
        have hflushes := h.flushes
        rw [hops] at hflushes
        exact hflushes.tail
  | false =>
      refine ⟨fun k hk => (nomatch hk), fun k hk => (nomatch hk), ?_⟩
      obtain ⟨given, hgiven⟩ := exists_nextRoutines_false p.left
      have hflushes := h.flushes
      rw [Progress.ops, hgiven] at hflushes
      exact hflushes.suffix

variable [DecidableEq κ]

theorem write (h : p.Tidy keys) (hops : p.ops = op :: ops) {k : κ} {v : ν}
    (hwrites : op.Writes keys k v) : (p.write k).Tidy keys := by
  refine ⟨fun k' hk' => ?_, fun k' hk' => ?_, h.flushes⟩
  · rcases List.mem_cons.mp hk' with rfl | hk'
    · have hflushes := h.flushes
      rw [hops] at hflushes
      show ∃ op ∈ p.ops, _
      rw [hops]
      cases op with
      | write k v =>
          obtain ⟨rfl, -⟩ := hwrites
          obtain ⟨op, hop, hsends⟩ := hflushes.1
          exact ⟨op, List.mem_cons_of_mem _ hop, hsends⟩
      | flush b => exact hwrites.elim
      | fill b v => exact ⟨_, List.mem_cons_self, b, rfl, hwrites.1⟩
    · exact h.covered k' hk'
  · obtain ⟨hsent, hne⟩ := List.mem_filter.mp hk'
    exact List.not_mem_cons_of_ne_of_not_mem (of_decide_eq_true hne) (h.sent k' hsent)

theorem send (h : p.Tidy keys) (own : Bool) (k : κ) : (p.send own k).Tidy keys := by
  refine ⟨fun k' hk' => h.covered k' (List.mem_of_mem_filter hk'), fun k' hk' hun => ?_, h.flushes⟩
  have hun' : k' ∈ p.unsent ∧ k' ≠ k := by simpa [Progress.send] using hun
  cases own with
  | false => exact h.sent k' hk' hun'.1
  | true => exact h.sent k' ((List.mem_cons.mp hk').resolve_left hun'.2) hun'.1

end Progress.Tidy

section Task

variable [DecidableEq τ] {task : τ → Progress κ β ν} {t : τ} {p : Progress κ β ν}

/-- What all tasks keep, when one of them has gone on. -/
theorem tidy_update {keys : β → List κ} (h : ∀ t, (task t).Tidy keys) (hp : p.Tidy keys) (t' : τ) :
    (Function.update task t p t').Tidy keys := by
  rw [Function.update_apply]
  split
  · exact hp
  · exact h t'

/-- Some task has still to send a key, when one that keeps it so has gone on. -/
theorem exists_unsent_update {k : κ} (hp : k ∈ (task t).unsent → k ∈ p.unsent)
    (h : ∃ t', k ∈ (task t').unsent) : ∃ t', k ∈ (Function.update task t p t').unsent := by
  obtain ⟨t', ht'⟩ := h
  by_cases heq : t' = t
  · subst heq
    exact ⟨t', by rw [Function.update_self]; exact hp ht'⟩
  · exact ⟨t', by rw [Function.update_of_ne heq]; exact ht'⟩

end Task

/-! ### What is shown -/

/-- A key that is not shown as it is in the buffer is in doubt, or some task has still to send
it. -/
structure Screen.Tidy (keys : β → List κ) (s : Screen τ κ β ν) : Prop where
  shown : ∀ k, s.shown k ≠ s.buffer k → k ∈ s.doubt ∨ ∃ t, k ∈ (s.task t).unsent
  task : ∀ t, (s.task t).Tidy keys

variable [DecidableEq κ] [DecidableEq ν] [DecidableEq τ]

/-- Every event keeps it. -/
theorem Screen.Tidy.step {keys : β → List κ} {s s' : Screen τ κ β ν} {e : ScreenEvent τ κ β ν}
    (h : s.Tidy keys) (he : e.Tidy keys) (hstep : screen keys s e = some s') : s'.Tidy keys := by
  cases e with
  | begin t work =>
      obtain ⟨hops, rfl⟩ := screen_begin hstep
      exact ⟨fun k hk => (h.shown k hk).imp_right (exists_unsent_update id),
        tidy_update h.task ((h.task t).begin hops he)⟩
  | write t k v =>
      obtain ⟨op, ops, hops, hwrites, rfl⟩ := screen_write hstep
      refine ⟨fun k' hk' => ?_, tidy_update h.task ((h.task t).write hops hwrites)⟩
      by_cases heq : k' = k
      · subst heq
        exact .inr ⟨t, by simp [Screen.write, Progress.write]⟩
      · simp only [Screen.write, Function.update_of_ne heq] at hk'
        exact (h.shown k' hk').imp_right
          (exists_unsent_update fun hun => List.mem_cons_of_mem k hun)
  | send t k =>
      obtain ⟨op, ops, hops, hsends, rfl⟩ := screen_send hstep
      refine ⟨fun k' hk' => ?_, fun t' => (h.task t').send _ k⟩
      by_cases heq : k' = k
      · subst heq
        simp [Screen.send] at hk'
      · simp only [Screen.send, Function.update_of_ne heq] at hk'
        have hkept : ∀ l : List κ, k' ∈ l → k' ∈ l.filter (· ≠ k) := fun l hl =>
          List.mem_filter.mpr ⟨hl, by simpa using heq⟩
        rcases h.shown k' hk' with hdoubt | ⟨t', ht'⟩
        · exact .inl (hkept _ hdoubt)
        · exact .inr ⟨t', hkept _ ht'⟩
  | finish t ok =>
      obtain ⟨op, ops, hops, hdone, rfl⟩ := screen_finish hstep
      refine ⟨fun k hk => ?_, tidy_update h.task ((h.task t).finish hops hdone)⟩
      cases ok with
      | true => exact (h.shown k hk).imp_right (exists_unsent_update id)
      | false =>
          rcases h.shown k hk with hdoubt | ⟨t', ht'⟩
          · exact .inl (List.mem_append_right _ hdoubt)
          · by_cases heq : t' = t
            · subst heq
              exact .inl (List.mem_append_left _ ht')
            · refine .inr ⟨t', ?_⟩
              simp only [Screen.finish, Function.update_of_ne heq]
              exact ht'

/-- **A settled block is shown as it is in the buffer**, but for the keys in doubt, in every run of
tasks that flush what they write. -/
theorem shown_of_settled {keys : β → List κ} {s s' : Screen τ κ β ν}
    {es : List (ScreenEvent τ κ β ν)} (hs : s.Tidy keys) (hes : ∀ e ∈ es, e.Tidy keys)
    (hrun : System.run (screen keys) s es = some s') {k : κ}
    (hsettled : ∀ b, k ∈ keys b → s'.Settled b) (hdoubt : k ∉ s'.doubt) :
    s'.shown k = s'.buffer k := by
  have htidy : s'.Tidy keys := System.run_induction_mem (Screen.Tidy keys)
    (fun _ _ _ he h hstep => h.step (hes _ he) hstep) hs hrun
  by_contra hne
  rcases htidy.shown k hne with hmem | ⟨t, ht⟩
  · exact hdoubt hmem
  · obtain ⟨op, hop, b, hb, hk⟩ := (htidy.task t).covered k ht
    exact hsettled b hk t op hop (Option.mem_def.mp hb)

end Lib
