import Klippylink.Lib.WriteBack

/-!
# A task that paints

The commonest routine writes one value to some keys and flushes their block.  A task that does so
while no other is at work changes no key but these, whatever fails, and when nothing fails it has
written all of them and shows the block.

## Main definitions

* `painting` — some keys are written, and their block is flushed.
* `PaintingAt`, `Painting` — how far a task has come with it.
-/

namespace Lib

universe u v w
variable {κ : Type u} {β : Type v} {ν : Type w}

/-- Some keys of a block are written, and it is flushed. -/
def painting (ks : List κ) (b : β) (v : ν) : Routine κ β ν := ks.map (.write · v) ++ [.flush b]

theorem flushes_painting {keys : β → List κ} {ks : List κ} {b : β} (v : ν)
    (h : ∀ k ∈ ks, k ∈ keys b) : Flushes keys (painting ks b v) := by
  have hflushes : Flushes keys ((ks.map (·, v)).map (fun w => .write w.1 w.2) ++ [.flush b]) := by
    refine flushes_writes _ trivial fun w hw => ?_
    obtain ⟨k, hk, rfl⟩ := List.mem_map.mp hw
    exact ⟨.flush b, List.mem_singleton_self _, b, rfl, h k hk⟩
  rw [List.map_map] at hflushes
  exact hflushes

section Alone

variable {keys : β → List κ} {ks : List κ} {b : β} {v : ν}
variable {s s' : Screen Unit κ β ν} {e : ScreenEvent Unit κ β ν}
variable {es : List (ScreenEvent Unit κ β ν)}

/-- Nothing but the keys has changed, and those to the value. -/
structure OnlyPainted (buffer : κ → ν) (ks : List κ) (b : β) (v : ν) (s : Screen Unit κ β ν) :
    Prop where
  left : ∀ op ∈ (s.task ()).ops, op ∈ painting ks b v
  buffer : ∀ k, s.buffer k = buffer k ∨ k ∈ ks ∧ s.buffer k = v

/-- Some keys have been written, and the others and the flush are left. -/
structure PaintingAt (b : β) (v : ν) (done todo : List κ) (s : Screen Unit κ β ν) : Prop where
  left : (s.task ()).left = [painting todo b v]
  done : ∀ k ∈ done, s.buffer k = v
  wrote : ∀ k ∈ (s.task ()).wrote, s.buffer k = v
  sent : ∀ k ∈ (s.task ()).sent, s.shown k = s.buffer k

namespace PaintingAt

variable {done todo : List κ} {k : κ}

theorem ops (h : PaintingAt b v done todo s) : (s.task ()).ops = painting todo b v := by
  rw [Progress.ops, h.left, List.flatten_singleton]

/-- The write of the next key returns. -/
theorem finish (h : PaintingAt b v done (k :: todo) s) (hk : k ∈ (s.task ()).wrote) :
    PaintingAt b v (done ++ [k]) todo (s.finish () true) := by
  refine ⟨?_, fun k' hk' => ?_, fun _ hk' => absurd hk' List.not_mem_nil,
    fun _ hk' => absurd hk' List.not_mem_nil⟩
  · simp [Screen.finish, Progress.finish, h.left, painting, nextRoutines]
  · rcases List.mem_append.mp hk' with hk' | hk'
    · exact h.done k' hk'
    · rw [List.mem_singleton.mp hk']
      exact h.wrote k hk

variable [DecidableEq κ]

/-- The next key is written. -/
theorem write (h : PaintingAt b v done (k :: todo) s) :
    PaintingAt b v done (k :: todo) (s.write () k v) := by
  have hkept : ∀ k', s.buffer k' = v → (s.write () k v).buffer k' = v := by
    intro k' hk'
    by_cases heq : k' = k
    · rw [heq]
      exact Function.update_self ..
    · exact (Function.update_of_ne heq ..).trans hk'
  refine ⟨h.left, fun k' hk' => hkept k' (h.done k' hk'), fun k' hk' => ?_, fun k' hk' => ?_⟩
  · rcases List.mem_cons.mp hk' with rfl | hk'
    · exact Function.update_self ..
    · exact hkept k' (h.wrote k' hk')
  · obtain ⟨hk', hne⟩ := List.mem_filter.mp hk'
    have hne : k' ≠ k := of_decide_eq_true hne
    exact (h.sent k' hk').trans (Function.update_of_ne hne ..).symm

/-- A key is sent. -/
theorem send (h : PaintingAt b v done todo s) (k : κ) :
    PaintingAt b v done todo (s.send () k) := by
  refine ⟨h.left, h.done, h.wrote, fun k' hk' => ?_⟩
  by_cases heq : k' = k
  · rw [heq]
    exact Function.update_self ..
  · exact (Function.update_of_ne heq ..).trans
      (h.sent k' ((List.mem_cons.mp hk').resolve_left heq))

end PaintingAt

/-- How far a task has come that writes keys and flushes their block, when nothing has failed. -/
inductive Painting (keys : β → List κ) (ks : List κ) (b : β) (v : ν) (s : Screen Unit κ β ν) : Prop
  | at (done todo : List κ) (hks : done ++ todo = ks) (h : PaintingAt b v done todo s)
  | through (hops : (s.task ()).ops = []) (hdone : ∀ k ∈ ks, s.buffer k = v)
      (hshown : ∀ k ∈ keys b, s.shown k = s.buffer k)

variable [DecidableEq κ] [DecidableEq ν]

/-- Every event but a new beginning keeps what is not painted. -/
theorem OnlyPainted.step {buffer : κ → ν} (h : OnlyPainted buffer ks b v s)
    (he : ∀ work, e ≠ .begin () work) (hstep : screen keys s e = some s') :
    OnlyPainted buffer ks b v s' := by
  cases e with
  | begin t work => exact absurd rfl (he work)
  | write t k v' =>
      obtain ⟨op, ops, hops, hwrites, rfl⟩ := screen_write hstep
      obtain ⟨rfl, hk⟩ : v' = v ∧ k ∈ ks := by
        have hop : op ∈ painting ks b v := h.left op (by rw [hops]; exact List.mem_cons_self)
        rcases List.mem_append.mp hop with hop | hop
        · obtain ⟨k', hk', rfl⟩ := List.mem_map.mp hop
          obtain ⟨rfl, rfl⟩ := hwrites
          exact ⟨rfl, hk'⟩
        · rw [List.mem_singleton.mp hop] at hwrites
          exact hwrites.elim
      refine ⟨h.left, fun k' => ?_⟩
      by_cases heq : k' = k
      · subst heq
        exact .inr ⟨hk, Function.update_self ..⟩
      · simpa only [Screen.write, Function.update_of_ne heq] using h.buffer k'
  | send t k =>
      obtain ⟨op, ops, hops, hsends, rfl⟩ := screen_send hstep
      exact ⟨h.left, h.buffer⟩
  | finish t ok =>
      obtain ⟨op, ops, hops, hdone, rfl⟩ := screen_finish hstep
      exact ⟨fun op hop => h.left op (Progress.mem_ops_of_finish hop), h.buffer⟩

/-- Every event but a new beginning and a failure goes on with it. -/
theorem Painting.step (h : Painting keys ks b v s) (he : ∀ work, e ≠ .begin () work)
    (hok : e ≠ .finish () false) (hstep : screen keys s e = some s') :
    Painting keys ks b v s' := by
  cases h with
  | through hops hdone hshown =>
      cases e with
      | begin t work => exact absurd rfl (he work)
      | write t k v' => simp [screen, hops] at hstep
      | send t k => simp [screen, hops] at hstep
      | finish t ok => simp [screen, hops] at hstep
  | «at» done todo hks h =>
      cases e with
      | begin t work => exact absurd rfl (he work)
      | write t k v' =>
          obtain ⟨op, ops, hfirst, hwrites, rfl⟩ := screen_write hstep
          cases todo with
          | nil =>
              cases h.ops.symm.trans hfirst
              exact hwrites.elim
          | cons k' todo =>
              cases h.ops.symm.trans hfirst
              obtain ⟨rfl, rfl⟩ := hwrites
              exact .at done (k :: todo) hks h.write
      | send t k =>
          obtain ⟨op, ops, -, -, rfl⟩ := screen_send hstep
          exact .at done todo hks (h.send k)
      | finish t ok =>
          obtain ⟨op, ops, hfirst, hreturned, rfl⟩ := screen_finish hstep
          cases ok with
          | false => exact absurd rfl hok
          | true =>
              cases todo with
              | nil =>
                  cases h.ops.symm.trans hfirst
                  refine .through ?_ ?_ fun k hk => h.sent k (hreturned rfl k hk)
                  · simp [Screen.finish, Progress.ops, Progress.finish, h.left, painting,
                      nextRoutines]
                  · rw [List.append_nil] at hks
                    exact hks ▸ h.done
              | cons k todo =>
                  cases h.ops.symm.trans hfirst
                  exact .at (done ++ [k]) todo (by simpa using hks) (h.finish (hreturned rfl))

end Alone

end Lib
