import Mathlib.Data.List.Basic

/-!
# Computations that may fail

How a sequence of `Except` or `Option` computations that succeeds comes apart.
-/

namespace Lib

/-- A sequence that succeeds, taken apart. -/
theorem bind_eq_ok {ε α β : Type} {x : Except ε α} {f : α → Except ε β} {b : β} :
    x >>= f = .ok b ↔ ∃ a, x = .ok a ∧ f a = .ok b := by
  cases x with
  | error e => simp [Bind.bind, Except.bind]
  | ok a => simp [Bind.bind, Except.bind]

/-- A result that is there. -/
theorem toOption_eq_some {ε α : Type} {x : Except ε α} {a : α} :
    x.toOption = some a ↔ x = .ok a := by
  cases x <;> simp [Except.toOption]

/-- A function that succeeds on every element gives a list of the same length. -/
theorem length_of_mapM {α β : Type} {f : α → Option β} {l : List α} {l' : List β}
    (h : l.mapM f = some l') : l'.length = l.length := by
  induction l generalizing l' with
  | nil =>
      cases h
      rfl
  | cons a l ih =>
      rw [List.mapM_cons] at h
      obtain ⟨b, -, h⟩ := Option.bind_eq_some_iff.mp h
      obtain ⟨bs, hbs, hret⟩ := Option.bind_eq_some_iff.mp h
      cases hret
      rw [List.length_cons, List.length_cons, ih hbs]

/-- A function that fails on no element. -/
theorem mapM_eq_map {ε α β : Type} {f : α → Except ε β} {g : α → β} {l : List α}
    (h : ∀ a ∈ l, f a = .ok (g a)) : l.mapM f = .ok (l.map g) := by
  induction l with
  | nil => rfl
  | cons a l ih =>
      have hrest := ih fun a' ha' => h a' (List.mem_cons_of_mem a ha')
      rw [List.mapM_cons, h a List.mem_cons_self, hrest]
      rfl

/-- A sequence of computations succeeds when each of them does, and every result is one of
theirs. -/
theorem mapM_isOk_of_forall {ε α β : Type} {f : α → Except ε β} {l : List α}
    (h : ∀ a ∈ l, ∃ b, f a = .ok b) :
    ∃ l', l.mapM f = .ok l' ∧ ∀ b ∈ l', ∃ a ∈ l, f a = .ok b := by
  induction l with
  | nil => exact ⟨[], rfl, by simp⟩
  | cons a l ih =>
      obtain ⟨b, hb⟩ := h a List.mem_cons_self
      obtain ⟨bs, hbs, hmem⟩ := ih fun a' ha' => h a' (List.mem_cons_of_mem a ha')
      refine ⟨b :: bs, by rw [List.mapM_cons, hb, hbs]; rfl, fun b' hb' => ?_⟩
      rcases List.mem_cons.mp hb' with rfl | hrest
      · exact ⟨a, List.mem_cons_self, hb⟩
      · obtain ⟨a', ha', hfa'⟩ := hmem b' hrest
        exact ⟨a', List.mem_cons_of_mem a ha', hfa'⟩

end Lib
