import Mathlib.Data.List.Basic

/-!
# Looking up the first of several

`l.find? p` is the first element of `l` that satisfies `p`.  When `on` says which elements can
be used, the first one may be unusable although a later one is not.  `Fronted` excludes that:
if an element that satisfies `p` can be used, then the one that is found can.

The rules say what a list with one element put in, or replaced, needs to stay fronted.

## Main definitions

* `Led p on l` — what is found in `l`, if anything, can be used.
* `Idle p on l` — nothing in `l` that satisfies `p` can be used.
* `Fronted p on l` — if something can be used, then what is found can.
-/

namespace Lib

universe u

variable {α : Type u} {p on : α → Bool} {a b : List α} {x y : α}

/-- What is found, if anything, can be used. -/
def Led (p on : α → Bool) (l : List α) : Prop := ∀ x, l.find? p = some x → on x = true

/-- Nothing that satisfies `p` can be used. -/
def Idle (p on : α → Bool) (l : List α) : Prop := ∀ x ∈ l, p x = true → on x = false

/-- If something can be used, then what is found can. -/
def Fronted (p on : α → Bool) (l : List α) : Prop :=
  (∃ x ∈ l, p x = true ∧ on x = true) → ∃ x, l.find? p = some x ∧ on x = true

@[simp] theorem led_nil : Led p on ([] : List α) := by simp [Led]

@[simp] theorem fronted_nil : Fronted p on ([] : List α) := by simp [Fronted]

theorem Idle.fronted (h : Idle p on a) : Fronted p on a := by
  intro ⟨x, hx, hp, hon⟩
  simp [h x hx hp] at hon

/-- A fronted list is led, unless nothing in it can be used. -/
theorem fronted_iff : Fronted p on a ↔ Led p on a ∨ Idle p on a := by
  constructor
  · intro h
    by_cases hidle : Idle p on a
    · exact Or.inr hidle
    · left
      intro x hx
      simp only [Idle, not_forall, Bool.not_eq_false] at hidle
      obtain ⟨y, hy, hp, hon⟩ := hidle
      obtain ⟨z, hz, hzon⟩ := h ⟨y, hy, hp, hon⟩
      rw [hz] at hx
      cases hx
      exact hzon
  · rintro (hled | hidle)
    · intro ⟨x, hx, hp, _⟩
      have hfound : (a.find? p).isSome = true := List.find?_isSome.mpr ⟨x, hx, hp⟩
      obtain ⟨z, hz⟩ := Option.isSome_iff_exists.mp hfound
      exact ⟨z, hz, hled z hz⟩
    · exact hidle.fronted

/-- An element that does not answer does not matter. -/
theorem fronted_middle_of_not (hp : p x = false) :
    Fronted p on (a ++ x :: b) ↔ Fronted p on (a ++ b) := by
  have hfind : (a ++ x :: b).find? p = (a ++ b).find? p := by
    simp [List.find?_append, hp]
  simp only [Fronted, hfind]
  refine imp_congr_left ?_
  constructor
  · rintro ⟨y, hy, hpy, hon⟩
    have hne : y ≠ x := by
      rintro rfl
      simp [hp] at hpy
    refine ⟨y, ?_, hpy, hon⟩
    simpa [hne] using hy
  · rintro ⟨y, hy, hpy, hon⟩
    refine ⟨y, ?_, hpy, hon⟩
    simp only [List.mem_append, List.mem_cons] at hy ⊢
    tauto

/-- What is found in front, or else the element itself. -/
theorem led_middle (hp : p x = true) :
    Led p on (a ++ x :: b) ↔
      Led p on a ∧ ((∃ y ∈ a, p y = true) ∨ on x = true) := by
  have hfind : (a ++ x :: b).find? p = (a.find? p).or (some x) := by
    simp [List.find?_append, hp]
  cases ha : a.find? p with
  | none =>
      have hnone : ¬ ∃ y ∈ a, p y = true := by
        rintro ⟨y, hy, hpy⟩
        exact List.find?_eq_none.mp ha y hy hpy
      simp [Led, hfind, ha, hnone]
  | some z =>
      have hsome : ∃ y ∈ a, p y = true :=
        ⟨z, List.mem_of_find?_eq_some ha, List.find?_some ha⟩
      simp [Led, hfind, ha, hsome]

/-- An element that can be used needs what stands before it to be led. -/
theorem fronted_middle_on (hp : p x = true) (hon : on x = true) :
    Fronted p on (a ++ x :: b) ↔ Led p on a := by
  have hidle : ¬ Idle p on (a ++ x :: b) := by
    intro h
    simp [h x (by simp) hp] at hon
  rw [fronted_iff, or_iff_left hidle, led_middle hp]
  exact and_iff_left (Or.inr hon)

/-- An element that cannot be used needs another one before it, or nothing to be hidden
from. -/
theorem fronted_middle_off (hp : p x = true) (hoff : on x = false) :
    Fronted p on (a ++ x :: b) ↔
      (Led p on a ∧ ∃ y ∈ a, p y = true) ∨ Idle p on (a ++ b) := by
  have hidle : Idle p on (a ++ x :: b) ↔ Idle p on (a ++ b) := by
    simp [Idle, hoff, or_imp, forall_and]
  rw [fronted_iff, led_middle hp, hidle]
  simp [hoff]

/-- In a fronted list, what stands before an element is led if something in it answers,
unless the element is in the way of nothing. -/
theorem led_or_idle (h : Fronted p on (a ++ x :: b)) (hz : ∃ z ∈ a, p z = true) :
    Led p on a ∨ Idle p on (a ++ b) := by
  have hfind : ∀ z, a.find? p = some z → (a ++ x :: b).find? p = some z := by
    intro z hfound
    simp [List.find?_append, hfound]
  rcases fronted_iff.mp h with hled | hidle
  · exact Or.inl fun z hfound => hled z (hfind z hfound)
  · right
    intro z hmem
    apply hidle z
    simp only [List.mem_append, List.mem_cons] at hmem ⊢
    tauto

/-- **An element put in the place of another.**  From a fronted list, the list stays fronted
under a condition on what stands around the place. -/
theorem fronted_replace (h : Fronted p on (a ++ x :: b)) :
    Fronted p on (a ++ y :: b) ↔
      (p y = true → on y = true → Led p on a) ∧
        (p y = true → on y = false → (∃ z ∈ a, p z = true) ∨ Idle p on (a ++ b)) ∧
          (p y = false → p x = true → Fronted p on (a ++ b)) := by
  cases hpy : p y with
  | false =>
      rw [fronted_middle_of_not hpy]
      cases hpx : p x with
      | false => simpa using (fronted_middle_of_not hpx).mp h
      | true => simp
  | true =>
      cases hony : on y with
      | true => simp [fronted_middle_on hpy hony]
      | false =>
          rw [fronted_middle_off hpy hony]
          simp only [true_imp_iff, false_imp_iff, and_true, true_and, Bool.false_eq_true,
            Bool.true_eq_false]
          constructor
          · rintro (⟨_, hz⟩ | hidle)
            · exact Or.inl hz
            · exact Or.inr hidle
          · rintro (hz | hidle)
            · exact (led_or_idle h hz).imp_left fun hled => ⟨hled, hz⟩
            · exact Or.inr hidle

end Lib
