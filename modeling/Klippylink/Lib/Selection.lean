import Mathlib.Data.List.Forall2

/-!
# Selections

`List.SublistForall₂ R xs ys` says that the elements of `xs` come from elements of `ys`, in
their order and each from another one.  This is what is left of `ys` at the end of a pipeline
that loses some elements and repeats none: every stage loses some of what the stages before it
have let through, and more comes in at the front.
-/

namespace Lib

variable {α β : Type} {R : α → β → Prop} {xs xs' : List α} {ys ys' : List β}

/-- More is lost. -/
theorem SublistForall₂.of_sublist (h : List.SublistForall₂ R xs ys) (hlost : xs'.Sublist xs) :
    List.SublistForall₂ R xs' ys := by
  induction h generalizing xs' with
  | nil =>
      rw [List.sublist_nil.mp hlost]
      exact .nil
  | @cons a b xs ys hab _ ih =>
      cases hlost with
      | cons _ hlost => exact .cons_right (ih hlost)
      | cons_cons _ hlost => exact .cons hab (ih hlost)
  | cons_right _ ih => exact .cons_right (ih hlost)

/-- More comes in, and some of it is let through. -/
theorem SublistForall₂.append (h : List.SublistForall₂ R xs ys)
    (h' : List.SublistForall₂ R xs' ys') : List.SublistForall₂ R (xs ++ xs') (ys ++ ys') := by
  obtain ⟨zs, hzs, hsub⟩ := List.sublistForall₂_iff.mp h
  obtain ⟨zs', hzs', hsub'⟩ := List.sublistForall₂_iff.mp h'
  exact List.sublistForall₂_iff.mpr ⟨zs ++ zs', List.rel_append hzs hzs', hsub.append hsub'⟩

end Lib
