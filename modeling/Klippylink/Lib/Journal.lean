import Mathlib.Data.Set.BooleanAlgebra
import Mathlib.Logic.Function.Basic
import Mathlib.Order.CompletePartialOrder

/-!
# Journals of writes

A journal is a list of writes, each a key and a value; replaying it over a table gives
every key the value of the last write to it, and leaves the keys that were not written
as they were.

A journal is often put together from blocks, each of which writes in an area of its own.
Where the areas are disjoint the blocks do not see each other: what a key becomes is what
the block of its area makes of it alone, whatever the order of the blocks.

## Main definitions

* `replay` — the table after the writes of a journal.
* `Within` — a journal writes in an area only.
-/

namespace Lib

universe u v w
variable {κ : Type u} {β : Type v} {γ : Type w} [DecidableEq κ]

/-- The table after the writes of a journal. -/
def replay (f : κ → β) (journal : List (κ × β)) : κ → β :=
  journal.foldl (fun f w => Function.update f w.1 w.2) f

@[simp] theorem replay_nil (f : κ → β) : replay f [] = f := rfl

theorem replay_cons (f : κ → β) (w : κ × β) (journal : List (κ × β)) :
    replay f (w :: journal) = replay (Function.update f w.1 w.2) journal := rfl

theorem replay_append (f : κ → β) (first later : List (κ × β)) :
    replay f (first ++ later) = replay (replay f first) later := List.foldl_append

/-- The last write decides about its key, and about no other. -/
theorem replay_concat (f : κ → β) (journal : List (κ × β)) (k : κ) (v : β) (i : κ) :
    replay f (journal ++ [(k, v)]) i = if i = k then v else replay f journal i := by
  rw [replay_append]
  exact Function.update_apply _ _ _ _

/-- A key is written without regard to the others. -/
theorem replay_congr {f g : κ → β} (journal : List (κ × β)) {i : κ} (h : f i = g i) :
    replay f journal i = replay g journal i := by
  induction journal generalizing f g with
  | nil => exact h
  | cons w journal ih =>
      rw [replay_cons, replay_cons]
      apply ih
      rw [Function.update_apply, Function.update_apply, h]

/-- A key that is not written is as it was. -/
theorem replay_of_forall_ne (f : κ → β) {journal : List (κ × β)} {i : κ}
    (h : ∀ w ∈ journal, w.1 ≠ i) : replay f journal i = f i := by
  induction journal generalizing f with
  | nil => rfl
  | cons w journal ih =>
      obtain ⟨hw, hrest⟩ := List.forall_mem_cons.mp h
      rw [replay_cons, ih _ hrest, Function.update_of_ne hw.symm]

/-- A key is as it was, or has a value that was written. -/
theorem replay_eq_or_mem (f : κ → β) (journal : List (κ × β)) (i : κ) :
    replay f journal i = f i ∨ (i, replay f journal i) ∈ journal := by
  induction journal generalizing f with
  | nil => exact .inl rfl
  | cons w journal ih =>
      rw [replay_cons]
      rcases ih (Function.update f w.1 w.2) with h | h
      · rw [h, Function.update_apply]
        split
        · next heq => exact .inr (by rw [heq]; exact List.mem_cons_self)
        · exact .inl rfl
      · exact .inr (List.mem_cons_of_mem _ h)

/-- A key that is written, and given one value only, has it. -/
theorem replay_of_key (f : κ → β) {journal : List (κ × β)} {k : κ} {v : β}
    (hmem : (k, v) ∈ journal) (h : ∀ w ∈ journal, w.1 = k → w.2 = v) : replay f journal k = v := by
  induction journal generalizing f with
  | nil => cases hmem
  | cons w journal ih =>
      obtain ⟨hw, hrest⟩ := List.forall_mem_cons.mp h
      rw [replay_cons]
      by_cases hlater : (k, v) ∈ journal
      · exact ih _ hlater hrest
      · rcases List.mem_cons.mp hmem with rfl | hlater'
        · rw [replay_of_forall_ne, Function.update_self]
          intro w' hw' heq
          exact hlater (by rw [← heq, ← hrest w' hw' heq]; exact hw')
        · exact absurd hlater' hlater

/-- Where all values are one, every key that is written has it. -/
theorem replay_of_forall_value (f : κ → β) {journal : List (κ × β)} {k : κ} {v : β}
    (hmem : (k, v) ∈ journal) (h : ∀ w ∈ journal, w.2 = v) : replay f journal k = v :=
  replay_of_key f hmem fun w hw _ => h w hw

/-! ### Blocks with areas of their own -/

/-- A journal writes in an area only. -/
def Within (area : Set κ) (journal : List (κ × β)) : Prop := ∀ w ∈ journal, w.1 ∈ area

theorem replay_of_notMem (f : κ → β) {area : Set κ} {journal : List (κ × β)}
    (h : Within area journal) {i : κ} (hi : i ∉ area) : replay f journal i = f i :=
  replay_of_forall_ne f fun w hw heq => hi (heq ▸ h w hw)

variable {ι : Type w} {blocks : ι → List (κ × β)} {area : ι → Set κ}

theorem replay_flatMap_of_notMem (f : κ → β) (hwithin : ∀ i, Within (area i) (blocks i))
    {order : List ι} {k : κ} (hk : ∀ i ∈ order, k ∉ area i) :
    replay f (order.flatMap blocks) k = f k := by
  refine replay_of_forall_ne f fun w hw heq => ?_
  obtain ⟨i, hi, hmem⟩ := List.mem_flatMap.mp hw
  exact hk i hi (heq ▸ hwithin i w hmem)

/-- **A key becomes what the block of its area makes of it alone.** -/
theorem replay_flatMap_of_mem (f : κ → β) (hwithin : ∀ i, Within (area i) (blocks i))
    (hdisjoint : ∀ i j, i ≠ j → Disjoint (area i) (area j)) {order : List ι}
    (hnodup : order.Nodup) {i : ι} (hi : i ∈ order) {k : κ} (hk : k ∈ area i) :
    replay f (order.flatMap blocks) k = replay f (blocks i) k := by
  induction order generalizing f with
  | nil => cases hi
  | cons j order ih =>
      have hnot : j ∉ order := (List.nodup_cons.mp hnodup).1
      rw [List.flatMap_cons, replay_append]
      rcases List.mem_cons.mp hi with rfl | hi
      · -- the later blocks write elsewhere
        refine replay_flatMap_of_notMem _ hwithin fun j hj => ?_
        exact Set.disjoint_left.mp (hdisjoint i j fun heq => hnot (heq ▸ hj)) hk
      · rw [ih (replay f (blocks j)) (List.nodup_cons.mp hnodup).2 hi]
        apply replay_congr
        have hne : i ≠ j := fun heq => hnot (heq ▸ hi)
        exact replay_of_notMem f (hwithin j) (Set.disjoint_left.mp (hdisjoint i j hne) hk)

/-- **The order of the blocks does not matter.** -/
theorem replay_flatMap_perm (f : κ → β) (hwithin : ∀ i, Within (area i) (blocks i))
    (hdisjoint : ∀ i j, i ≠ j → Disjoint (area i) (area j)) {order order' : List ι}
    (hnodup : order.Nodup) (hperm : order'.Perm order) :
    replay f (order'.flatMap blocks) = replay f (order.flatMap blocks) := by
  have hnodup' : order'.Nodup := hperm.nodup_iff.mpr hnodup
  funext k
  by_cases hk : ∃ i ∈ order, k ∈ area i
  · obtain ⟨i, hi, hmem⟩ := hk
    rw [replay_flatMap_of_mem f hwithin hdisjoint hnodup hi hmem,
      replay_flatMap_of_mem f hwithin hdisjoint hnodup' (hperm.mem_iff.mpr hi) hmem]
  · have hnone : ∀ i ∈ order, k ∉ area i := fun i hi hmem => hk ⟨i, hi, hmem⟩
    rw [replay_flatMap_of_notMem f hwithin hnone,
      replay_flatMap_of_notMem f hwithin fun i hi => hnone i (hperm.mem_iff.mp hi)]

end Lib
