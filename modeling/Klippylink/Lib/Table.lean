import Mathlib.Data.List.Basic

/-!
# Tables of fixed capacity, searched from the front

A `Table α n` is the used part of an array of `n` rows: the rows in order, with
the proof that they fit.  Code over such an array searches it from row zero and
takes the first row that matches, so every lookup here is a *first* match, and
the lemmas say what a row has to satisfy to be the one that is found.

## Main definitions

* `Table α n` — at most `n` rows.
* `Table.firstIdx`, `Table.find` — the first match, as an index and as a row.
* `Table.push` — a row at the end, if one is free.
* `Table.modifyAt`, `Table.modifyFirst` — update one row in place.
* `Table.removeFirst` — drop the first match and close the gap.
* `initLoop` — a loop of initialisations that carries on after a failure.
-/

namespace Lib

universe u

/-- The used rows of an array of `n`. -/
structure Table (α : Type u) (n : ℕ) where
  /-- The rows in use, in order. -/
  rows : List α
  /-- They fit the array. -/
  fits : rows.length ≤ n
  deriving DecidableEq

namespace Table

variable {α : Type u} {n : ℕ}

/-- No row in use. -/
def empty : Table α n := ⟨[], Nat.zero_le n⟩

/-- The number of rows in use. -/
def count (t : Table α n) : ℕ := t.rows.length

/-- The index of the first row that satisfies `p`. -/
def firstIdx (t : Table α n) (p : α → Bool) : Option ℕ := t.rows.findIdx? p

/-- The first row that satisfies `p`. -/
def find (t : Table α n) (p : α → Bool) : Option α := t.rows.find? p

/-- A row at the end; `none` when the array is full. -/
def push (t : Table α n) (a : α) : Option (Table α n) :=
  if h : t.rows.length < n then
    some ⟨t.rows ++ [a], by rw [List.length_append]; exact h⟩
  else none

/-- Update row `i`, if it is in use. -/
def modifyAt (t : Table α n) (i : ℕ) (f : α → α) : Table α n :=
  ⟨t.rows.modify i f, by rw [List.length_modify]; exact t.fits⟩

/-- Update the first row that satisfies `p`. -/
def modifyFirst (t : Table α n) (p : α → Bool) (f : α → α) : Table α n :=
  match t.firstIdx p with
  | none => t
  | some i => t.modifyAt i f

/-- Drop the first row that satisfies `p`; the later rows move up by one. -/
def removeFirst (t : Table α n) (p : α → Bool) : Table α n :=
  ⟨t.rows.eraseP p, Nat.le_trans List.length_eraseP_le t.fits⟩

/-! ## Lookups -/

theorem firstIdx_eq_some {t : Table α n} {p : α → Bool} {i : ℕ} :
    t.firstIdx p = some i ↔
      (∃ a, t.rows[i]? = some a ∧ p a = true) ∧
        ∀ j < i, ∀ a, t.rows[j]? = some a → p a = false := by
  rw [firstIdx, List.findIdx?_eq_some_iff_getElem]
  constructor
  · rintro ⟨hi, hp, hmin⟩
    refine ⟨⟨t.rows[i], List.getElem?_eq_getElem hi, hp⟩, ?_⟩
    intro j hj a ha
    have hjl : j < t.rows.length := by omega
    rw [List.getElem?_eq_getElem hjl] at ha
    cases ha
    simpa using hmin j hj
  · rintro ⟨⟨a, ha, hp⟩, hmin⟩
    obtain ⟨hi, rfl⟩ := List.getElem?_eq_some_iff.mp ha
    refine ⟨hi, hp, ?_⟩
    intro j hj
    simp [hmin j hj _ (List.getElem?_eq_getElem (by omega))]

theorem firstIdx_eq_none {t : Table α n} {p : α → Bool} :
    t.firstIdx p = none ↔ ∀ (i : ℕ) (a : α), t.rows[i]? = some a → p a = false := by
  rw [firstIdx, List.findIdx?_eq_none_iff]
  constructor
  · intro h i a ha
    exact h a (List.mem_of_getElem? ha)
  · intro h a ha
    obtain ⟨i, hi⟩ := List.getElem?_of_mem ha
    exact h i a hi

/-- The row at a first match. -/
theorem row_of_firstIdx {t : Table α n} {p : α → Bool} {i : ℕ} (h : t.firstIdx p = some i) :
    ∃ a, t.rows[i]? = some a ∧ p a = true :=
  (firstIdx_eq_some.mp h).1

/-! ## Updates -/

@[simp] theorem getElem?_modifyAt (t : Table α n) (i j : ℕ) (f : α → α) :
    (t.modifyAt i f).rows[j]? = if i = j then t.rows[j]?.map f else t.rows[j]? := by
  by_cases h : i = j <;> simp [modifyAt, h]

/-- Only the first match is updated. -/
theorem getElem?_modifyFirst (t : Table α n) (p : α → Bool) (f : α → α) (j : ℕ) :
    (t.modifyFirst p f).rows[j]? =
      if t.firstIdx p = some j then t.rows[j]?.map f else t.rows[j]? := by
  rw [modifyFirst]
  cases t.firstIdx p with
  | none => simp
  | some i => simp

theorem push_eq_some {t t' : Table α n} {a : α} :
    t.push a = some t' ↔ t.rows.length < n ∧ t'.rows = t.rows ++ [a] := by
  rw [push]
  by_cases h : t.rows.length < n
  · cases t'
    simp [h, eq_comm]
  · simp [h]

theorem push_eq_none {t : Table α n} {a : α} : t.push a = none ↔ t.rows.length = n := by
  have := t.fits
  rw [push]
  by_cases h : t.rows.length < n
  · simp [h]
    omega
  · simp [h]
    omega

end Table

/-! ## Rows that match -/

section Matches

variable {α β : Type*}

/-- A loop over the indices of a list is a loop over its elements. -/
theorem flatMap_range_getElem? (l : List α) (f : Option α → List β) :
    ((List.range l.length).flatMap fun k => f l[k]?) = l.flatMap fun a => f (some a) := by
  induction l with
  | nil => rfl
  | cons a l ih =>
      rw [List.length_cons, List.range_succ_eq_map, List.flatMap_cons, List.flatMap_map,
        List.flatMap_cons, ← ih]
      rfl

/-- A loop that does the same for every match is a loop over the matches. -/
theorem flatMap_ite (l : List α) (p : α → Bool) (bs : List β) :
    (l.flatMap fun a => if p a then bs else []) = (l.filter p).flatMap fun _ => bs := by
  induction l with
  | nil => rfl
  | cons a l ih => cases h : p a <;> simp [h, ih]

/-- Two matches are at least two. -/
theorem two_le_length_filter {l : List α} {p : α → Bool} {i j : ℕ} {a b : α} (hij : i < j)
    (hi : l[i]? = some a) (hj : l[j]? = some b) (ha : p a = true) (hb : p b = true) :
    2 ≤ (l.filter p).length := by
  have hfirst : a ∈ (l.take j).filter p := by
    refine List.mem_filter.mpr ⟨List.mem_of_getElem? (i := i) ?_, ha⟩
    rw [List.getElem?_take_of_lt hij, hi]
  have hsecond : b ∈ (l.drop j).filter p := by
    refine List.mem_filter.mpr ⟨List.mem_of_getElem? (i := 0) ?_, hb⟩
    rw [List.getElem?_drop, Nat.add_zero, hj]
  have h₁ := List.length_pos_of_mem hfirst
  have h₂ := List.length_pos_of_mem hsecond
  rw [← List.take_append_drop j l, List.filter_append, List.length_append]
  omega

/-- Matches at one index only are at most one. -/
theorem length_filter_le_one {l : List α} {p : α → Bool}
    (h : ∀ (i j : ℕ) a b, l[i]? = some a → l[j]? = some b → p a = true → p b = true → i = j) :
    (l.filter p).length ≤ 1 := by
  induction l with
  | nil => exact Nat.zero_le 1
  | cons a l ih =>
      cases ha : p a with
      | true =>
          have hnil : l.filter p = [] := by
            rw [List.filter_eq_nil_iff]
            intro b hb hpb
            obtain ⟨j, hj⟩ := List.getElem?_of_mem hb
            have := h 0 (j + 1) a b rfl hj ha hpb
            omega
          rw [List.filter_cons_of_pos ha, hnil]
          exact Nat.le_refl 1
      | false =>
          rw [List.filter_cons_of_neg (by simp [ha])]
          refine ih fun i j b c hb hc hpb hpc => ?_
          have := h (i + 1) (j + 1) b c hb hc hpb hpc
          omega

end Matches

/-! ## Filling a table by attempts -/

section InitLoop

variable {α β ε σ ι : Type*}

/-- `for (i = ...)` over some items, where each initialisation may fail: the state,
and what each item was given. -/
def initLoop (init : σ → ℕ → α → Except ε (σ × ι)) : ℕ → List α → σ → σ × List (Option ι)
  | _, [], s => (s, [])
  | i, a :: as, s =>
      match init s i a with
      | .error _ =>
          let rest := initLoop init (i + 1) as s
          (rest.1, none :: rest.2)
      | .ok (s, given) =>
          let rest := initLoop init (i + 1) as s
          (rest.1, some given :: rest.2)

/-- An initialisation that, when the device answers, takes the next row of a table and
gives out its index. -/
structure TakesNextRow (rows : σ → List β) (n : ℕ) (init : σ → ℕ → α → Except ε (σ × ℕ))
    (ok : ℕ → Prop) (row : α → β) : Prop where
  taken : ∀ s i a, ok i → (rows s).length < n →
    ∃ s', init s i a = .ok (s', (rows s).length) ∧ rows s' = rows s ++ [row a]
  failed : ∀ s i a, ¬ ok i → ∃ e, init s i a = .error e

variable {rows : σ → List β} {n : ℕ} {init : σ → ℕ → α → Except ε (σ × ℕ)} {ok : ℕ → Prop}
  {row : α → β}

/-- A row that is taken stays. -/
theorem initLoop_rows_prefix (h : TakesNextRow rows n init ok row) (as : List α) (i : ℕ) (s : σ)
    (hroom : (rows s).length + as.length ≤ n) : rows s <+: rows (initLoop init i as s).1 := by
  induction as generalizing i s with
  | nil => exact ⟨[], List.append_nil _⟩
  | cons a as ih =>
      rw [List.length_cons] at hroom
      by_cases hok : ok i
      · obtain ⟨s', hinit, hrows⟩ := h.taken s i a hok (by omega)
        have hlen : (rows s').length = (rows s).length + 1 := by
          rw [hrows, List.length_append, List.length_singleton]
        obtain ⟨more, hmore⟩ := ih (i + 1) s' (by omega)
        refine ⟨row a :: more, ?_⟩
        simp only [initLoop, hinit]
        rw [← hmore, hrows, List.append_assoc, List.singleton_append]
      · obtain ⟨e, hinit⟩ := h.failed s i a hok
        simp only [initLoop, hinit]
        exact ih (i + 1) s (by omega)

/-- Every row that was not there before is that of an item. -/
theorem mem_initLoop (h : TakesNextRow rows n init ok row) (as : List α) (i : ℕ) (s : σ)
    (hroom : (rows s).length + as.length ≤ n) {b : β} (hb : b ∈ rows (initLoop init i as s).1) :
    b ∈ rows s ∨ ∃ a ∈ as, b = row a := by
  induction as generalizing i s with
  | nil => exact .inl hb
  | cons a as ih =>
      rw [List.length_cons] at hroom
      by_cases hok : ok i
      · obtain ⟨s', hinit, hrows⟩ := h.taken s i a hok (by omega)
        have hlen : (rows s').length = (rows s).length + 1 := by
          rw [hrows, List.length_append, List.length_singleton]
        simp only [initLoop, hinit] at hb
        rcases ih (i + 1) s' (by omega) hb with hold | ⟨a', ha', rfl⟩
        · rw [hrows, List.mem_append, List.mem_singleton] at hold
          exact hold.imp_right fun hnew => ⟨a, List.mem_cons_self, hnew⟩
        · exact .inr ⟨a', List.mem_cons_of_mem a ha', rfl⟩
      · obtain ⟨e, hinit⟩ := h.failed s i a hok
        simp only [initLoop, hinit] at hb
        refine (ih (i + 1) s (by omega) hb).imp_right ?_
        rintro ⟨a', ha', rfl⟩
        exact ⟨a', List.mem_cons_of_mem a ha', rfl⟩

/-- No more rows are taken than there are items. -/
theorem length_initLoop_le (h : TakesNextRow rows n init ok row) (as : List α) (i : ℕ) (s : σ)
    (hroom : (rows s).length + as.length ≤ n) :
    (rows (initLoop init i as s).1).length ≤ (rows s).length + as.length := by
  induction as generalizing i s with
  | nil => exact Nat.le_refl _
  | cons a as ih =>
      rw [List.length_cons] at hroom ⊢
      by_cases hok : ok i
      · obtain ⟨s', hinit, hrows⟩ := h.taken s i a hok (by omega)
        have hlen : (rows s').length = (rows s).length + 1 := by
          rw [hrows, List.length_append, List.length_singleton]
        have hrest := ih (i + 1) s' (by omega)
        simp only [initLoop, hinit]
        omega
      · obtain ⟨e, hinit⟩ := h.failed s i a hok
        have hrest := ih (i + 1) s (by omega)
        simp only [initLoop, hinit]
        omega

/-- **What an item is given.**  An item whose device fails is given nothing; any other
is given the index of its row, which is its place in the list exactly when no device
before it failed. -/
theorem initLoop_given (h : TakesNextRow rows n init ok row) (as : List α) (i : ℕ) (s : σ)
    (hroom : (rows s).length + as.length ≤ n) (p : ℕ) (a : α) (ha : as[p]? = some a) :
    (¬ ok (i + p) → (initLoop init i as s).2[p]? = some none) ∧
      (ok (i + p) → ∃ k, (initLoop init i as s).2[p]? = some (some k) ∧
        (rows (initLoop init i as s).1)[k]? = some (row a) ∧ k ≤ (rows s).length + p ∧
        (k = (rows s).length + p ↔ ∀ j < p, ok (i + j))) := by
  induction as generalizing i s p with
  | nil => cases ha
  | cons b as ih =>
      rw [List.length_cons] at hroom
      by_cases hok : ok i
      · obtain ⟨s', hinit, hrows⟩ := h.taken s i b hok (by omega)
        have hlen : (rows s').length = (rows s).length + 1 := by
          rw [hrows, List.length_append, List.length_singleton]
        simp only [initLoop, hinit]
        cases p with
        | zero =>
            cases ha
            refine ⟨fun hno => absurd hok hno, fun _ =>
              ⟨(rows s).length, rfl, ?_, Nat.le_refl _, ?_⟩⟩
            · obtain ⟨more, hmore⟩ := initLoop_rows_prefix h as (i + 1) s' (by omega)
              rw [← hmore, hrows]
              simp
            · exact iff_of_true rfl fun j hj => absurd hj (Nat.not_lt_zero j)
        | succ p =>
            have hindex : i + (p + 1) = i + 1 + p := by omega
            obtain ⟨hno, hyes⟩ := ih (i + 1) s' (by omega) p ha
            rw [hindex]
            refine ⟨hno, fun hp => ?_⟩
            obtain ⟨k, hk, hrow, hle, hiff⟩ := hyes hp
            refine ⟨k, hk, hrow, by omega, ?_⟩
            have hplace : (rows s).length + (p + 1) = (rows s').length + p := by omega
            rw [hplace, hiff]
            constructor
            · intro hall j hj
              cases j with
              | zero => exact hok
              | succ j =>
                  have := hall j (by omega)
                  rwa [show i + 1 + j = i + (j + 1) by omega] at this
            · intro hall j hj
              rw [show i + 1 + j = i + (j + 1) by omega]
              exact hall (j + 1) (by omega)
      · obtain ⟨e, hinit⟩ := h.failed s i b hok
        simp only [initLoop, hinit]
        cases p with
        | zero => exact ⟨fun _ => rfl, fun hyes => absurd hyes hok⟩
        | succ p =>
            have hindex : i + (p + 1) = i + 1 + p := by omega
            obtain ⟨hno, hyes⟩ := ih (i + 1) s (by omega) p ha
            rw [hindex]
            refine ⟨hno, fun hp => ?_⟩
            obtain ⟨k, hk, hrow, hle, -⟩ := hyes hp
            -- the failure leaves every later index one short
            exact ⟨k, hk, hrow, by omega, iff_of_false (by omega)
              fun hall => hok (hall 0 (Nat.succ_pos p))⟩

/-- The row of an index that was given out. -/
theorem initLoop_row (h : TakesNextRow rows n init ok row) (as : List α) {s : σ}
    (hs : rows s = []) (hroom : as.length ≤ n) {p k : ℕ} {a : α} (ha : as[p]? = some a)
    (hk : (initLoop init 0 as s).2[p]? = some (some k)) :
    (rows (initLoop init 0 as s).1)[k]? = some (row a) := by
  obtain ⟨hno, hyes⟩ := initLoop_given h as 0 s (by simpa [hs]) p a ha
  by_cases hok : ok (0 + p)
  · obtain ⟨k', hk', hrow, -⟩ := hyes hok
    rw [hk] at hk'
    cases hk'
    exact hrow
  · rw [hno hok] at hk
    cases hk

/-- **Indices are places exactly when the devices that fail come last.** -/
theorem initLoop_index_eq_place_iff (h : TakesNextRow rows n init ok row) (as : List α) {s : σ}
    (hs : rows s = []) (hroom : as.length ≤ n) :
    (∀ p < as.length, ok p → (initLoop init 0 as s).2[p]? = some (some p)) ↔
      ∀ p < as.length, ok p → ∀ j < p, ok j := by
  have hgiven := fun p hp => initLoop_given h as 0 s (by simpa [hs]) p _
    (List.getElem?_eq_getElem (l := as) (i := p) hp)
  simp only [Nat.zero_add, hs, List.length_nil] at hgiven
  constructor
  · intro hplaces p hp hok
    obtain ⟨k, hk, -, -, hiff⟩ := (hgiven p hp).2 hok
    have hplace := hplaces p hp hok
    rw [hk] at hplace
    exact hiff.mp (Option.some.inj (Option.some.inj hplace))
  · intro hlast p hp hok
    obtain ⟨k, hk, -, -, hiff⟩ := (hgiven p hp).2 hok
    rw [hk, hiff.mpr (hlast p hp hok)]

end InitLoop
end Lib
