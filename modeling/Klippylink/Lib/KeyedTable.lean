import Klippylink.Lib.Table
import Mathlib.Data.Finmap

/-!
# Tables whose rows have keys

A table whose rows have different keys is a finite map, kept in an array.  `Holds` says that a
table holds the entries of a map: every key is found in the one as in the other.  The order of
the rows is not part of the map, so closing a gap after a removal does not show in it.

## Main definitions

* `Table.Holds` — a table holds the entries of a finite map.
-/

namespace Lib
namespace Table

universe u v

variable {α : Type u} {κ : Type v} [DecidableEq κ] {n : ℕ}

/-- The table holds the entries of the map, each in a row of its own. -/
structure Holds (key : α → κ) (t : Table α n) (m : Finmap fun _ : κ => α) : Prop where
  /-- No two rows have the same key. -/
  keyed : (t.rows.map key).Nodup
  find_eq : ∀ k, t.find (fun a => key a = k) = m.lookup k

/-! ## The rows -/

/-- When keys are different, removing the first row of a key removes all of them. -/
theorem eraseP_key_eq_filter {key : α → κ} {rows : List α} (h : (rows.map key).Nodup) (k : κ) :
    rows.eraseP (fun a => key a = k) = rows.filter fun a => key a ≠ k := by
  induction rows with
  | nil => rfl
  | cons a rows ih =>
      rw [List.map_cons, List.nodup_cons] at h
      by_cases hk : key a = k
      · rw [List.eraseP_cons_of_pos (by simpa using hk),
          List.filter_cons_of_neg (by simpa using hk), eq_comm, List.filter_eq_self]
        intro b hb
        have hne : key b ≠ key a := fun heq => h.1 (heq ▸ List.mem_map_of_mem hb)
        simpa [← hk] using hne
      · rw [List.eraseP_cons_of_neg (by simpa using hk),
          List.filter_cons_of_pos (by simpa using hk), ih h.2]

theorem rows_removeFirst_key {key : α → κ} {t : Table α n} (h : (t.rows.map key).Nodup) (k : κ) :
    (t.removeFirst fun a => key a = k).rows = t.rows.filter fun a => key a ≠ k :=
  eraseP_key_eq_filter h k

/-- When keys are different, replacing the first row of a key replaces every row of it. -/
theorem rows_modifyFirst_key {key : α → κ} {t : Table α n} (h : (t.rows.map key).Nodup) (k : κ)
    (a : α) :
    (t.modifyFirst (fun b => key b = k) fun _ => a).rows =
      t.rows.map fun b => if key b = k then a else b := by
  apply List.ext_getElem?
  intro j
  rw [getElem?_modifyFirst, List.getElem?_map]
  cases hrow : t.rows[j]? with
  | none => simp
  | some b =>
      by_cases hb : key b = k
      · have hfirst : t.firstIdx (fun b => key b = k) = some j := by
          rw [firstIdx_eq_some]
          refine ⟨⟨b, hrow, by simpa using hb⟩, fun i hi c hc => ?_⟩
          have hne : key c ≠ key b := by
            intro heq
            have hi' : (t.rows.map key)[i]? = some (key b) := by simp [hc, heq]
            have hj' : (t.rows.map key)[j]? = some (key b) := by simp [hrow]
            have hlt : i < (t.rows.map key).length := (List.getElem?_eq_some_iff.mp hi').1
            exact hi.ne ((List.getElem?_inj hlt h).mp (hi'.trans hj'.symm))
          simpa [← hb] using hne
        simp [hfirst, hb]
      · have hmiss : t.firstIdx (fun b => key b = k) ≠ some j := by
          intro hfirst
          obtain ⟨c, hc, hck⟩ := row_of_firstIdx hfirst
          rw [hrow] at hc
          cases hc
          exact hb (of_decide_eq_true hck)
        simp [hmiss, hb]

namespace Holds

variable {key : α → κ} {t t' : Table α n} {m : Finmap fun _ : κ => α} {a : α} {k : κ}

/-- An entry is under its own key. -/
theorem key_eq (h : Holds key t m) (hk : m.lookup k = some a) : key a = k := by
  rw [← h.find_eq] at hk
  simpa using List.find?_some hk

/-- The keys of the map are those of the rows. -/
theorem keys_eq (h : Holds key t m) : m.keys = (t.rows.map key).toFinset := by
  ext k
  rw [Finmap.mem_keys, ← Finmap.lookup_isSome, ← h.find_eq, find, List.find?_isSome]
  simp

/-- The table has as many rows as the map has keys. -/
theorem card_keys (h : Holds key t m) : m.keys.card = t.count := by
  rw [h.keys_eq, List.toFinset_card_of_nodup h.keyed, List.length_map, count]

/-! ## The operations -/

theorem empty : Holds key (Table.empty : Table α n) ∅ where
  keyed := List.nodup_nil
  find_eq _ := rfl

/-- A new row is a new entry. -/
theorem push (h : Holds key t m) (hpush : t.push a = some t') (hnew : key a ∉ m) :
    Holds key t' (m.insert (key a) a) := by
  obtain ⟨-, hrows⟩ := push_eq_some.mp hpush
  refine ⟨?_, fun k => ?_⟩
  · rw [hrows, List.map_append, List.nodup_append]
    refine ⟨h.keyed, by simp, ?_⟩
    rintro k hk _ hk' rfl
    rw [List.map_singleton, List.mem_singleton] at hk'
    apply hnew
    rw [← Finmap.mem_keys, h.keys_eq, List.mem_toFinset, ← hk']
    exact hk
  · have hold := h.find_eq k
    rw [find] at hold ⊢
    rw [hrows, List.find?_append, hold]
    by_cases hk : key a = k
    · subst hk
      rw [Finmap.lookup_eq_none.mpr hnew, Finmap.lookup_insert]
      simp
    · rw [Finmap.lookup_insert_of_ne m (Ne.symm hk)]
      simp [hk]

/-- A table is full when the map has as many keys as there are rows. -/
theorem push_eq_none (h : Holds key t m) : t.push a = none ↔ m.keys.card = n := by
  rw [h.card_keys, Table.push_eq_none, count]

/-- Removing the row of a key erases the entry. -/
theorem removeFirst (h : Holds key t m) (k : κ) :
    Holds key (t.removeFirst fun a => key a = k) (m.erase k) := by
  have hrows := rows_removeFirst_key h.keyed k
  refine ⟨?_, fun k' => ?_⟩
  · rw [hrows]
    exact h.keyed.sublist (List.filter_sublist.map _)
  · have hold := h.find_eq k'
    rw [find] at hold ⊢
    rw [hrows, List.find?_filter]
    by_cases hk : k' = k
    · subst hk
      rw [Finmap.lookup_erase, List.find?_eq_none]
      simp
    · rw [Finmap.lookup_erase_ne hk, ← hold]
      congr 1
      funext a
      by_cases ha : key a = k'
      · simp [ha, hk]
      · simp [ha]

/-- Replacing the row of a key, by a row with that key, replaces the entry. -/
theorem modifyFirst (h : Holds key t m) (hk : k ∈ m) (ha : key a = k) :
    Holds key (t.modifyFirst (fun b => key b = k) fun _ => a) (m.insert k a) := by
  have hrows := rows_modifyFirst_key h.keyed k a
  have hkey : ∀ b, key (if key b = k then a else b) = key b := by
    intro b
    by_cases hb : key b = k
    · rw [if_pos hb, ha, hb]
    · rw [if_neg hb]
  refine ⟨?_, fun k' => ?_⟩
  · rw [hrows, List.map_map]
    have hsame : key ∘ (fun b => if key b = k then a else b) = key := funext hkey
    rw [hsame]
    exact h.keyed
  · have hold := h.find_eq k'
    rw [find] at hold ⊢
    have hpred : (fun b => decide (key b = k')) ∘ (fun b => if key b = k then a else b) =
        fun b => decide (key b = k') := by
      funext b
      simp only [Function.comp_apply, hkey]
    rw [hrows, List.find?_map, hpred, hold]
    by_cases hkk : k' = k
    · subst hkk
      obtain ⟨b, hb⟩ := Finmap.mem_iff.mp hk
      rw [Finmap.lookup_insert, hb, Option.map_some, if_pos (h.key_eq hb)]
    · rw [Finmap.lookup_insert_of_ne m hkk]
      cases hb : m.lookup k' with
      | none => rfl
      | some b =>
          have hne : key b ≠ k := by
            rw [h.key_eq hb]
            exact hkk
          rw [Option.map_some, if_neg hne]

end Holds
end Table
end Lib
