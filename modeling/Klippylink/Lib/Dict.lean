import Mathlib.Data.List.Forall2
import Mathlib.Data.List.Nodup

/-!
# Dictionaries

A dictionary is its entries in insertion order, with distinct keys.  Writing a key that
is there keeps its place; writing a new key puts it last.

## Main definitions

* `Dict` — a dictionary.
* `Dict.get`, `Dict.put`, `Dict.pop` — reading, writing and removing a key.
* `Dict.Ascends` — the keys ascend.
* `Dict.Match` — two dictionaries hold the same, entry by entry.
-/

namespace Lib

universe u v

/-- A dictionary: its entries in insertion order. -/
structure Dict (κ : Type u) (β : Type v) where
  entries : List (κ × β)
  distinct : (entries.map Prod.fst).Nodup

namespace Dict

variable {κ : Type u} {β : Type v} [DecidableEq κ]

/-- No entry. -/
def empty : Dict κ β := ⟨[], List.nodup_nil⟩

/-- The value of a key. -/
def get (d : Dict κ β) (k : κ) : Option β := (d.entries.find? fun e => e.1 = k).map Prod.snd

/-- The entries after a key is written. -/
def putEntries (entries : List (κ × β)) (k : κ) (v : β) : List (κ × β) :=
  if k ∈ entries.map Prod.fst then entries.map fun e => if e.1 = k then (k, v) else e
  else entries ++ [(k, v)]

theorem keys_map_put (entries : List (κ × β)) (k : κ) (v : β) :
    (entries.map fun e => if e.1 = k then (k, v) else e).map Prod.fst = entries.map Prod.fst := by
  rw [List.map_map]
  apply List.map_congr_left
  intro e _
  simp only [Function.comp_apply]
  split
  · next heq => exact heq.symm
  · rfl

theorem nodup_putEntries {entries : List (κ × β)} (h : (entries.map Prod.fst).Nodup) (k : κ)
    (v : β) : ((putEntries entries k v).map Prod.fst).Nodup := by
  rw [putEntries]
  split
  · rw [keys_map_put]
    exact h
  · next hnew =>
      rw [List.map_append, List.nodup_append]
      refine ⟨h, List.nodup_singleton _, ?_⟩
      rintro a ha b hb rfl
      have hb : a = k := by simpa using hb
      exact hnew (hb ▸ ha)

/-- `d[k] = v`. -/
def put (d : Dict κ β) (k : κ) (v : β) : Dict κ β :=
  ⟨putEntries d.entries k v, nodup_putEntries d.distinct k v⟩

/-- `d.pop(k, None)`. -/
def pop (d : Dict κ β) (k : κ) : Dict κ β :=
  ⟨d.entries.filter fun e => e.1 ≠ k, (List.filter_sublist.map Prod.fst).nodup d.distinct⟩

/-- `d.values()`. -/
def values (d : Dict κ β) : List β := d.entries.map Prod.snd

@[simp] theorem get_empty (k : κ) : (empty : Dict κ β).get k = none := rfl

/-- An entry is the value of its key. -/
theorem get_eq_some {d : Dict κ β} {k : κ} {v : β} : d.get k = some v ↔ (k, v) ∈ d.entries := by
  obtain ⟨entries, hdistinct⟩ := d
  simp only [get]
  induction entries with
  | nil => simp
  | cons e entries ih =>
      rw [List.map_cons, List.nodup_cons] at hdistinct
      rw [List.find?_cons, List.mem_cons]
      by_cases hk : e.1 = k
      · subst hk
        have hrest : (e.1, v) ∉ entries := fun hmem =>
          hdistinct.1 (List.mem_map.mpr ⟨_, hmem, rfl⟩)
        simp [hrest, Prod.ext_iff, eq_comm]
      · have hne : (k, v) ≠ e := fun heq => hk (congrArg Prod.fst heq).symm
        simp only [hk, decide_false]
        rw [ih hdistinct.2]
        simp [hne]

/-- Writing a key changes its value and no other. -/
theorem get_put (d : Dict κ β) (k : κ) (v : β) (i : κ) :
    (d.put k v).get i = if i = k then some v else d.get i := by
  have hmem : ∀ u, (i, u) ∈ (d.put k v).entries ↔ if i = k then u = v else (i, u) ∈ d.entries := by
    intro u
    simp only [put, putEntries]
    split
    · next hold =>
        obtain ⟨e, he, hek⟩ := List.mem_map.mp hold
        rw [List.mem_map]
        by_cases hik : i = k
        · rw [if_pos hik]
          constructor
          · rintro ⟨e', -, heq⟩
            split at heq
            · exact (congrArg Prod.snd heq).symm
            · next hne => exact absurd ((congrArg Prod.fst heq).trans hik) hne
          · rintro rfl
            exact ⟨e, he, by rw [if_pos hek, hik]⟩
        · rw [if_neg hik]
          constructor
          · rintro ⟨e', he', heq⟩
            split at heq
            · exact absurd (congrArg Prod.fst heq).symm hik
            · rwa [← heq]
          · intro hu
            exact ⟨_, hu, if_neg hik⟩
    · next hnew =>
        rw [List.mem_append, List.mem_singleton, Prod.mk.injEq]
        by_cases hik : i = k
        · have hno : (i, u) ∉ d.entries := fun hu =>
            hnew (List.mem_map.mpr ⟨_, hu, hik⟩)
          rw [if_pos hik, or_iff_right hno]
          exact and_iff_right hik
        · simp [hik]
  by_cases hik : i = k
  · rw [if_pos hik, get_eq_some, hmem v, if_pos hik]
  · rw [if_neg hik]
    apply Option.ext
    intro u
    rw [get_eq_some, hmem u, if_neg hik, get_eq_some]

/-- Writing the value that a key has changes nothing, its place in the order included. -/
theorem put_of_get {d : Dict κ β} {k : κ} {v : β} (h : d.get k = some v) : d.put k v = d := by
  have hmem : (k, v) ∈ d.entries := get_eq_some.mp h
  have hold : k ∈ d.entries.map Prod.fst := List.mem_map.mpr ⟨(k, v), hmem, rfl⟩
  have hsame : putEntries d.entries k v = d.entries := by
    rw [putEntries, if_pos hold]
    conv_rhs => rw [← List.map_id d.entries]
    apply List.map_congr_left
    intro e he
    split
    · next hek => exact (List.inj_on_of_nodup_map d.distinct he hmem hek).symm
    · rfl
  simp only [put, hsame]

/-- Removing a key leaves no value for it, and the others alone. -/
theorem get_pop (d : Dict κ β) (k i : κ) :
    (d.pop k).get i = if i = k then none else d.get i := by
  apply Option.ext
  intro v
  rw [get_eq_some, pop, List.mem_filter]
  by_cases hik : i = k
  · simp [hik]
  · simp [hik, get_eq_some]

/-- A key is written, or removed. -/
def write (d : Dict κ β) (k : κ) : Option β → Dict κ β
  | some v => d.put k v
  | none => d.pop k

theorem get_write (d : Dict κ β) (k : κ) (v : Option β) (i : κ) :
    (d.write k v).get i = if i = k then v else d.get i := by
  cases v with
  | none => exact d.get_pop k i
  | some v => exact d.get_put k v i

/-! ### Dictionaries in the order of their keys -/

section Order

variable [LT κ] {d : Dict κ β} {k : κ}

/-- The keys ascend in the order of the entries. -/
def Ascends (d : Dict κ β) : Prop := (d.entries.map Prod.fst).Pairwise (· < ·)

/-- A key that there is keeps its place, and a greater one comes last. -/
theorem Ascends.put (h : d.Ascends) (hk : d.get k = none → ∀ e ∈ d.entries, e.1 < k) (v : β) :
    (d.put k v).Ascends := by
  rw [Ascends, Dict.put]
  simp only [putEntries]
  split
  · rw [keys_map_put]
    exact h
  · next hnew =>
      have hnone : d.get k = none := by
        by_contra hsome
        obtain ⟨u, hu⟩ := Option.ne_none_iff_exists'.mp hsome
        exact hnew (List.mem_map.mpr ⟨_, get_eq_some.mp hu, rfl⟩)
      rw [List.map_append, List.pairwise_append]
      refine ⟨h, List.pairwise_singleton _ _, fun i hi j hj => ?_⟩
      obtain ⟨e, he, rfl⟩ := List.mem_map.mp hi
      have hj : j = k := by simpa using hj
      rw [hj]
      exact hk hnone e he

theorem Ascends.pop (h : d.Ascends) : (d.pop k).Ascends :=
  h.sublist (List.filter_sublist.map Prod.fst)

end Order

/-! ### Two dictionaries that hold the same -/

section Match

variable {κ' : Type*} {β' : Type*} [DecidableEq κ'] {R : κ × β → κ' × β' → Prop}
  {d : Dict κ β} {d' : Dict κ' β'} {k : κ} {k' : κ'}

/-- The entries of two dictionaries are related, in their order. -/
def Match (R : κ × β → κ' × β' → Prop) (d : Dict κ β) (d' : Dict κ' β') : Prop :=
  List.Forall₂ R d.entries d'.entries

omit [DecidableEq κ] [DecidableEq κ'] in
theorem match_empty : Match R (empty : Dict κ β) (empty : Dict κ' β') := List.Forall₂.nil

omit [DecidableEq κ] [DecidableEq κ'] in
theorem mem_keys_iff {xs : List (κ × β)} {ys : List (κ' × β')} (h : List.Forall₂ R xs ys)
    (hkey : ∀ e f, R e f → (e.1 = k ↔ f.1 = k')) :
    k ∈ xs.map Prod.fst ↔ k' ∈ ys.map Prod.fst := by
  induction h with
  | nil => simp
  | @cons e f xs ys hR _ ih =>
      have hhead : k = e.1 ↔ k' = f.1 := by
        rw [eq_comm, hkey e f hR, eq_comm]
      rw [List.map_cons, List.map_cons, List.mem_cons, List.mem_cons, hhead, ih]

/-- Both write one key. -/
theorem Match.put (h : Match R d d') (hkey : ∀ e f, R e f → (e.1 = k ↔ f.1 = k')) {v : β} {v' : β'}
    (hv : R (k, v) (k', v')) : Match R (d.put k v) (d'.put k' v') := by
  simp only [Match, Dict.put, putEntries]
  by_cases hold : k ∈ d.entries.map Prod.fst
  · rw [if_pos hold, if_pos ((mem_keys_iff h hkey).mp hold), List.forall₂_map_left_iff,
      List.forall₂_map_right_iff]
    refine h.imp fun e f hR => ?_
    by_cases he : e.1 = k
    · rw [if_pos he, if_pos ((hkey e f hR).mp he)]
      exact hv
    · rw [if_neg he, if_neg fun hf => he ((hkey e f hR).mpr hf)]
      exact hR
  · rw [if_neg hold, if_neg fun hnew => hold ((mem_keys_iff h hkey).mpr hnew)]
    exact List.rel_append h (List.Forall₂.cons hv List.Forall₂.nil)

theorem forall₂_filter {xs : List (κ × β)} {ys : List (κ' × β')} (h : List.Forall₂ R xs ys)
    (hkey : ∀ e f, R e f → (e.1 = k ↔ f.1 = k')) :
    List.Forall₂ R (xs.filter fun e => e.1 ≠ k) (ys.filter fun f => f.1 ≠ k') := by
  induction h with
  | nil => exact List.Forall₂.nil
  | @cons e f xs ys hR _ ih =>
      rw [List.filter_cons, List.filter_cons]
      by_cases he : e.1 = k
      · have hf : f.1 = k' := (hkey e f hR).mp he
        rw [if_neg (by simp [he]), if_neg (by simp [hf])]
        exact ih
      · have hf : f.1 ≠ k' := fun hf => he ((hkey e f hR).mpr hf)
        rw [if_pos (by simp [he]), if_pos (by simp [hf])]
        exact List.Forall₂.cons hR ih

/-- Both remove one key. -/
theorem Match.pop (h : Match R d d') (hkey : ∀ e f, R e f → (e.1 = k ↔ f.1 = k')) :
    Match R (d.pop k) (d'.pop k') := forall₂_filter h hkey

end Match

end Dict
end Lib
