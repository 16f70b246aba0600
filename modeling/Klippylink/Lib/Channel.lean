import Mathlib.Data.List.Basic

/-!
# A queue with a sentinel

A writer puts items into a queue and one reader takes them.  The writer says that there are
no more by putting a sentinel; the reader ends when it takes it, and waits when the queue is
empty.  Reading on ends exactly when the sentinel was put.

## Main definitions

* `Channel α` — the queue, and what the reader has taken.
* `Channel.put`, `Channel.close`, `Channel.take` — writing and reading.
* `Channel.Drains` — reading on, to the end.
* `Channel.Open` — no sentinel was put.
-/

namespace Lib

universe u

/-- What is in the queue, with `none` for the sentinel, what the reader has taken, and whether
it has ended. -/
structure Channel (α : Type u) where
  queue : List (Option α)
  taken : List α
  ended : Bool

namespace Channel

variable {α : Type u} {c d : Channel α}

/-- Nothing was put. -/
def empty : Channel α := ⟨[], [], false⟩

/-- Items are put. -/
def put (c : Channel α) (items : List α) : Channel α :=
  { c with queue := c.queue ++ items.map some }

/-- The sentinel is put. -/
def close (c : Channel α) : Channel α := { c with queue := c.queue ++ [none] }

/-- The reader takes one item, or the sentinel; it waits at an empty queue. -/
def take (c : Channel α) : Option (Channel α) :=
  if c.ended then none
  else
    match c.queue with
    | [] => none
    | none :: rest => some { c with queue := rest, ended := true }
    | some a :: rest => some { c with queue := rest, taken := c.taken ++ [a] }

/-- The reader reads on, and has ended in `d`. -/
inductive Drains : Channel α → Channel α → Prop
  | ended {c : Channel α} : c.ended = true → Drains c c
  | take {c c' d : Channel α} : c.take = some c' → Drains c' d → Drains c d

/-- No sentinel was put. -/
structure Open (c : Channel α) : Prop where
  ended : c.ended = false
  queue : none ∉ c.queue

theorem open_empty : (empty : Channel α).Open := ⟨rfl, by simp [empty]⟩

@[simp] theorem open_put (items : List α) : (c.put items).Open ↔ c.Open := by
  constructor
  · intro h
    refine ⟨h.ended, ?_⟩
    intro hmem
    exact h.queue (List.mem_append_left _ hmem)
  · intro h
    refine ⟨h.ended, ?_⟩
    simpa [put] using h.queue

/-- Taking puts nothing in, and ends at the sentinel only. -/
theorem open_take (h : c.take = some d) : d.Open ↔ c.Open := by
  obtain ⟨queue, taken, ended⟩ := c
  cases ended with
  | true => cases h
  | false =>
      match queue with
      | [] => cases h
      | none :: rest =>
          cases h
          constructor
          · intro hopen
            cases hopen.ended
          · intro hopen
            exact absurd List.mem_cons_self hopen.queue
      | some a :: rest =>
          cases h
          constructor
          · intro hopen
            exact ⟨rfl, by simpa using hopen.queue⟩
          · intro hopen
            exact ⟨rfl, fun hmem => hopen.queue (List.mem_cons_of_mem _ hmem)⟩

theorem not_open_close : ¬ c.close.Open := by
  intro h
  apply h.queue
  simp [close]

theorem Drains.end_ended (h : c.Drains d) : d.ended = true := by
  induction h with
  | ended h => exact h
  | take _ _ ih => exact ih

/-- A reader of an open queue does not come to the end. -/
theorem Open.not_drains (h : c.Open) : ¬ c.Drains d := by
  intro hdrains
  induction hdrains with
  | ended hended => simp [h.ended] at hended
  | take htake _ ih => exact ih ((open_take htake).mpr h)

/-- **Reading on ends exactly when the sentinel was put.** -/
theorem exists_drains_iff : (∃ d, c.Drains d) ↔ ¬ c.Open := by
  constructor
  · rintro ⟨d, hdrains⟩ hopen
    exact hopen.not_drains hdrains
  · intro h
    obtain ⟨queue, taken, ended⟩ := c
    cases ended with
    | true => exact ⟨_, .ended rfl⟩
    | false =>
        have hmem : none ∈ queue := by
          by_contra hno
          exact h ⟨rfl, hno⟩
        clear h
        induction queue generalizing taken with
        | nil => cases hmem
        | cons x rest ih =>
            cases x with
            | none => exact ⟨⟨rest, taken, true⟩, .take rfl (.ended rfl)⟩
            | some a =>
                have hrest : none ∈ rest := by simpa using hmem
                obtain ⟨d, hd⟩ := ih (taken ++ [a]) hrest
                exact ⟨d, .take rfl hd⟩

end Channel
end Lib
