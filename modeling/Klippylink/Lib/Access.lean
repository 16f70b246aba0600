import Klippylink.Lib.Bytes

/-!
# Programs that read one block of memory and write another

Code that is handed a pointer reads at offsets from it, and what it reads there decides
what it reads next.  An `Access` is such a program: it has a result, and the offsets it
loads from and stores to are lists.  A program that loads below a bound has the same result
whatever is in the memory behind it.

## Main definitions

* `Access α` — a program with a result in `α`.
* `Access.eval`, `Access.loads`, `Access.stores` — its result, and what it touches.
* `Access.byte`, `Access.word`, `Access.bytes`, `Access.put`, `Access.memcpy` — reading and
  copying.
* `Access.eval_congr` — only the bytes that are loaded matter.
-/

namespace Lib

universe u

/-- A program that loads bytes of one block and stores bytes in another. -/
inductive Access (α : Type u)
  | ret (a : α)
  | load (offset : ℕ) (next : UInt8 → Access α)
  | store (offset : ℕ) (b : UInt8) (next : Access α)

namespace Access

variable {α β : Type u}

/-- One program after another. -/
def bind : Access α → (α → Access β) → Access β
  | ret a, f => f a
  | load i next, f => load i fun b => (next b).bind f
  | store i b next, f => store i b (next.bind f)

instance : Monad Access where
  pure := ret
  bind := bind

/-- The result, when the block that is read holds `mem`. -/
def eval (mem : ℕ → UInt8) : Access α → α
  | ret a => a
  | load i next => eval mem (next (mem i))
  | store _ _ next => eval mem next

/-- The offsets that are loaded from, in order. -/
def loads (mem : ℕ → UInt8) : Access α → List ℕ
  | ret _ => []
  | load i next => i :: loads mem (next (mem i))
  | store _ _ next => loads mem next

/-- The offsets that are stored to, with the bytes, in order. -/
def stores (mem : ℕ → UInt8) : Access α → List (ℕ × UInt8)
  | ret _ => []
  | load i next => stores mem (next (mem i))
  | store i b next => (i, b) :: stores mem next

variable (mem : ℕ → UInt8)

@[simp] theorem eval_pure (a : α) : (pure a : Access α).eval mem = a := rfl

@[simp] theorem loads_pure (a : α) : (pure a : Access α).loads mem = [] := rfl

@[simp] theorem stores_pure (a : α) : (pure a : Access α).stores mem = [] := rfl

@[simp] theorem eval_bind (p : Access α) (f : α → Access β) :
    (p >>= f).eval mem = (f (p.eval mem)).eval mem := by
  induction p with
  | ret a => rfl
  | load i next ih => exact ih (mem i)
  | store i b next ih => exact ih

@[simp] theorem loads_bind (p : Access α) (f : α → Access β) :
    (p >>= f).loads mem = p.loads mem ++ (f (p.eval mem)).loads mem := by
  induction p with
  | ret a => rfl
  | load i next ih => exact congrArg (i :: ·) (ih (mem i))
  | store i b next ih => exact ih

@[simp] theorem stores_bind (p : Access α) (f : α → Access β) :
    (p >>= f).stores mem = p.stores mem ++ (f (p.eval mem)).stores mem := by
  induction p with
  | ret a => rfl
  | load i next ih => exact ih (mem i)
  | store i b next ih => exact congrArg ((i, b) :: ·) ih

/-- **Only the bytes that are loaded matter.** -/
theorem eval_congr {mem mem' : ℕ → UInt8} {p : Access α}
    (h : ∀ i ∈ p.loads mem, mem' i = mem i) : p.eval mem' = p.eval mem := by
  induction p with
  | ret a => rfl
  | load i next ih =>
      obtain ⟨hi, hrest⟩ := List.forall_mem_cons.mp h
      rw [eval, hi]
      exact ih (mem i) hrest
  | store i b next ih => exact ih h

/-! ## Reading -/

/-- The byte at an offset. -/
def byte (i : ℕ) : Access UInt8 := load i ret

@[simp] theorem eval_byte (i : ℕ) : (byte i).eval mem = mem i := rfl

@[simp] theorem loads_byte (i : ℕ) : (byte i).loads mem = [i] := rfl

@[simp] theorem stores_byte (i : ℕ) : (byte i).stores mem = [] := rfl

/-- The 32-bit word at an offset. -/
def word (i : ℕ) : Access UInt32 :=
  load i fun a => load (i + 1) fun b => load (i + 2) fun c => load (i + 3) fun d =>
    ret (ofLe32 a b c d)

@[simp] theorem eval_word (i : ℕ) :
    (word i).eval mem = ofLe32 (mem i) (mem (i + 1)) (mem (i + 2)) (mem (i + 3)) := rfl

/-- The bytes from an offset on. -/
def bytes (i : ℕ) : ℕ → Access (List UInt8)
  | 0 => ret []
  | len + 1 => do
      let b ← byte i
      let bs ← bytes (i + 1) len
      return b :: bs

/-- A byte is stored at an offset. -/
def put (i : ℕ) (b : UInt8) : Access PUnit := store i b (ret ⟨⟩)

@[simp] theorem loads_put (i : ℕ) (b : UInt8) : (put i b).loads mem = [] := rfl

@[simp] theorem stores_put (i : ℕ) (b : UInt8) : (put i b).stores mem = [(i, b)] := rfl

/-- `memcpy`: the bytes from one offset on are stored from another on; the result are the
bytes. -/
def memcpy (i j : ℕ) : ℕ → Access (List UInt8)
  | 0 => ret []
  | len + 1 => do
      let b ← byte i
      put j b
      let bs ← memcpy (i + 1) (j + 1) len
      return b :: bs

/-- A block of offsets, first one first. -/
theorem range_succ_map {γ : Type u} (f : ℕ → γ) (i len : ℕ) :
    (List.range (len + 1)).map (fun k => f (i + k)) =
      f i :: (List.range len).map fun k => f (i + 1 + k) := by
  rw [List.range_succ_eq_map, List.map_cons, List.map_map]
  simp only [Nat.add_zero, Function.comp_def, Nat.succ_eq_add_one, Nat.add_assoc, Nat.add_comm 1]

@[simp] theorem eval_bytes (i len : ℕ) :
    (bytes i len).eval mem = (List.range len).map fun k => mem (i + k) := by
  induction len generalizing i with
  | zero => rfl
  | succ len ih =>
      rw [range_succ_map, ← ih]
      simp [bytes]

@[simp] theorem loads_bytes (i len : ℕ) :
    (bytes i len).loads mem = (List.range len).map fun k => i + k := by
  induction len generalizing i with
  | zero => rfl
  | succ len ih =>
      rw [range_succ_map (fun k => k), ← ih]
      simp [bytes]

@[simp] theorem stores_bytes (i len : ℕ) : (bytes i len).stores mem = [] := by
  induction len generalizing i with
  | zero => rfl
  | succ len ih => simp [bytes, ih]

@[simp] theorem eval_memcpy (i j len : ℕ) :
    (memcpy i j len).eval mem = (List.range len).map fun k => mem (i + k) := by
  induction len generalizing i j with
  | zero => rfl
  | succ len ih =>
      rw [range_succ_map, ← ih (i + 1) (j + 1)]
      simp [memcpy]

@[simp] theorem loads_memcpy (i j len : ℕ) :
    (memcpy i j len).loads mem = (List.range len).map fun k => i + k := by
  induction len generalizing i j with
  | zero => rfl
  | succ len ih =>
      rw [range_succ_map (fun k => k), ← ih (i + 1) (j + 1)]
      simp [memcpy]

@[simp] theorem stores_memcpy (i j len : ℕ) :
    (memcpy i j len).stores mem = (List.range len).map fun k => (j + k, mem (i + k)) := by
  induction len generalizing i j with
  | zero => rfl
  | succ len ih =>
      rw [List.range_succ_eq_map, List.map_cons, List.map_map]
      simp only [memcpy, stores_bind, stores_byte, eval_byte, stores_put, stores_pure, ih,
        Function.comp_def, Nat.succ_eq_add_one, List.nil_append, List.append_nil,
        List.cons_append, Nat.add_zero, Nat.add_assoc, Nat.add_comm 1]

/-- A block of offsets lies below a bound when it is empty or its end does. -/
theorem forall_block_lt {i len n : ℕ} (h : i ≤ n) :
    (∀ k ∈ (List.range len).map fun k => i + k, k < n) ↔ i + len ≤ n := by
  constructor
  · intro hall
    by_contra hlt
    have hlast := hall (i + (len - 1)) (List.mem_map.mpr ⟨len - 1, by simp; omega, rfl⟩)
    omega
  · intro hlen k hk
    obtain ⟨m, hm, rfl⟩ := List.mem_map.mp hk
    have hm := List.mem_range.mp hm
    omega

end Access
end Lib
