import Klippylink.Router.CommandParser

/-!
# The command parser over a list of held bytes

`receive` is the parser with the bytes it holds as a list, so that a header is a
pattern and sliding is dropping the first element.  `simulates_step` is the
refinement: one byte into the array machine is one byte into the list receiver,
with the same dispatch.

## Main definitions

* `receive` — the parser over a list of held bytes.
* `Simulates` — the array machine holds the bytes of the list receiver.
* `locatedReceive` — `receive`, counting the bytes fed.
-/

namespace Klippylink

open Lib

/-- The bytes held after a node id; `none` between two frames. -/
abbrev Held := Option (UInt8 × List UInt8)

/-- The bytes held, with the newest one appended: a packet, part of one, or bytes
of which the first cannot start a packet. -/
def collect (nid : UInt8) : List UInt8 → Held × List Dispatch
  | m0 :: m1 :: cmd :: length :: rest =>
      if ofLe16 m0 m1 = klipprotoMagic then
        let totalLen : UInt8 := 4 + length
        if totalLen.toNat ≤ rest.length + 4 then
          (none, [⟨nid, (m0 :: m1 :: cmd :: length :: rest).take totalLen.toNat⟩])
        else (some (nid, m0 :: m1 :: cmd :: length :: rest), [])
      else (some (nid, m1 :: cmd :: length :: rest), [])
  | short => (some (nid, short), [])

/-- One byte into the list receiver. -/
def receive : Transducer Held UInt8 Dispatch
  | none, d => (some (d, []), [])
  | some (nid, held), d =>
      if held.length < klipMaxPacketSize then collect nid (held ++ [d]) else (none, [])

theorem collect_short {nid : UInt8} {held : List UInt8} (h : held.length < 4) :
    collect nid held = (some (nid, held), []) := by
  match held, h with
  | [], _ => rfl
  | [_], _ => rfl
  | [_, _], _ => rfl
  | [_, _, _], _ => rfl

/-- Four bytes that do not start with the magic lose the first of them. -/
theorem collect_slide {nid m0 m1 cmd length : UInt8} {rest : List UInt8}
    (h : ofLe16 m0 m1 ≠ klipprotoMagic) :
    collect nid (m0 :: m1 :: cmd :: length :: rest) =
      (some (nid, m1 :: cmd :: length :: rest), []) := by
  rw [collect, if_neg h]

/-- Four bytes are a header and what follows it. -/
theorem exists_header {held : List UInt8} (h : 4 ≤ held.length) :
    ∃ m0 m1 cmd length rest, held = m0 :: m1 :: cmd :: length :: rest := by
  match held, h with
  | m0 :: m1 :: cmd :: length :: rest, _ => exact ⟨m0, m1, cmd, length, rest, rfl⟩

/-- The bytes held by the array machine. -/
def Rx.held (s : Rx) : Held :=
  if s.rxHaveNid then some (s.rxNodeId, s.rxBuffer.toList.take s.rxOffset) else none

/-- The array machine and the list receiver hold the same bytes. -/
structure Simulates (s : Rx) (a : Held) : Prop where
  held : s.held = a
  idle : s.rxHaveNid = false → s.rxOffset = 0
  bound : s.rxOffset ≤ klipMaxPacketSize

theorem length_take_rxBuffer (s : Rx) :
    (s.rxBuffer.toList.take s.rxOffset).length = min s.rxOffset klipMaxPacketSize := by
  rw [List.length_take, Vector.length_toList]

/-- Storing at the offset appends to the bytes held. -/
theorem take_set_rxBuffer {n : ℕ} (buf : Vector UInt8 n) (k : ℕ) (h : k < n) (d : UInt8) :
    (buf.set k d h).toList.take (k + 1) = buf.toList.take k ++ [d] := by
  have hlen : k < (buf.toList.set k d).length := by simpa using h
  rw [Vector.toList_set, List.take_add_one, List.getElem?_eq_getElem hlen]
  simp [List.take_set_of_le]

/-- Sliding drops the first of the bytes held. -/
theorem take_memmoveDown {n : ℕ} (buf : Vector UInt8 n) (k : ℕ) (h : k < n) :
    (memmoveDown buf k h).toList.take k = (buf.toList.take (k + 1)).drop 1 := by
  have hlen : ((buf.toList.drop 1).take k).length = k := by
    simp only [List.length_take, List.length_drop, Vector.length_toList]
    omega
  simp only [memmoveDown, Vector.toList_mk]
  rw [List.take_append_of_le_length (by omega), List.take_of_length_le (by omega),
    List.drop_take]
  simp

/-- A byte of the buffer below the offset is one of the bytes held. -/
theorem get_of_take {n : ℕ} {buf : Vector UInt8 n} {k i : ℕ} {held : List UInt8} {x : UInt8}
    (hk : buf.toList.take k = held) (hi : i < n) (hx : held[i]? = some x) :
    buf.get ⟨i, hi⟩ = x := by
  subst hk
  have hik : i < k := by
    have := (List.getElem?_eq_some_iff.mp hx).1
    rw [List.length_take] at this
    omega
  rw [List.getElem?_take_of_lt hik] at hx
  obtain ⟨_, rfl⟩ := List.getElem?_eq_some_iff.mp hx
  simp [Vector.get]

theorem held_of_have {s : Rx} (h : s.rxHaveNid = true) :
    s.held = some (s.rxNodeId, s.rxBuffer.toList.take s.rxOffset) := by
  simp [Rx.held, h]

/-- **One byte: the array machine does what the list receiver does.** -/
theorem simulates_step (s : Rx) (a : Held) (d : UInt8) (h : Simulates s a) :
    Simulates (commandParserByte s d).1 (receive a d).1 ∧
      (commandParserByte s d).2 = (receive a d).2 := by
  obtain ⟨rfl, hidle, hbound⟩ := h
  cases hnid : s.rxHaveNid with
  | false =>
      simp only [commandParserByte, hnid, Rx.held, receive, if_true, Bool.false_eq_true, if_false]
      exact ⟨⟨by simp [Rx.held], by simp, by simp⟩, trivial⟩
  | true =>
      have hlen := length_take_rxBuffer s
      by_cases hfull : s.rxOffset < klipMaxPacketSize
      · have hroom : (s.rxBuffer.toList.take s.rxOffset).length < klipMaxPacketSize := by omega
        have hstore := take_set_rxBuffer s.rxBuffer s.rxOffset hfull d
        have hslide := take_memmoveDown (s.rxBuffer.set s.rxOffset d hfull) s.rxOffset hfull
        have hsize : (s.rxBuffer.toList.take s.rxOffset ++ [d]).length = s.rxOffset + 1 := by
          rw [List.length_append, List.length_singleton]
          omega
        simp only [commandParserByte, hnid, dif_pos hfull, held_of_have hnid, receive, if_pos hroom,
          Bool.true_eq_false, if_false]
        generalize s.rxBuffer.toList.take s.rxOffset ++ [d] = held at *
        generalize s.rxBuffer.set s.rxOffset d hfull = buffer at *
        by_cases hhead : klipHeaderSize ≤ s.rxOffset + 1
        · obtain ⟨m0, m1, cmd, length, rest, rfl⟩ : ∃ m0 m1 cmd length rest,
              held = m0 :: m1 :: cmd :: length :: rest :=
            exists_header (by rw [hsize]; exact hhead)
          simp only [List.length_cons] at hsize
          have hoff : s.rxOffset + 1 = rest.length + 4 := by omega
          have h0 : buffer.get ⟨0, by decide⟩ = m0 := get_of_take hstore (by decide) rfl
          have h1 : buffer.get ⟨1, by decide⟩ = m1 := get_of_take hstore (by decide) rfl
          have h3 : buffer.get ⟨3, by decide⟩ = length := get_of_take hstore (by decide) rfl
          rw [if_pos hhead, h0, h1, h3, collect]
          by_cases hmagic : ofLe16 m0 m1 = klipprotoMagic
          · rw [if_pos hmagic, if_pos hmagic, hoff]
            by_cases htotal : (4 + length : UInt8).toNat ≤ rest.length + 4
            · have htake : buffer.toList.take (4 + length : UInt8).toNat =
                  (m0 :: m1 :: cmd :: length :: rest).take (4 + length : UInt8).toNat := by
                rw [← hstore, List.take_take, hoff, Nat.min_eq_left htotal]
              simp only [if_pos htotal, htake]
              exact ⟨⟨by simp [Rx.held], fun _ => rfl, by simp⟩, trivial⟩
            · simp only [if_neg htotal]
              refine ⟨⟨?_, by simp, by rw [← hoff]; exact hfull⟩, trivial⟩
              simp only [Rx.held, if_true]
              rw [← hoff, hstore]
          · rw [if_neg hmagic, if_neg hmagic]
            refine ⟨⟨?_, by simp, hbound⟩, rfl⟩
            simp only [Rx.held, if_true]
            rw [hslide, hstore]
            rfl
        · rw [if_neg hhead, collect_short (by simp only [klipHeaderSize] at hhead; omega)]
          refine ⟨⟨?_, by simp, hfull⟩, rfl⟩
          simp only [Rx.held, if_true]
          rw [hstore]
      · have hheld : ¬ (s.rxBuffer.toList.take s.rxOffset).length < klipMaxPacketSize := by omega
        simp only [commandParserByte, hnid, dif_neg hfull, held_of_have hnid, receive, if_neg hheld,
          Bool.true_eq_false, if_false]
        exact ⟨⟨by simp [Rx.held], fun _ => rfl, by simp⟩, trivial⟩

/-! ## Positions -/

/-- How many bytes are held. -/
def heldLength : Held → ℕ
  | none => 0
  | some (_, held) => held.length

/-- `receive` with a count of the bytes fed before. -/
def locatedReceive : Transducer (ℕ × Held) UInt8 Located := fun s d =>
  let next := receive s.2 d
  ((s.1 + 1, next.1), next.2.map fun x => ⟨x, s.1 - heldLength s.2⟩)

/-- Nothing is dispatched by the byte that becomes the node id. -/
theorem commandParserByte_nid {s : Rx} (h : s.rxHaveNid = false) (d : UInt8) :
    (commandParserByte s d).2 = [] := by
  simp [commandParserByte, h]

/-- The two machines locate a dispatch at the same position. -/
theorem locatedByte_eq (n : ℕ) (s : Rx) (a : Held) (d : UInt8) (h : Simulates s a) :
    (locatedByte (n, s) d).2 = (locatedReceive (n, a) d).2 := by
  have hout := (simulates_step s a d h).2
  simp only [locatedByte, locatedReceive]
  cases hnid : s.rxHaveNid with
  | false =>
      have hnone := commandParserByte_nid hnid d
      rw [← hout, hnone]
      rfl
  | true =>
      have hheld : heldLength a = s.rxOffset := by
        rw [← h.held, held_of_have hnid]
        simp only [heldLength]
        rw [length_take_rxBuffer]
        exact Nat.min_eq_left h.bound
      rw [hout, hheld]

/-- **Over a whole stream the array machine dispatches what the list receiver
does, at the same positions.** -/
theorem run_locatedByte_eq (ds : List UInt8) (n : ℕ) (s : Rx) (a : Held) (h : Simulates s a) :
    Simulates (Transducer.run locatedByte (n, s) ds).1.2
        (Transducer.run locatedReceive (n, a) ds).1.2 ∧
      (Transducer.run locatedByte (n, s) ds).2 = (Transducer.run locatedReceive (n, a) ds).2 := by
  have hsim := Transducer.run_sim locatedByte locatedReceive
    (fun p q => p.1 = q.1 ∧ Simulates p.2 q.2) ?step ds (n, s) (n, a) ⟨rfl, h⟩
  · exact ⟨hsim.1.2, hsim.2⟩
  case step =>
    rintro ⟨m, s'⟩ ⟨m', a'⟩ d ⟨rfl, hs⟩
    exact ⟨⟨rfl, (simulates_step s' a' d hs).1⟩, locatedByte_eq m s' a' d hs⟩

/-- Between two frames the machine holds nothing. -/
theorem simulates_of_idle {s : Rx} (h : s.Idle) : Simulates s none :=
  ⟨by simp [Rx.held, h.1], fun _ => h.2, by rw [h.2]; exact Nat.zero_le _⟩

theorem idle_of_simulates {s : Rx} (h : Simulates s none) : s.Idle := by
  have hnid : s.rxHaveNid = false := by
    cases hn : s.rxHaveNid with
    | false => rfl
    | true =>
        have := h.held
        rw [held_of_have hn] at this
        cases this
  exact ⟨hnid, h.idle hnid⟩

end Klippylink
