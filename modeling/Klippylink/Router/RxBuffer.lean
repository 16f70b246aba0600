import Klippylink.Lib.Memory
import Klippylink.Router.CommandParser
import Mathlib.Data.List.DropRight

/-!
# The receive buffer of the command parser

`command_parser_feed` stores, moves and reads bytes by their offset from `rx_buffer`.  Here it
runs over memory without bounds and writes down every access, so that staying inside the
buffer is a result.  `BufferInv` is what holds between two bytes, on every path of the loop
body: below `rx_offset` lie the last bytes of the stream, and once there are four of them they
start with the magic.  `accessByte_inMemory` says that, over memory that holds the parser's
buffer, the parser with its accesses is the parser.

## Main definitions

* `RxMemory` — the parser's state, with `rx_buffer` a place in memory.
* `RxAccess`, `accessByte` — the accesses, and one byte with its accesses.
* `RxAccess.Safe` — the access stays inside the bytes it may touch.
* `BufferInv` — what holds after every byte.
-/

namespace Klippylink

open Lib

/-- The state of the parser; `memory` is what lies from `rx_buffer` on. -/
structure RxMemory where
  memory : Memory UInt8
  rxOffset : ℕ
  rxNodeId : UInt8
  rxHaveNid : Bool

/-- An access to `rx_buffer`; a read is written down with the `rx_offset` at that point. -/
inductive RxAccess
  | store (index : ℕ)
  | load (index rxOffset : ℕ)
  /-- `memmove(rx_buffer, rx_buffer + 1, length)`. -/
  | memmove (length : ℕ)
  /-- The bytes of a packet are read from the start of the buffer and passed on. -/
  | send (d : Dispatch) (rxOffset : ℕ)

/-- What is dispatched. -/
def RxAccess.dispatch : RxAccess → Option Dispatch
  | send d _ => some d
  | _ => none

/-- One iteration of the loop of `command_parser_feed`, with its accesses. -/
def accessByte : Transducer RxMemory UInt8 RxAccess := fun s d =>
  if s.rxHaveNid = false then
    ({ s with rxNodeId := d, rxHaveNid := true, rxOffset := 0 }, [])
  else if klipMaxPacketSize ≤ s.rxOffset then
    ({ s with rxOffset := 0, rxHaveNid := false }, [])
  else
    let memory := s.memory.store s.rxOffset d
    let offset := s.rxOffset + 1
    if klipHeaderSize ≤ offset then
      if ofLe16 (memory 0) (memory 1) = klipprotoMagic then
        let totalLen : UInt8 := 4 + memory 3
        if totalLen.toNat ≤ offset then
          -- the command byte is read for the log
          ({ s with memory := memory, rxOffset := 0, rxHaveNid := false },
            [.store s.rxOffset, .load 0 offset, .load 1 offset, .load 3 offset, .load 2 offset,
              .send ⟨s.rxNodeId, memory.read 0 totalLen.toNat⟩ offset])
        else
          ({ s with memory := memory, rxOffset := offset },
            [.store s.rxOffset, .load 0 offset, .load 1 offset, .load 3 offset])
      else
        -- `--rx_offset` in the argument of `memmove`
        let kept := offset - 1
        ({ s with memory := memory.memmove 0 1 kept, rxOffset := kept },
          [.store s.rxOffset, .load 0 offset, .load 1 offset, .memmove kept])
    else ({ s with memory := memory, rxOffset := offset }, [.store s.rxOffset])

/-- An access that stays where it may: a store is inside the buffer, a read is below
`rx_offset`, and what is moved are the bytes that are kept, from inside the buffer. -/
def RxAccess.Safe (next : RxMemory) : RxAccess → Prop
  | store index => index < klipMaxPacketSize
  | load index rxOffset => index < rxOffset ∧ rxOffset ≤ klipMaxPacketSize
  | memmove length => length = next.rxOffset ∧ 1 + length ≤ klipMaxPacketSize
  | send d rxOffset => d.packet.length ≤ rxOffset ∧ rxOffset ≤ klipMaxPacketSize

/-- What holds when the bytes `fed` have been read since the parser was idle. -/
structure BufferInv (fed : List UInt8) (s : RxMemory) : Prop where
  bound : s.rxOffset ≤ klipMaxPacketSize
  idle : s.rxHaveNid = false → s.rxOffset = 0
  /-- The node id and the bytes held have been read. -/
  read : s.rxHaveNid = true → s.rxOffset < fed.length
  /-- The bytes held are the last ones that were read. -/
  held : s.rxHaveNid = true → s.memory.read 0 s.rxOffset = fed.rtake s.rxOffset
  /-- Four bytes held start with the magic. -/
  magic : klipHeaderSize ≤ s.rxOffset → s.memory.read 0 2 = le16 klipprotoMagic

/-! ## What is kept after each byte -/

theorem read_magic_iff (m : Memory UInt8) :
    m.read 0 2 = le16 klipprotoMagic ↔ ofLe16 (m 0) (m 1) = klipprotoMagic := by
  have hread : m.read 0 2 = [m 0, m 1] := rfl
  have hmagic : le16 klipprotoMagic = [0x4C, 0x4B] := by decide
  rw [hread, hmagic, magic_iff, List.cons.injEq, List.cons.injEq]
  simp

/-- The last bytes of a stream without the first of them. -/
theorem tail_rtake {α : Type} (l : List α) {k : ℕ} (h : k < l.length) :
    (l.rtake (k + 1)).tail = l.rtake k := by
  rw [List.rtake, List.rtake, List.tail_drop]
  congr 1
  omega

namespace BufferInv

variable {fed : List UInt8} {s : RxMemory} {d : UInt8}

/-- Between two frames nothing is held. -/
theorem of_idle (fed : List UInt8) (memory : Memory UInt8) (nid : UInt8) :
    BufferInv fed ⟨memory, 0, nid, false⟩ where
  bound := Nat.zero_le _
  idle _ := rfl
  read h := by cases h
  held h := by cases h
  magic h := absurd h (Nat.not_succ_le_zero 3)

/-- After the node id nothing is held. -/
theorem of_nid (fed : List UInt8) (memory : Memory UInt8) (d : UInt8) :
    BufferInv (fed ++ [d]) ⟨memory, 0, d, true⟩ where
  bound := Nat.zero_le _
  idle _ := rfl
  read _ := by simp
  held _ := by simp [Memory.read]
  magic h := absurd h (Nat.not_succ_le_zero 3)

/-- Storing a byte at `rx_offset` adds it to the bytes held. -/
theorem read_store (h : BufferInv fed s) (hnid : s.rxHaveNid = true) (d : UInt8) :
    (s.memory.store s.rxOffset d).read 0 (s.rxOffset + 1) =
      (fed ++ [d]).rtake (s.rxOffset + 1) := by
  have hstore := Memory.read_store s.memory 0 s.rxOffset d
  rw [Nat.zero_add] at hstore
  rw [hstore, List.rtake_concat_succ, h.held hnid]

/-- A byte is stored. -/
theorem of_store (h : BufferInv fed s) (hnid : s.rxHaveNid = true)
    (hroom : s.rxOffset < klipMaxPacketSize)
    (hmagic : klipHeaderSize ≤ s.rxOffset + 1 →
      (s.memory.store s.rxOffset d).read 0 2 = le16 klipprotoMagic) :
    BufferInv (fed ++ [d])
      { s with memory := s.memory.store s.rxOffset d, rxOffset := s.rxOffset + 1 } where
  bound := hroom
  idle hidle := by
    rw [hnid] at hidle
    cases hidle
  read _ := by
    have hread := h.read hnid
    rw [List.length_append, List.length_singleton]
    exact Nat.succ_lt_succ hread
  held _ := h.read_store hnid d
  magic := hmagic

/-- Only a header that was just completed can fail to start with the magic. -/
theorem lt_of_not_magic (h : BufferInv fed s)
    (hmagic : (s.memory.store s.rxOffset d).read 0 2 ≠ le16 klipprotoMagic) :
    s.rxOffset < klipHeaderSize := by
  by_contra hlong
  have hlong : klipHeaderSize ≤ s.rxOffset := Nat.le_of_not_lt hlong
  have hbelow : 0 + 2 ≤ s.rxOffset := Nat.le_trans (by decide) hlong
  apply hmagic
  rw [Memory.read_store_of_le s.memory d hbelow]
  exact h.magic hlong

/-- A byte is stored and the first one is dropped. -/
theorem of_slide (h : BufferInv fed s) (hnid : s.rxHaveNid = true)
    (hroom : s.rxOffset < klipMaxPacketSize)
    (hmagic : (s.memory.store s.rxOffset d).read 0 2 ≠ le16 klipprotoMagic) :
    BufferInv (fed ++ [d])
      { s with memory := (s.memory.store s.rxOffset d).memmove 0 1 s.rxOffset } where
  bound := Nat.le_of_lt hroom
  idle hidle := by
    rw [hnid] at hidle
    cases hidle
  read _ := by
    have hread := h.read hnid
    rw [List.length_append, List.length_singleton]
    exact Nat.lt_succ_of_lt hread
  held _ := by
    have hread := h.read hnid
    have hlen : s.rxOffset < (fed ++ [d]).length := by
      rw [List.length_append, List.length_singleton]
      exact Nat.lt_succ_of_lt hread
    have htail := congrArg List.tail (h.read_store hnid d)
    rw [tail_rtake _ hlen, ← Memory.read_succ] at htail
    rw [Memory.read_memmove]
    exact htail
  magic hlong := absurd hlong (Nat.not_le_of_lt (h.lt_of_not_magic hmagic))

/-- **One byte keeps the invariant.** -/
theorem step (h : BufferInv fed s) (d : UInt8) : BufferInv (fed ++ [d]) (accessByte s d).1 := by
  rw [accessByte]
  split
  · exact of_nid fed s.memory d
  · next hnid =>
    have hnid : s.rxHaveNid = true := by simpa using hnid
    split
    · exact of_idle _ s.memory s.rxNodeId
    · next hroom =>
      have hroom : s.rxOffset < klipMaxPacketSize := Nat.lt_of_not_le hroom
      simp only
      split
      · next hhead =>
        split
        · next hmagic =>
          split
          · exact of_idle _ _ s.rxNodeId
          · exact h.of_store hnid hroom fun _ => (read_magic_iff _).mpr hmagic
        · next hmagic =>
          exact h.of_slide hnid hroom (mt (read_magic_iff _).mp hmagic)
      · next hshort =>
        exact h.of_store hnid hroom fun hhead => absurd hhead hshort

end BufferInv

/-- **The accesses of one byte are safe**, whatever the buffer holds. -/
theorem safe_accessByte (s : RxMemory) (d : UInt8) :
    ∀ a ∈ (accessByte s d).2, a.Safe (accessByte s d).1 := by
  rw [accessByte]
  split
  · simp
  · split
    · simp
    · next hroom =>
      have hroom : s.rxOffset < klipMaxPacketSize := Nat.lt_of_not_le hroom
      simp only
      split
      · next hhead =>
        have hload : ∀ i < klipHeaderSize, i < s.rxOffset + 1 := fun i hi => by omega
        split
        · split
          · next htotal =>
            simp only [List.forall_mem_cons, RxAccess.Safe, Memory.length_read]
            exact ⟨hroom, ⟨hload 0 (by decide), hroom⟩, ⟨hload 1 (by decide), hroom⟩,
              ⟨hload 3 (by decide), hroom⟩, ⟨hload 2 (by decide), hroom⟩, ⟨htotal, hroom⟩, by simp⟩
          · simp only [List.forall_mem_cons, RxAccess.Safe]
            exact ⟨hroom, ⟨hload 0 (by decide), hroom⟩, ⟨hload 1 (by decide), hroom⟩,
              ⟨hload 3 (by decide), hroom⟩, by simp⟩
        · simp only [List.forall_mem_cons, RxAccess.Safe, Nat.add_sub_cancel]
          exact ⟨hroom, ⟨hload 0 (by decide), hroom⟩, ⟨hload 1 (by decide), hroom⟩,
            ⟨trivial, by omega⟩, by simp⟩
      · simpa [RxAccess.Safe] using hroom

/-! ## The accesses are those of the parser -/

/-- The parser's buffer in memory, with `beyond` behind it. -/
def Rx.inMemory (s : Rx) (beyond : Memory UInt8) : RxMemory :=
  ⟨Memory.ofVector s.rxBuffer beyond, s.rxOffset, s.rxNodeId, s.rxHaveNid⟩

theorem memmove_ofVector {n : ℕ} (buf : Vector UInt8 n) (beyond : Memory UInt8) {k : ℕ}
    (h : k < n) :
    (Memory.ofVector buf beyond).memmove 0 1 k = Memory.ofVector (memmoveDown buf k h) beyond := by
  have hlen : ((buf.toList.drop 1).take k).length = k := by
    rw [List.length_take, List.length_drop, Vector.length_toList]
    omega
  funext j
  rw [Memory.memmove]
  by_cases hj : j < n
  · rw [Memory.ofVector_of_lt (memmoveDown buf k h) beyond hj]
    simp only [memmoveDown, Vector.getElem_mk, List.getElem_toArray]
    by_cases hjk : j < k
    · rw [if_pos (by omega), Memory.ofVector_of_lt buf beyond (by omega),
        List.getElem_append_left (by omega)]
      simp [Nat.add_comm]
    · rw [if_neg (by omega), Memory.ofVector_of_lt buf beyond hj,
        List.getElem_append_right (by omega)]
      simp only [List.getElem_drop, Vector.getElem_toList, hlen]
      congr 1
      omega
  · rw [if_neg (by omega), Memory.ofVector_of_le _ beyond (by omega),
      Memory.ofVector_of_le _ beyond (by omega)]

/-- **Over memory that holds the parser's buffer, one byte does what it does in the parser**,
dispatches the same, and leaves what is behind the buffer alone. -/
theorem accessByte_inMemory (s : Rx) (beyond : Memory UInt8) (d : UInt8) :
    (accessByte (s.inMemory beyond) d).1 = (commandParserByte s d).1.inMemory beyond ∧
      (accessByte (s.inMemory beyond) d).2.filterMap RxAccess.dispatch =
        (commandParserByte s d).2 := by
  by_cases hnid : s.rxHaveNid = false
  · simp [accessByte, commandParserByte, Rx.inMemory, hnid]
  · by_cases hroom : s.rxOffset < klipMaxPacketSize
    · have hstore := Memory.store_ofVector s.rxBuffer beyond hroom d
      have hfull : ¬ klipMaxPacketSize ≤ s.rxOffset := Nat.not_le_of_lt hroom
      simp only [accessByte, commandParserByte, Rx.inMemory, if_neg hnid, if_neg hfull,
        dif_pos hroom, hstore, Nat.add_sub_cancel]
      generalize s.rxBuffer.set s.rxOffset d hroom = buffer
      have hget : ∀ (i : ℕ) (hi : i < klipMaxPacketSize),
          Memory.ofVector buffer beyond i = buffer.get ⟨i, hi⟩ :=
        fun i hi => Memory.ofVector_of_lt buffer beyond hi
      rw [hget 0 (by decide), hget 1 (by decide), hget 3 (by decide)]
      split
      · split
        · split
          · next htotal =>
            rw [Memory.read_ofVector buffer beyond (Nat.le_trans htotal hroom)]
            exact ⟨rfl, rfl⟩
          · exact ⟨rfl, rfl⟩
        · rw [memmove_ofVector buffer beyond hroom]
          exact ⟨rfl, rfl⟩
      · exact ⟨rfl, rfl⟩
    · have hfull : klipMaxPacketSize ≤ s.rxOffset := Nat.le_of_not_lt hroom
      simp [accessByte, commandParserByte, Rx.inMemory, hnid, hroom, hfull]

/-- The accesses over a whole stream are those of the parser. -/
theorem run_accessByte_inMemory (s : Rx) (beyond : Memory UInt8) (ds : List UInt8) :
    (Transducer.run accessByte (s.inMemory beyond) ds).1 =
        (Transducer.run commandParserByte s ds).1.inMemory beyond ∧
      (Transducer.run accessByte (s.inMemory beyond) ds).2.filterMap RxAccess.dispatch =
        (Transducer.run commandParserByte s ds).2 :=
  Transducer.run_image (fun s => s.inMemory beyond) RxAccess.dispatch
    (fun s d => accessByte_inMemory s beyond d) ds s

/-- The invariant holds after every stream. -/
theorem bufferInv_run {s : Rx} (hs : s.Idle) (beyond : Memory UInt8) (fed : List UInt8) :
    BufferInv fed ((Transducer.run commandParserByte s fed).1.inMemory beyond) := by
  have hstart : BufferInv [] (s.inMemory beyond) := by
    rw [Rx.inMemory, hs.1, hs.2]
    exact BufferInv.of_idle [] _ s.rxNodeId
  have hrun := Transducer.run_invariant accessByte BufferInv (fun _ _ d h => h.step d) fed [] _
    hstart
  rw [List.nil_append, (run_accessByte_inMemory s beyond fed).1] at hrun
  exact hrun

/-- **What holds of the receive buffer in every run.**  From idle, for every stream and every
split of it into calls, the parser makes the accesses that `accessByte` writes down, and
changes nothing behind its buffer.  After every byte the invariant of the buffer holds, and the
accesses of every byte are safe. -/
theorem commandParserFeed_buffer {s : Rx} (hs : s.Idle) (beyond : Memory UInt8)
    (calls : List (List UInt8)) :
    ((Transducer.runChunks accessByte (s.inMemory beyond) calls).1 =
        (commandParserFeed s calls).1.inMemory beyond ∧
      (Transducer.runChunks accessByte (s.inMemory beyond) calls).2.filterMap RxAccess.dispatch =
        (commandParserFeed s calls).2) ∧
    ∀ n, let fed := calls.flatten.take n
      let state := (Transducer.run commandParserByte s fed).1.inMemory beyond
      (Transducer.run accessByte (s.inMemory beyond) fed).1 = state ∧ BufferInv fed state ∧
        ∀ d, calls.flatten[n]? = some d →
          ∀ a ∈ (accessByte state d).2, a.Safe (accessByte state d).1 := by
  refine ⟨?_, fun n => ⟨?_, ?_, fun d _ => safe_accessByte _ d⟩⟩
  · rw [commandParserFeed, Transducer.runChunks_eq_run_flatten,
      Transducer.runChunks_eq_run_flatten]
    exact run_accessByte_inMemory s beyond calls.flatten
  · exact (run_accessByte_inMemory s beyond _).1
  · exact bufferInv_run hs beyond _

/-- Node 1, and three bytes of which the last two start a header; the next byte completes four
bytes that do not start with the magic, and three of them are kept. -/
theorem commandParserFeed_buffer_noise :
    BufferInv [1, 0xAA, 0x4C, 0x4B, 0x81]
        ((Transducer.run commandParserByte Rx.start [1, 0xAA, 0x4C, 0x4B, 0x81]).1.inMemory
          fun _ => 0) ∧
      (Transducer.run commandParserByte Rx.start [1, 0xAA, 0x4C, 0x4B, 0x81]).1.rxOffset = 3 :=
  ⟨((commandParserFeed_buffer ⟨rfl, rfl⟩ (fun _ => 0) [[1, 0xAA, 0x4C], [0x4B, 0x81, 0]]).2
    5).2.1, by decide⟩

end Klippylink
