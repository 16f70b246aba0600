import Klippylink.Router.Attribution

/-!
# The size of a dispatched packet

A packet is four header bytes and as many payload bytes as its length byte says.  The parser
adds the two in eight bits, so a length byte of 252 or more announces a packet of no, one,
two or three bytes, and its header is dispatched as that.  On every other stream the size of
a dispatched packet is the one its header announces.

## Main definitions

* `SizeMatches` — the size of a dispatched packet is the one its header announces.
* `commandParserFeed_sizes_iff` — the streams on which every packet has that size.
-/

namespace Klippylink

open Lib

/-- The size of a dispatched packet is the one its header announces in the stream, it is
that of a packet, and all of it was received. -/
structure SizeMatches (stream : List UInt8) (d : Located) : Prop where
  /-- Four bytes, and as many as the length byte says. -/
  announced : ∃ length, stream[d.start + 3]? = some length ∧
    d.dispatch.packet.length = 4 + length.toNat
  atLeast : klipHeaderSize ≤ d.dispatch.packet.length
  atMost : d.dispatch.packet.length ≤ klipMaxPacketSize
  received : d.dispatch.packet = (stream.drop d.start).take d.dispatch.packet.length

/-- Header and payload, where their sum fits the eight bits. -/
theorem totalLen_of_lt {l : UInt8} (h : l.toNat < 252) : totalLen l = 4 + l.toNat := by
  have hsum : (4 + l : UInt8).toNat = (4 + l.toNat) % 256 := rfl
  rw [totalLen, hsum]
  omega

/-- Where the sum wraps, it is less than a header. -/
theorem totalLen_of_le {l : UInt8} (h : 252 ≤ l.toNat) : totalLen l = l.toNat - 252 := by
  have hsum : (4 + l : UInt8).toNat = (4 + l.toNat) % 256 := rfl
  have hl := l.toNat_lt
  rw [totalLen, hsum]
  omega

/-- The packet of one stretch of a stream has the size its header announces exactly when the
sum did not wrap. -/
theorem sizeMatches_stretch {pre rest : List UInt8} {st : Stretch}
    (hbody : st.body.length = bodyLen st.lengthByte)
    (hhead : ∃ cmd tail, st.body = 0x4C :: 0x4B :: cmd :: st.lengthByte :: tail) :
    (∀ d ∈ st.located pre.length, SizeMatches (pre ++ (st.bytes ++ rest)) d) ↔
      st.lengthByte.toNat < 252 := by
  have hbyte : (pre ++ (st.bytes ++ rest))[pre.length + 1 + st.noise.length + 3]? =
      some st.lengthByte := by
    obtain ⟨cmd, tail, hhead⟩ := hhead
    rw [← List.getElem?_drop, drop_stretch, hhead]
    rfl
  constructor
  · intro hall
    by_contra hwrap
    have htotal := totalLen_of_le (Nat.le_of_not_lt hwrap)
    have hl := st.lengthByte.toNat_lt
    have hsmall : totalLen st.lengthByte < klipHeaderSize := by
      rw [htotal, klipHeaderSize]
      omega
    have hfit : totalLen st.lengthByte ≤ klipMaxPacketSize :=
      Nat.le_trans (Nat.le_of_lt hsmall) (by decide)
    have hmatch := hall _ (Stretch.mem_located.mpr ⟨hfit, rfl⟩)
    have hlen := List.length_take_le (totalLen st.lengthByte) st.body
    exact absurd (Nat.le_trans hmatch.atLeast hlen) (Nat.not_le_of_lt hsmall)
  · intro hsum d hd
    obtain ⟨hfit, rfl⟩ := Stretch.mem_located.mp hd
    have htotal := totalLen_of_lt hsum
    have hsize : (st.body.take (totalLen st.lengthByte)).length = totalLen st.lengthByte :=
      List.length_take_of_le (Stretch.totalLen_le_length hbody hfit)
    refine ⟨⟨_, hbyte, hsize.trans htotal⟩, ?_, ?_, ?_⟩
    · rw [hsize, htotal]
      exact Nat.le_add_right _ _
    · rw [hsize]
      exact hfit
    · rw [hsize, take_stretch pre rest st hbody hfit]

/-- The stretches of the unread part `s` of the stream `pre ++ s`. -/
theorem locate_sizes_iff (s : List UInt8) : ∀ pre : List UInt8,
    (∀ d ∈ locate pre.length (stretches s), SizeMatches (pre ++ s) d) ↔
      ∀ st ∈ stretches s, st.lengthByte.toNat < 252 := by
  induction s using stretches_induction with
  | unfinished s h =>
      intro pre
      rw [stretches_of_none h]
      simp [locate]
  | stretch s st rest h ih =>
      intro pre
      obtain ⟨rfl, hbody, hhead⟩ := nextStretch_eq_some h
      have hrest := ih (pre ++ st.bytes)
      rw [List.append_assoc, List.length_append] at hrest
      rw [stretches_of_some h, locate, List.forall_mem_cons, ← hrest, List.forall_mem_append,
        sizeMatches_stretch hbody hhead]

/-- **When every dispatched packet has the size its header announces.**  From idle and in any
split into calls, exactly on the streams in which no header that the parser completes
announces 252 or more payload bytes. -/
theorem commandParserFeed_sizes_iff {s : Rx} (hs : s.Idle) (calls : List (List UInt8)) :
    ((locatedFeed s calls).2.map Located.dispatch = (commandParserFeed s calls).2 ∧
        ∀ d ∈ (locatedFeed s calls).2, SizeMatches calls.flatten d) ↔
      ∀ st ∈ stretches calls.flatten, st.lengthByte.toNat < 252 := by
  have hcut := locate_sizes_iff calls.flatten []
  rw [List.nil_append, List.length_nil, ← locatedFeed_idle hs] at hcut
  rw [← hcut]
  exact and_iff_right (locatedFeed_eq s calls).1

theorem commandParserFeed_sizes_iff_ping :
    ((locatedFeed Rx.start [[1, 0x4C, 0x4B], [0x01, 0]]).2.map Located.dispatch =
        (commandParserFeed Rx.start [[1, 0x4C, 0x4B], [0x01, 0]]).2 ∧
        ∀ d ∈ (locatedFeed Rx.start [[1, 0x4C, 0x4B], [0x01, 0]]).2,
          SizeMatches [[1, 0x4C, 0x4B], [0x01, 0]].flatten d) ↔
      ∀ st ∈ stretches [[1, 0x4C, 0x4B], [0x01, 0]].flatten, st.lengthByte.toNat < 252 :=
  commandParserFeed_sizes_iff ⟨rfl, rfl⟩ [[1, 0x4C, 0x4B], [0x01, 0]]

/-- A header for node 1 that announces 252 payload bytes. -/
def wrappedHeader : List UInt8 := [1, 0x4C, 0x4B, 0x81, 252]

/-- It is dispatched to node 1, as a packet of no bytes. -/
theorem wrappedHeader_dispatched :
    (commandParserFeed Rx.start [wrappedHeader]).2 = [⟨1, []⟩] ∧
      ¬ ∀ d ∈ (locatedFeed Rx.start [wrappedHeader]).2, SizeMatches wrappedHeader d := by
  have hlog : (locatedFeed Rx.start [wrappedHeader]).2 = [⟨⟨1, []⟩, 1⟩] := by decide
  refine ⟨by decide, ?_⟩
  rw [hlog]
  intro h
  exact absurd (h _ (List.mem_singleton.mpr rfl)).atLeast (by decide)

end Klippylink
