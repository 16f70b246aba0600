import Klippylink.Router.Framing

/-!
# Which node a dispatched packet is for

A frame on the serial link is a node id byte and then a packet, so a packet is
for the node named by the byte right before its magic.  The parser keeps the
first byte it read from idle instead, and slides only the packet bytes when no
magic starts where it looks.  The two agree exactly on the streams whose stretches
are attributed.

## Main definitions

* `WellAttributed` — every dispatched packet is a block of the stream, the blocks
  are disjoint and in order, and each goes to the node the stream names.
* `Stretch.Attributed` — the byte before the magic equals the first byte of the
  stretch.
-/

namespace Klippylink

open Lib

/-- What a log of dispatches has to satisfy with respect to the stream. -/
structure WellAttributed (stream : List UInt8) (log : List Located) : Prop where
  /-- The dispatched bytes are the block of the stream at their position. -/
  block : ∀ d ∈ log,
    d.dispatch.packet = (stream.drop d.start).take d.dispatch.packet.length
  /-- The position is that of a magic. -/
  magic : ∀ d ∈ log, (stream.drop d.start).take 2 = le16 klipprotoMagic
  /-- The blocks are disjoint and in stream order. -/
  ordered : log.Pairwise fun d e => d.start + d.dispatch.packet.length ≤ e.start
  /-- The node id is the byte that immediately precedes the magic. -/
  addressed : ∀ d ∈ log, 1 ≤ d.start ∧ stream[d.start - 1]? = some d.dispatch.nodeId

namespace Stretch

/-- The byte right before the magic. -/
def addressee (st : Stretch) : UInt8 := st.noise.getLastD st.nodeId

/-- A packet that fits the buffer is preceded by a byte equal to the first byte of
the stretch. -/
def Attributed (st : Stretch) : Prop :=
  totalLen st.lengthByte ≤ klipMaxPacketSize → st.addressee = st.nodeId

instance (st : Stretch) : Decidable st.Attributed :=
  inferInstanceAs (Decidable (totalLen st.lengthByte ≤ klipMaxPacketSize →
    st.addressee = st.nodeId))

theorem totalLen_le_length {st : Stretch} (hbody : st.body.length = bodyLen st.lengthByte)
    (hfit : totalLen st.lengthByte ≤ klipMaxPacketSize) :
    totalLen st.lengthByte ≤ st.body.length := by
  rw [hbody, bodyLen, if_pos hfit]
  exact Nat.le_max_right 4 _

/-- A stretch locates at most one packet, right after its noise. -/
theorem mem_located {st : Stretch} {n : ℕ} {d : Located} :
    d ∈ st.located n ↔ totalLen st.lengthByte ≤ klipMaxPacketSize ∧
      d = ⟨⟨st.nodeId, st.body.take (totalLen st.lengthByte)⟩, n + 1 + st.noise.length⟩ := by
  rw [located, dispatch]
  by_cases hfit : totalLen st.lengthByte ≤ klipMaxPacketSize <;> simp [hfit]

theorem getLastD_eq_getElem? (x : UInt8) (noise body : List UInt8) :
    (x :: (noise ++ body))[noise.length]? = some (noise.getLastD x) := by
  induction noise generalizing x with
  | nil => rfl
  | cons y noise ih =>
      rw [List.length_cons, List.getElem?_cons_succ, List.cons_append, ih y,
        List.getLastD_cons]

end Stretch

/-! ### One stretch inside a stream -/

section Stretch

variable (pre rest : List UInt8) (st : Stretch)

/-- The stream from the magic of a stretch on. -/
theorem drop_stretch :
    (pre ++ (st.bytes ++ rest)).drop (pre.length + 1 + st.noise.length) = st.body ++ rest := by
  have hlen : pre.length + 1 + st.noise.length = pre.length + (1 + st.noise.length) :=
    Nat.add_assoc _ _ _
  rw [hlen, ← List.drop_drop, List.drop_left, Stretch.bytes, Nat.add_comm 1, List.cons_append,
    List.drop_succ_cons, List.append_assoc, List.drop_left]

/-- The packet of a stretch that fits the buffer is a block of the stream. -/
theorem take_stretch (hbody : st.body.length = bodyLen st.lengthByte)
    (hfit : totalLen st.lengthByte ≤ klipMaxPacketSize) :
    ((pre ++ (st.bytes ++ rest)).drop (pre.length + 1 + st.noise.length)).take
        (totalLen st.lengthByte) = st.body.take (totalLen st.lengthByte) := by
  rw [drop_stretch, List.take_append_of_le_length (Stretch.totalLen_le_length hbody hfit)]

/-- The byte of the stream right before the magic of a stretch. -/
theorem getElem?_addressee :
    (pre ++ (st.bytes ++ rest))[pre.length + 1 + st.noise.length - 1]? = some st.addressee := by
  have hidx : pre.length + 1 + st.noise.length - 1 = pre.length + st.noise.length := by omega
  rw [hidx, List.getElem?_append_right (Nat.le_add_right _ _), Nat.add_sub_cancel_left,
    Stretch.bytes, List.cons_append, List.append_assoc]
  exact Stretch.getLastD_eq_getElem? st.nodeId st.noise (st.body ++ rest)

end Stretch

/-! ### The whole stream -/

/-- Every dispatch begins inside the stream that is still to be read. -/
theorem le_start_of_mem_locate :
    ∀ (sts : List Stretch) (n : ℕ), ∀ d ∈ locate n sts, n + 1 ≤ d.start := by
  intro sts
  induction sts with
  | nil => intro n d hd; simp [locate] at hd
  | cons st sts ih =>
      intro n d hd
      rw [locate, List.mem_append] at hd
      rcases hd with hd | hd
      · rw [(Stretch.mem_located.mp hd).2]
        exact Nat.le_add_right _ _
      · have := ih _ d hd
        omega

/-- A log of two parts is well attributed when both are, and the blocks of the second come
after those of the first. -/
theorem wellAttributed_append {stream : List UInt8} {log log' : List Located}
    (hafter : ∀ d ∈ log, ∀ e ∈ log', d.start + d.dispatch.packet.length ≤ e.start) :
    WellAttributed stream (log ++ log') ↔
      WellAttributed stream log ∧ WellAttributed stream log' := by
  constructor
  · intro h
    obtain ⟨hordered, hordered', -⟩ := List.pairwise_append.mp h.ordered
    obtain ⟨hblock, hblock'⟩ := List.forall_mem_append.mp h.block
    obtain ⟨hmagic, hmagic'⟩ := List.forall_mem_append.mp h.magic
    obtain ⟨haddressed, haddressed'⟩ := List.forall_mem_append.mp h.addressed
    exact ⟨⟨hblock, hmagic, hordered, haddressed⟩, ⟨hblock', hmagic', hordered', haddressed'⟩⟩
  · intro ⟨h, h'⟩
    exact ⟨List.forall_mem_append.mpr ⟨h.block, h'.block⟩,
      List.forall_mem_append.mpr ⟨h.magic, h'.magic⟩,
      List.pairwise_append.mpr ⟨h.ordered, h'.ordered, hafter⟩,
      List.forall_mem_append.mpr ⟨h.addressed, h'.addressed⟩⟩

/-- The packet of one stretch is well attributed exactly when the byte before its magic is
the first of the stretch. -/
theorem wellAttributed_located {pre rest : List UInt8} {st : Stretch}
    (hbody : st.body.length = bodyLen st.lengthByte)
    (hhead : ∃ cmd tail, st.body = 0x4C :: 0x4B :: cmd :: st.lengthByte :: tail) :
    WellAttributed (pre ++ (st.bytes ++ rest)) (st.located pre.length) ↔ st.Attributed := by
  have hnode := getElem?_addressee pre rest st
  constructor
  · intro h hfit
    have hd := (h.addressed _ (Stretch.mem_located.mpr ⟨hfit, rfl⟩)).2
    rw [hnode] at hd
    exact Option.some.inj hd
  · intro h
    refine ⟨?_, ?_, ?_, ?_⟩
    · intro d hd
      obtain ⟨hfit, rfl⟩ := Stretch.mem_located.mp hd
      have hlen := List.length_take_of_le (Stretch.totalLen_le_length hbody hfit)
      rw [hlen, take_stretch pre rest st hbody hfit]
    · intro d hd
      obtain ⟨-, rfl⟩ := Stretch.mem_located.mp hd
      obtain ⟨cmd, tail, hhead⟩ := hhead
      simp only [drop_stretch, hhead]
      rfl
    · rw [Stretch.located]
      cases st.dispatch <;> simp
    · intro d hd
      obtain ⟨hfit, rfl⟩ := Stretch.mem_located.mp hd
      refine ⟨by simp only; omega, ?_⟩
      rw [hnode, h hfit]

/-- The packet of a stretch ends before what comes after the stretch begins. -/
theorem located_before {st : Stretch} {n : ℕ} {sts : List Stretch}
    (hbody : st.body.length = bodyLen st.lengthByte) :
    ∀ d ∈ st.located n, ∀ e ∈ locate (n + st.bytes.length) sts,
      d.start + d.dispatch.packet.length ≤ e.start := by
  intro d hd e he
  obtain ⟨hfit, rfl⟩ := Stretch.mem_located.mp hd
  have hlen := Stretch.totalLen_le_length hbody hfit
  have hstart := le_start_of_mem_locate _ _ e he
  simp only [List.length_take, Stretch.bytes, List.length_cons, List.length_append] at hstart ⊢
  omega

/-- What the stretches of the unread part `s` contribute to the log of the stream
`pre ++ s`. -/
theorem locate_wellAttributed (s : List UInt8) :
    ∀ pre : List UInt8,
      WellAttributed (pre ++ s) (locate pre.length (stretches s)) ↔
        ∀ st ∈ stretches s, st.Attributed := by
  induction s using stretches_induction with
  | unfinished s h =>
      intro pre
      rw [stretches_of_none h]
      simp only [locate, List.not_mem_nil, false_implies, implies_true, iff_true]
      exact ⟨by simp, by simp, List.Pairwise.nil, by simp⟩
  | stretch s st rest h ih =>
      intro pre
      obtain ⟨rfl, hbody, hhead⟩ := nextStretch_eq_some h
      have hrest := ih (pre ++ st.bytes)
      rw [List.append_assoc, List.length_append] at hrest
      rw [stretches_of_some h, locate, List.forall_mem_cons, ← hrest,
        wellAttributed_append (located_before hbody), wellAttributed_located hbody hhead]

/-- **When the parser attributes every packet to the right node.**  From idle and
in any split into calls, its log is well attributed exactly when, in every stretch
of the stream whose packet fits the buffer, the byte before the magic equals the
first byte of the stretch. -/
theorem commandParserFeed_wellAttributed_iff {s : Rx} (hs : s.Idle) (calls : List (List UInt8)) :
    ((locatedFeed s calls).2.map Located.dispatch = (commandParserFeed s calls).2 ∧
        WellAttributed calls.flatten (locatedFeed s calls).2) ↔
      ∀ st ∈ stretches calls.flatten, st.Attributed := by
  have hcut := locate_wellAttributed calls.flatten []
  rw [List.nil_append, List.length_nil, ← locatedFeed_idle hs] at hcut
  rw [← hcut]
  exact and_iff_right (locatedFeed_eq s calls).1

theorem commandParserFeed_wellAttributed_iff_ping :
    ((locatedFeed Rx.start [[1, 0x4C, 0x4B], [0x01, 0]]).2.map Located.dispatch =
        (commandParserFeed Rx.start [[1, 0x4C, 0x4B], [0x01, 0]]).2 ∧
        WellAttributed [[1, 0x4C, 0x4B], [0x01, 0]].flatten
          (locatedFeed Rx.start [[1, 0x4C, 0x4B], [0x01, 0]]).2) ↔
      ∀ st ∈ stretches [[1, 0x4C, 0x4B], [0x01, 0]].flatten, st.Attributed :=
  commandParserFeed_wellAttributed_iff ⟨rfl, rfl⟩ [[1, 0x4C, 0x4B], [0x01, 0]]

/-- A stray byte 9, then the frame of a ping for node 1. -/
def noisyStream : List UInt8 := [9, 1, 0x4C, 0x4B, 0x01, 0]

/-- The parser keeps the stray byte: the ping for node 1 is dispatched to node 9. -/
theorem noisyStream_misattributed :
    (commandParserFeed Rx.start [noisyStream]).2 = [⟨9, [0x4C, 0x4B, 0x01, 0]⟩] ∧
      ¬ WellAttributed noisyStream (locatedFeed Rx.start [noisyStream]).2 := by
  have hlog : (locatedFeed Rx.start [noisyStream]).2 =
      [⟨⟨9, [0x4C, 0x4B, 0x01, 0]⟩, 2⟩] := by decide
  refine ⟨by decide, ?_⟩
  rw [hlog]
  intro h
  have hnode := (h.addressed _ (List.mem_singleton.mpr rfl)).2
  exact absurd hnode (by decide)

end Klippylink
