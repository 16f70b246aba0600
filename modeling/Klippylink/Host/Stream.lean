import Klippylink.Host.Reading

/-!
# The stream the host reads, and what it finds there

`_process_buffer` decides on the bytes that have arrived.  `pollAll_eq` says that no
decision depends on where a read ended: the packets handed out and the buffer are those of
one read of the whole stream.  What is handed out are blocks of the stream in order, with
skipped bytes between them, and frames after bytes that cannot be taken for a frame start
are all found.

## Main definitions

* `spaced` — frames with other bytes before each of them.
* `pollAll`, `pollAll_eq` — any reads and one read.
* `processBuffer_spaced` — the packets are blocks of the stream.
* `processBuffer_frames_after_noise` — frames after bytes in which no frame starts.
-/

namespace Klippylink

open Lib SerialTransport

/-- Frames, each with the bytes before it. -/
def spaced (items : List (List UInt8 × Frame)) : List UInt8 :=
  (items.map fun x => x.1 ++ x.2.bytes).flatten

@[simp] theorem spaced_nil : spaced [] = [] := rfl

@[simp] theorem spaced_cons (x : List UInt8 × Frame) (items : List (List UInt8 × Frame)) :
    spaced (x :: items) = x.1 ++ x.2.bytes ++ spaced items := rfl

/-! ## Any reads -/

/-- The transport after it has polled these reads, and the packets it handed out, which are
those of `hostReads`. -/
def pollAll (reads : List (List UInt8)) : SerialTransport × List Frame :=
  Transducer.run SerialTransport.poll ⟨true, []⟩ reads

/-- **Polling any reads is one pass over the stream.** -/
theorem pollAll_eq (reads : List (List UInt8)) :
    pollAll reads =
      (⟨true, (processBuffer reads.flatten).1⟩, (processBuffer reads.flatten).2) :=
  run_poll_state reads ⟨true, []⟩ rfl rfl

/-! ## The packets are blocks of the stream -/

/-- **The loop cuts the buffer** into packets with skipped bytes before each of them, skipped
bytes, and what it leaves, which is less than the longest frame. -/
theorem processBuffer_spaced (b : List UInt8) :
    ∃ items skipped, b = spaced items ++ (skipped ++ (processBuffer b).1) ∧
      items.map Prod.snd = (processBuffer b).2 ∧
      (∀ x ∈ items, x.2.packet.payload.length ≤ 255) ∧ (processBuffer b).1.length ≤ 259 := by
  induction b using reading_induction with
  | short b h =>
      refine ⟨[], [], ?_, ?_, by simp, ?_⟩
      · rw [processBuffer_short h]
        rfl
      · rw [processBuffer_short h]
        rfl
      · rw [processBuffer_short h]
        exact Nat.le_trans (Nat.le_of_lt h) (by decide)
  | skip n b hlen hmagic ih =>
      obtain ⟨items, skipped, hsplit, hitems, hpayload, hleft⟩ := ih
      rw [processBuffer_skip hlen hmagic]
      -- the byte that goes is skipped before the first packet, or before what is left
      match items with
      | [] => exact ⟨[], n :: skipped, congrArg (n :: ·) hsplit, hitems, hpayload, hleft⟩
      | x :: items =>
          obtain ⟨hx, hrest⟩ := List.forall_mem_cons.mp hpayload
          exact ⟨(n :: x.1, x.2) :: items, skipped, congrArg (n :: ·) hsplit, hitems,
            List.forall_mem_cons.mpr ⟨hx, hrest⟩, hleft⟩
  | wait n c l rest h =>
      have hl := l.toNat_lt
      refine ⟨[], [], ?_, ?_, by simp, ?_⟩
      · rw [processBuffer_wait h]
        rfl
      · rw [processBuffer_wait h]
        rfl
      · rw [processBuffer_wait h]
        simp only [List.length_cons]
        omega
  | take n c l rest h ih =>
      obtain ⟨items, skipped, hsplit, hitems, hpayload, hleft⟩ := ih
      have hl := l.toNat_lt
      rw [processBuffer_take h]
      refine ⟨([], ⟨n, c, rest.take l.toNat⟩) :: items, skipped, ?_, ?_, ?_, hleft⟩
      · rw [frame_of_take h, spaced_cons, List.nil_append, List.append_assoc, ← hsplit]
      · rw [List.map_cons, hitems]
      · refine List.forall_mem_cons.mpr ⟨?_, hpayload⟩
        simp only [List.length_take]
        omega

/-- **How the bytes arrive does not matter.**  Two ways of splitting a stream into reads give
the same packets and the same buffer; the packets are disjoint blocks of the stream, in
order; and the buffer is the end of the stream, of at most 259 bytes.  The reads are any
number of calls, so this holds after each call. -/
theorem poll_split_independent {reads reads' : List (List UInt8)}
    (h : reads.flatten = reads'.flatten) :
    pollAll reads = pollAll reads' ∧
      ∃ items skipped,
        reads.flatten = spaced items ++ (skipped ++ (pollAll reads).1.buffer) ∧
        items.map Prod.snd = (pollAll reads).2 ∧
        (∀ x ∈ items, x.2.packet.payload.length ≤ 255) ∧
        (pollAll reads).1.buffer <:+ reads.flatten ∧ (pollAll reads).1.buffer.length ≤ 259 := by
  obtain ⟨items, skipped, hsplit, hitems, hpayload, hleft⟩ := processBuffer_spaced reads.flatten
  refine ⟨by rw [pollAll_eq, pollAll_eq, h], items, skipped, ?_⟩
  rw [pollAll_eq]
  refine ⟨hsplit, hitems, hpayload, ⟨spaced items ++ skipped, ?_⟩, hleft⟩
  rw [List.append_assoc]
  exact hsplit.symm

/-- Two reads that cut a ping in its header, and one byte of the next frame. -/
theorem poll_split_independent_ping :
    pollAll [[7, 1, 0x4C, 0x4B], [0x01, 0, 2]] = pollAll [[7, 1, 0x4C, 0x4B, 0x01, 0, 2]] ∧
      ∃ items skipped,
        [[7, 1, 0x4C, 0x4B], [0x01, 0, 2]].flatten =
          spaced items ++ (skipped ++ (pollAll [[7, 1, 0x4C, 0x4B], [0x01, 0, 2]]).1.buffer) ∧
        items.map Prod.snd = (pollAll [[7, 1, 0x4C, 0x4B], [0x01, 0, 2]]).2 ∧
        (∀ x ∈ items, x.2.packet.payload.length ≤ 255) ∧
        (pollAll [[7, 1, 0x4C, 0x4B], [0x01, 0, 2]]).1.buffer <:+
          [[7, 1, 0x4C, 0x4B], [0x01, 0, 2]].flatten ∧
        (pollAll [[7, 1, 0x4C, 0x4B], [0x01, 0, 2]]).1.buffer.length ≤ 259 :=
  poll_split_independent rfl

/-! ## Frames after noise -/

/-- **Every frame after noise is found**, and nothing else. -/
theorem processBuffer_frames_after_noise {items : List (List UInt8 × Frame)}
    (h : ∀ x ∈ items, x.2.packet.payload.length ≤ 255 ∧ NoFrameStart x.1 x.2.nodeId) :
    processBuffer (spaced items) = ([], items.map Prod.snd) := by
  induction items with
  | nil => rfl
  | cons x items ih =>
      obtain ⟨⟨hpayload, hnoise⟩, hitems⟩ := List.forall_mem_cons.mp h
      have hnat := toNat_byte hpayload
      rw [spaced_cons, Frame.bytes_eq]
      simp only [List.append_assoc, List.cons_append, List.map_cons]
      rw [processBuffer_noFrameStart hnoise (by simp), processBuffer_take (by simp [hnat]), hnat,
        List.take_left, List.drop_left, ih hitems]

/-- **The host recovers every frame after noise**, whatever the reads. -/
theorem poll_recovers {items : List (List UInt8 × Frame)} {reads : List (List UInt8)}
    (h : ∀ x ∈ items, x.2.packet.payload.length ≤ 255 ∧
      ¬ [0x4C, 0x4B] <:+: x.1 ++ [x.2.nodeId])
    (hreads : reads.flatten = spaced items) :
    (pollAll reads).2 = items.map Prod.snd := by
  rw [pollAll_eq, hreads, processBuffer_frames_after_noise h]

/-- Noise and a node id that both end in the first byte of the magic. -/
theorem poll_recovers_ping :
    (pollAll [[0x4B, 0x4C], [0x4C, 0x4C, 0x4B], [0x01, 1, 9]]).2 = [⟨0x4C, 0x01, [9]⟩] :=
  @poll_recovers [([0x4B, 0x4C], ⟨0x4C, 0x01, [9]⟩)] _ (by decide) rfl

end Klippylink
