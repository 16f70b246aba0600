import Klippylink.Host.SerialTransport
import Klippylink.Lib.Transducer

/-!
# What the host reads out of any stream of bytes

The loop of `_process_buffer` on a buffer with too few bytes, with no frame start, with
the beginning of a frame and with a whole one: these are its equations, and every result
is an induction over them.  Two of the results are general.  Reads may split the stream
as they like; and bytes in which no frame starts are skipped before a frame.

## Main definitions

* `reading_induction` — the four cases of the loop, as an induction principle.
* `processBuffer_append` — reading more bytes goes on where the first read stopped.
* `hostReads` — the packets that `poll` hands out, over any list of reads.
* `NoFrameStart`, `processBuffer_noFrameStart` — bytes that are skipped, whatever they are,
  as long as no magic lies in them.
-/

namespace Klippylink

open Lib SerialTransport

/-! ## The four cases -/

/-- With more fuel than bytes the fuel does not matter. -/
theorem processBufferGo_congr (fuel : ℕ) : ∀ (fuel' : ℕ) (b : List UInt8), b.length ≤ fuel →
    b.length ≤ fuel' → processBufferGo fuel b = processBufferGo fuel' b := by
  induction fuel with
  | zero =>
      intro fuel' b h _
      have hnil : b = [] := List.length_eq_zero_iff.mp (Nat.le_zero.mp h)
      subst hnil
      cases fuel' <;> rfl
  | succ fuel ih =>
      intro fuel' b h h'
      match fuel', b with
      | 0, b =>
          have hnil : b = [] := List.length_eq_zero_iff.mp (Nat.le_zero.mp h')
          subst hnil
          rfl
      | _ + 1, [] => rfl
      | _ + 1, [_] => rfl
      | _ + 1, [_, _] => rfl
      | _ + 1, [_, _, _] => rfl
      | _ + 1, [_, _, _, _] => rfl
      | fuel' + 1, n :: m0 :: m1 :: c :: l :: rest =>
          simp only [List.length_cons] at h h'
          have hskip := ih fuel' (m0 :: m1 :: c :: l :: rest)
            (by simp only [List.length_cons]; omega) (by simp only [List.length_cons]; omega)
          have hheader : framedHeaderSize = 5 := rfl
          have hdrop := ih fuel' ((n :: m0 :: m1 :: c :: l :: rest).drop
            (framedHeaderSize + l.toNat))
            (by simp only [List.length_drop, List.length_cons]; omega)
            (by simp only [List.length_drop, List.length_cons]; omega)
          simp only [processBufferGo, hskip, hdrop]

theorem processBufferGo_eq {fuel : ℕ} {b : List UInt8} (h : b.length ≤ fuel) :
    processBufferGo fuel b = processBuffer b :=
  processBufferGo_congr fuel b.length b h (Nat.le_refl _)

/-- Fewer bytes than a header are kept. -/
theorem processBuffer_short {b : List UInt8} (h : b.length < 5) : processBuffer b = (b, []) := by
  match b with
  | [] => rfl
  | [_] => rfl
  | [_, _] => rfl
  | [_, _, _] => rfl
  | [_, _, _, _] => rfl
  | _ :: _ :: _ :: _ :: _ :: rest =>
      simp only [List.length_cons] at h
      omega

/-- The first byte goes when the two after it are not the magic. -/
theorem processBuffer_skip {n : UInt8} {b : List UInt8} (hlen : 4 ≤ b.length)
    (h : ¬ [0x4C, 0x4B] <+: b) : processBuffer (n :: b) = processBuffer b := by
  match b with
  | [] | [_] | [_, _] | [_, _, _] =>
      simp only [List.length_cons, List.length_nil] at hlen
      omega
  | m0 :: m1 :: c :: l :: rest =>
      have hmagic : ofLe16 m0 m1 ≠ klipprotoMagic := by
        intro heq
        obtain ⟨rfl, rfl⟩ := magic_iff.mp heq
        exact h ⟨c :: l :: rest, rfl⟩
      have hlen' : (m0 :: m1 :: c :: l :: rest).length ≤ rest.length + 4 := Nat.le_refl _
      rw [processBuffer, List.length_cons, List.length_cons, List.length_cons, List.length_cons,
        List.length_cons, processBufferGo]
      simp only [hmagic, ne_eq, not_false_eq_true, if_true]
      exact processBufferGo_eq hlen'

/-- A frame that has not arrived in full is kept. -/
theorem processBuffer_wait {n c l : UInt8} {rest : List UInt8} (h : rest.length < l.toNat) :
    processBuffer (n :: 0x4C :: 0x4B :: c :: l :: rest) =
      (n :: 0x4C :: 0x4B :: c :: l :: rest, []) := by
  have hmagic : ofLe16 0x4C 0x4B = klipprotoMagic := rfl
  have hheader : framedHeaderSize = 5 := rfl
  have hlen : (n :: 0x4C :: 0x4B :: c :: l :: rest).length < framedHeaderSize + l.toNat := by
    simp only [List.length_cons]
    omega
  rw [processBuffer, List.length_cons, processBufferGo]
  simp only [hmagic, ne_eq, not_true_eq_false, if_false, hlen, if_true]

/-- What is taken off the front of the stream is a frame. -/
theorem frame_of_take {n c l : UInt8} {rest : List UInt8} (h : l.toNat ≤ rest.length) :
    n :: 0x4C :: 0x4B :: c :: l :: rest =
      Frame.bytes ⟨n, c, rest.take l.toNat⟩ ++ rest.drop l.toNat := by
  have htake : (rest.take l.toNat).length = l.toNat := List.length_take_of_le h
  rw [Frame.bytes_eq]
  simp only [htake, UInt8.ofNat_toNat, List.cons_append, List.take_append_drop]

/-- A whole frame is taken. -/
theorem processBuffer_take {n c l : UInt8} {rest : List UInt8} (h : l.toNat ≤ rest.length) :
    processBuffer (n :: 0x4C :: 0x4B :: c :: l :: rest) =
      ((processBuffer (rest.drop l.toNat)).1,
        ⟨n, c, rest.take l.toNat⟩ :: (processBuffer (rest.drop l.toNat)).2) := by
  have hl := l.toNat_lt
  have htake : (rest.take l.toNat).length = l.toNat := List.length_take_of_le h
  have hfuel : (rest.drop l.toNat).length ≤ rest.length + 4 := by
    rw [List.length_drop]
    omega
  rw [processBuffer, List.length_cons, frame_of_take h, processBufferGo_frame]
  · simp only [List.length_cons]
    rw [processBufferGo_eq hfuel]
  · simp only [htake]
    omega

/-- **The cases of the loop**: too few bytes, no frame start, part of a frame, a whole
frame. -/
theorem reading_induction {motive : List UInt8 → Prop}
    (short : ∀ b : List UInt8, b.length < 5 → motive b)
    (skip : ∀ n b, 4 ≤ b.length → ¬ [0x4C, 0x4B] <+: b → motive b → motive (n :: b))
    (wait : ∀ n c (l : UInt8) (rest : List UInt8), rest.length < l.toNat →
      motive (n :: 0x4C :: 0x4B :: c :: l :: rest))
    (take : ∀ n c (l : UInt8) (rest : List UInt8), l.toNat ≤ rest.length →
      motive (rest.drop l.toNat) → motive (n :: 0x4C :: 0x4B :: c :: l :: rest)) :
    ∀ b, motive b := by
  intro b
  induction hn : b.length using Nat.strongRecOn generalizing b with
  | ind k ih =>
      by_cases hshort : b.length < 5
      · exact short b hshort
      · match b with
        | [] => exact absurd (by decide) hshort
        | n :: b =>
            rw [List.length_cons] at hshort hn
            by_cases hmagic : [0x4C, 0x4B] <+: b
            · obtain ⟨t, rfl⟩ := hmagic
              match t with
              | [] | [_] =>
                  simp at hshort
              | c :: l :: rest =>
                  by_cases hwait : rest.length < l.toNat
                  · exact wait n c l rest hwait
                  · refine take n c l rest (Nat.le_of_not_lt hwait) (ih _ ?_ _ rfl)
                    simp only [List.length_drop, ← hn, List.length_append, List.length_cons]
                    omega
            · exact skip n b (by omega) hmagic (ih _ (by omega) b rfl)

/-! ## Any split into reads -/

/-- **Reading more bytes goes on where the first read stopped.** -/
theorem processBuffer_append (a b : List UInt8) :
    processBuffer (a ++ b) =
      ((processBuffer ((processBuffer a).1 ++ b)).1,
        (processBuffer a).2 ++ (processBuffer ((processBuffer a).1 ++ b)).2) := by
  induction a using reading_induction with
  | short a h => rw [processBuffer_short h, List.nil_append]
  | skip n a hlen hmagic ih =>
      have hmagic' : ¬ [0x4C, 0x4B] <+: a ++ b := by
        rintro ⟨t, ht⟩
        match a with
        | [] | [_] =>
            simp at hlen
        | x :: y :: a =>
            simp only [List.cons_append, List.cons.injEq] at ht
            exact hmagic ⟨a, by rw [← ht.1, ← ht.2.1]; rfl⟩
      rw [processBuffer_skip hlen hmagic, List.cons_append, processBuffer_skip _ hmagic', ih]
      rw [List.length_append]
      omega
  | wait n c l rest h => rw [processBuffer_wait h, List.nil_append]
  | take n c l rest h ih =>
      have h' : l.toNat ≤ (rest ++ b).length := by
        rw [List.length_append]
        omega
      rw [processBuffer_take h]
      simp only [List.cons_append]
      rw [processBuffer_take h', List.take_append_of_le_length h,
        List.drop_append_of_le_length h, ih]

/-- What the loop leaves, it leaves again. -/
theorem processBuffer_left (b : List UInt8) :
    processBuffer (processBuffer b).1 = ((processBuffer b).1, []) := by
  have h := processBuffer_append b []
  rw [List.append_nil, List.append_nil] at h
  have hstate := congrArg Prod.fst h
  have hout := congrArg Prod.snd h
  exact Prod.ext hstate.symm (List.self_eq_append_right.mp hout)

/-- The packets that `poll` hands out when the port has these bytes to read, one list at
a time; the port is open and nothing has been read before. -/
def hostReads (reads : List (List UInt8)) : List Frame :=
  (Transducer.run SerialTransport.poll ⟨true, []⟩ reads).2

/-- Any reads come to one pass over all the bytes, in what is handed out and in what is
kept. -/
theorem run_poll_state (reads : List (List UInt8)) : ∀ t : SerialTransport, t.isOpen = true →
    processBuffer t.buffer = (t.buffer, []) →
    Transducer.run SerialTransport.poll t reads =
      (⟨true, (processBuffer (t.buffer ++ reads.flatten)).1⟩,
        (processBuffer (t.buffer ++ reads.flatten)).2) := by
  induction reads with
  | nil =>
      rintro ⟨isOpen, buffer⟩ rfl hleft
      rw [List.flatten_nil, List.append_nil, hleft]
      rfl
  | cons data reads ih =>
      intro t hopen hleft
      rw [Transducer.run_cons, List.flatten_cons]
      by_cases hnil : data = []
      · have hpoll : t.poll data = (t, []) := by simp [SerialTransport.poll, hnil]
        have hrest := ih t hopen hleft
        rw [hpoll, hnil, List.nil_append, hrest]
        rfl
      · have hpoll : t.poll data = ({ t with buffer := (processBuffer (t.buffer ++ data)).1 },
            (processBuffer (t.buffer ++ data)).2) := by
          simp [SerialTransport.poll, hnil, hopen]
        have hrest := ih { t with buffer := (processBuffer (t.buffer ++ data)).1 } hopen
          (processBuffer_left _)
        rw [hpoll, ← List.append_assoc, processBuffer_append (t.buffer ++ data), hrest]

/-- **Only the bytes matter, not how they arrive.** -/
theorem hostReads_eq (reads : List (List UInt8)) :
    hostReads reads = (processBuffer reads.flatten).2 :=
  congrArg Prod.snd (run_poll_state reads ⟨true, []⟩ rfl rfl)

/-! ## Frames among other bytes -/

/-- A packet that is handed out was in the buffer. -/
theorem length_of_mem_processBuffer {b : List UInt8} {f : Frame} (h : f ∈ (processBuffer b).2) :
    5 + f.packet.payload.length ≤ b.length := by
  induction b using reading_induction with
  | short b hb =>
      rw [processBuffer_short hb] at h
      cases h
  | skip n b hlen hmagic ih =>
      rw [processBuffer_skip hlen hmagic] at h
      rw [List.length_cons]
      exact Nat.le_succ_of_le (ih h)
  | wait n c l rest hwait =>
      rw [processBuffer_wait hwait] at h
      cases h
  | take n c l rest htake ih =>
      rw [processBuffer_take htake, List.mem_cons] at h
      simp only [List.length_cons]
      rcases h with rfl | h
      · simp only [List.length_take]
        omega
      · have hrest := ih h
        rw [List.length_drop] at hrest
        omega

/-- No magic begins in the bytes before a node id, or at their last byte. -/
def NoFrameStart (noise : List UInt8) (nodeId : UInt8) : Prop :=
  ¬ [0x4C, 0x4B] <:+: noise ++ [nodeId]

theorem NoFrameStart.tail {x n : UInt8} {noise : List UInt8} (h : NoFrameStart (x :: noise) n) :
    NoFrameStart noise n :=
  fun hin => h (hin.trans (List.suffix_cons x (noise ++ [n])).isInfix)

/-- Where no frame starts in the noise, the magic that follows it is not found early. -/
theorem NoFrameStart.not_magic {x n : UInt8} {noise t : List UInt8}
    (h : NoFrameStart (x :: noise) n) :
    ¬ [0x4C, 0x4B] <+: noise ++ n :: 0x4C :: 0x4B :: t := by
  rintro ⟨s, hs⟩
  match noise with
  | [] =>
      simp only [List.cons_append, List.nil_append, List.cons.injEq] at hs
      exact absurd hs.2.1 (by decide)
  | [y] =>
      simp only [List.cons_append, List.nil_append, List.cons.injEq] at hs
      obtain ⟨rfl, rfl, -⟩ := hs
      exact h ⟨[x], [], rfl⟩
  | y :: z :: noise =>
      simp only [List.cons_append, List.cons.injEq] at hs
      obtain ⟨rfl, rfl, -⟩ := hs
      exact h ⟨[x], noise ++ [n], rfl⟩

/-- **Noise is skipped** up to the node id of the frame that follows it. -/
theorem processBuffer_noFrameStart {noise : List UInt8} {n : UInt8} (h : NoFrameStart noise n)
    {t : List UInt8} (ht : 2 ≤ t.length) :
    processBuffer (noise ++ n :: 0x4C :: 0x4B :: t) = processBuffer (n :: 0x4C :: 0x4B :: t) := by
  induction noise with
  | nil => rfl
  | cons x noise ih =>
      rw [List.cons_append, processBuffer_skip _ h.not_magic, ih h.tail]
      simp only [List.length_append, List.length_cons]
      omega

/-- Bytes without the second byte of the magic are skipped. -/
theorem processBuffer_noise {noise : List UInt8} (hnoise : 0x4B ∉ noise) {n : UInt8}
    (hn : n ≠ 0x4B) {t : List UInt8} (ht : 2 ≤ t.length) :
    processBuffer (noise ++ n :: 0x4C :: 0x4B :: t) = processBuffer (n :: 0x4C :: 0x4B :: t) := by
  refine processBuffer_noFrameStart (fun hin => ?_) ht
  have hmem : 0x4B ∈ noise ++ [n] := hin.subset (by simp)
  rcases List.mem_append.mp hmem with hmem | hmem
  · exact hnoise hmem
  · exact hn (List.mem_singleton.mp hmem).symm

/-- With nothing behind them, the last ones are kept. -/
theorem processBuffer_noise_only {noise : List UInt8} (hnoise : 0x4B ∉ noise) :
    ∃ left, processBuffer noise = (left, []) ∧ 0x4B ∉ left ∧ left.length < 5 := by
  induction noise with
  | nil => exact ⟨[], rfl, hnoise, by decide⟩
  | cons x noise ih =>
      have hrest : 0x4B ∉ noise := fun hmem => hnoise (List.mem_cons_of_mem _ hmem)
      by_cases hlen : (x :: noise).length < 5
      · exact ⟨_, processBuffer_short hlen, hnoise, hlen⟩
      · have hmagic : ¬ [0x4C, 0x4B] <+: noise := fun hpre => hrest (hpre.subset (by simp))
        rw [List.length_cons] at hlen
        rw [processBuffer_skip (by omega) hmagic]
        exact ih hrest

/-- A stream of frames behind them is read as it is. -/
theorem processBuffer_noise_frames {noise : List UInt8} (hnoise : 0x4B ∉ noise)
    (hlen : noise.length < 5) {fs : List Frame}
    (hfs : ∀ f ∈ fs, f.nodeId ≠ 0x4B ∧ f.packet.payload.length ≤ 255) :
    ∃ left, processBuffer (noise ++ frameStream fs) = (left, fs) ∧ 0x4B ∉ left ∧
      left.length < 5 := by
  induction fs generalizing noise with
  | nil =>
      refine ⟨noise, ?_, hnoise, hlen⟩
      rw [frameStream_nil, List.append_nil, processBuffer_short hlen]
  | cons f fs ih =>
      obtain ⟨⟨hnode, hpayload⟩, hfs⟩ := List.forall_mem_cons.mp hfs
      have hnat := toNat_byte hpayload
      have hempty : (0x4B : UInt8) ∉ [] := List.not_mem_nil
      obtain ⟨left, hleft, hrest⟩ := ih hempty (by decide) hfs
      refine ⟨left, ?_, hrest⟩
      rw [frameStream_cons, Frame.bytes_eq]
      simp only [List.cons_append]
      rw [processBuffer_noise hnoise hnode (by simp), processBuffer_take (by simp [hnat]), hnat,
        List.take_left, List.drop_left]
      rw [List.nil_append] at hleft
      rw [hleft]

end Klippylink
