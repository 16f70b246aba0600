import Klippylink.Host.SerialTransport
import Klippylink.Router.Framing

/-!
# Frames from the host through the command parser

What `send_packet` writes is one stretch of the stream without noise, so the
parser dispatches the packet of the frame to the node of the frame and is idle
again.  A stream of frames is then an induction over its stretches.

## Main definitions

* `Frame.dispatch` — what the parser makes of a frame.
* `commandParserFeed_frames` — the parser over a stream of frames.
* `Rx.Fed` — the parser in the middle of a frame.
-/

namespace Klippylink

open Lib

/-- The dispatch of a frame: its node id and the bytes of its packet. -/
def Frame.dispatch (f : Frame) : Dispatch :=
  ⟨f.nodeId, klipPacket f.packet.command f.packet.payload⟩

/-- A legal payload fits its byte, and the packet fits the buffer. -/
theorem totalLen_payload {payload : List UInt8} (h : payload.length ≤ klipMaxPayloadSize) :
    totalLen (UInt8.ofNat payload.length) = 4 + payload.length := by
  have hsize : payload.length ≤ 244 := h
  rw [totalLen, UInt8.toNat_add, toNat_byte (by omega)]
  change (4 + payload.length) % 256 = _
  omega

/-- A legal payload and its header fit the buffer. -/
theorem four_add_le {n : ℕ} (h : n ≤ klipMaxPayloadSize) : 4 + n ≤ klipMaxPacketSize :=
  Nat.add_le_add_left h 4

theorem bodyLen_payload {payload : List UInt8} (h : payload.length ≤ klipMaxPayloadSize) :
    bodyLen (UInt8.ofNat payload.length) = 4 + payload.length := by
  rw [bodyLen, totalLen_payload h, if_pos (four_add_le h)]
  omega

/-- The stretch of a frame. -/
def Frame.stretch (f : Frame) : Stretch :=
  ⟨f.nodeId, [], klipPacket f.packet.command f.packet.payload⟩

/-- A frame is the first stretch of any stream it begins. -/
theorem nextStretch_frame (f : Frame) (rest : List UInt8)
    (h : f.packet.payload.length ≤ klipMaxPayloadSize) :
    nextStretch (f.bytes ++ rest) = some (f.stretch, rest) := by
  have hmagic : ofLe16 0x4C 0x4B = klipprotoMagic := rfl
  have hbody := bodyLen_payload h
  simp only [Frame.bytes_eq, List.cons_append, nextStretch, seek, hmagic, if_true,
    List.getD_cons_succ, List.getD_cons_zero, hbody, List.length_cons, List.length_append]
  rw [if_pos (by omega), Nat.add_comm 4]
  simp only [List.take_succ_cons, List.take_left, List.drop_succ_cons, List.drop_left]
  rfl

theorem dispatch_stretch (f : Frame) (h : f.packet.payload.length ≤ klipMaxPayloadSize) :
    f.stretch.dispatch = some f.dispatch := by
  have htotal := totalLen_payload h
  rw [Frame.stretch, klipPacket_eq, dispatch_header, htotal,
    if_pos (four_add_le h), Nat.add_comm 4]
  simp only [List.take_succ_cons, List.take_length]
  rfl

/-- **The list receiver over a stream of frames.** -/
theorem runAt_frames (fs : List Frame) :
    ∀ n, (∀ f ∈ fs, f.packet.payload.length ≤ klipMaxPayloadSize) →
      (runAt n none (frameStream fs)).1.2 = none ∧
        (runAt n none (frameStream fs)).2.map Located.dispatch = fs.map Frame.dispatch := by
  induction fs with
  | nil => intro n _; exact ⟨rfl, rfl⟩
  | cons f fs ih =>
      intro n hfs
      obtain ⟨hf, hfs⟩ := List.forall_mem_cons.mp hfs
      rw [frameStream_cons, runAt_stretch n (nextStretch_frame f _ hf)]
      obtain ⟨hidle, hout⟩ := ih (n + f.stretch.bytes.length) hfs
      refine ⟨hidle, ?_⟩
      simp only [Stretch.located, dispatch_stretch f hf, List.map_append, hout]
      rfl

/-- **The parser over a stream of frames, in any split into calls**: one dispatch
a frame, in order, and idle at the end. -/
theorem commandParserFeed_frames {s : Rx} (hs : s.Idle) {fs : List Frame}
    (hfs : ∀ f ∈ fs, f.packet.payload.length ≤ klipMaxPayloadSize) {calls : List (List UInt8)}
    (hcalls : calls.flatten = frameStream fs) :
    (commandParserFeed s calls).2 = fs.map Frame.dispatch ∧ (commandParserFeed s calls).1.Idle := by
  obtain ⟨hidle, hout⟩ := runAt_frames fs 0 hfs
  obtain ⟨hsim, hlog⟩ := run_locatedByte_eq calls.flatten 0 s none (simulates_of_idle hs)
  obtain ⟨hdispatch, hstate⟩ := locatedFeed_eq s calls
  rw [hcalls] at hsim hlog
  rw [hidle] at hsim
  rw [← hdispatch, ← hstate, locatedFeed, Transducer.runChunks_eq_run_flatten, hcalls, hlog]
  exact ⟨hout, idle_of_simulates hsim⟩

/-- Part of a frame is no stretch yet. -/
theorem nextStretch_part {fs : List Frame} {part : List UInt8}
    (hfs : ∀ f ∈ fs, f.packet.payload.length ≤ klipMaxPayloadSize) (hpart : FramePart fs part) :
    nextStretch part = none := by
  rcases hpart with rfl | ⟨f, hf, more, hbytes, hmore⟩
  · rfl
  have hlen := congrArg List.length hbytes
  have hpos := List.length_pos_iff.mpr hmore
  rw [List.length_append, Frame.length_bytes] at hlen
  match part with
  | [] => rfl
  | [_] => rfl
  | [_, _] => rfl
  | [_, _, _] => rfl
  | [_, _, _, _] => rfl
  | nid :: m0 :: m1 :: cmd :: length :: part =>
      rw [Frame.bytes_eq] at hbytes
      simp only [List.cons_append, List.cons.injEq] at hbytes
      obtain ⟨rfl, rfl, rfl, rfl, rfl, -⟩ := hbytes
      have hmagic : ofLe16 0x4C 0x4B = klipprotoMagic := rfl
      have hbody := bodyLen_payload (hfs f hf)
      simp only [List.length_cons] at hlen
      simp only [nextStretch, seek, hmagic, if_true, List.getD_cons_succ, List.getD_cons_zero,
        hbody, List.length_cons]
      rw [if_neg (by omega)]

/-- The parser has taken `part` since it was idle, and dispatched nothing. -/
def Rx.Fed (s : Rx) (part : List UInt8) : Prop :=
  ∃ s₀ : Rx, s₀.Idle ∧ Transducer.run commandParserByte s₀ part = (s, [])

theorem Rx.Idle.fed {s : Rx} (h : s.Idle) : s.Fed [] := ⟨s, h, rfl⟩

/-- From idle, part of a frame is taken without a dispatch. -/
theorem Rx.Idle.fed_part {s : Rx} (h : s.Idle) {fs : List Frame} {part : List UInt8}
    (hfs : ∀ f ∈ fs, f.packet.payload.length ≤ klipMaxPayloadSize) (hpart : FramePart fs part) :
    (Transducer.run commandParserByte s part).2 = [] := by
  have hnone := runAt_unfinished 0 (nextStretch_part hfs hpart)
  rw [runAt, ← (run_locatedByte_eq part 0 s none (simulates_of_idle h)).2] at hnone
  rw [← (run_locatedByte part 0 s).2, hnone]
  rfl

/-- **Feeding part of a stream of frames.**  The frames that are complete are
dispatched in order, and the parser has taken the beginning of the next one. -/
theorem Rx.Fed.feed {s : Rx} {part : List UInt8} (h : s.Fed part) {fs : List Frame}
    {data later : List UInt8} (hfs : ∀ f ∈ fs, f.packet.payload.length ≤ klipMaxPayloadSize)
    (hdata : part ++ data ++ later = frameStream fs) :
    ∃ done rest part', fs = done ++ rest ∧
      (Transducer.run commandParserByte s data).2 = done.map Frame.dispatch ∧
      (Transducer.run commandParserByte s data).1.Fed part' ∧ part' ++ later = frameStream rest ∧
      (later = [] → rest = []) := by
  obtain ⟨s₀, hidle, hpart⟩ := h
  obtain ⟨done, rest, part', rfl, hsplit, hrest, hcut, hend⟩ := exists_frames_part hdata
  obtain ⟨hdone, hlegal⟩ := List.forall_mem_append.mp hfs
  -- what `s` makes of the data, `s₀` makes of the part and the data
  have hrun : Transducer.run commandParserByte s₀ (part ++ data) =
      Transducer.run commandParserByte s data := by
    rw [Transducer.run_append, hpart]
    rfl
  have hcalls : [frameStream done].flatten = frameStream done := List.append_nil _
  have hframes := commandParserFeed_frames hidle hdone hcalls
  simp only [commandParserFeed, Transducer.runChunks_eq_run_flatten, List.flatten_cons,
    List.flatten_nil, List.append_nil] at hframes
  obtain ⟨hout, hidle'⟩ := hframes
  have hquiet := hidle'.fed_part hlegal hcut
  rw [hsplit, Transducer.run_append] at hrun
  refine ⟨done, rest, part', rfl, ?_, ⟨_, hidle', ?_⟩, hrest, hend⟩
  · rw [← hrun]
    simp only [hout, hquiet, List.append_nil]
  · rw [← hrun]
    exact Prod.ext rfl hquiet

/-! ### From `send_packet` to dispatch -/

/-- What an open port is written when these frames are sent one after another. -/
theorem mapM_sendPacket {t : SerialTransport} (ht : t.isOpen = true) (fs : List Frame)
    (hfs : ∀ f ∈ fs, f.packet.payload.length ≤ 255) :
    fs.mapM (fun f => t.sendPacket f.nodeId.toNat f.packet) = .ok (fs.map Frame.bytes) := by
  induction fs with
  | nil => rfl
  | cons f fs ih =>
      obtain ⟨hf, hfs⟩ := List.forall_mem_cons.mp hfs
      rw [List.mapM_cons, SerialTransport.sendPacket_eq ht f.nodeId hf, ih hfs]
      rfl

/-- **The framing round trip.**  Frames with legal payloads are written by
`send_packet` without an error, and the parser, fed what was written from idle and
in any split into calls, dispatches exactly one packet a frame: the bytes that
`encode` gives, to the node of the frame.  It is idle again at the end. -/
theorem framing_round_trip {t : SerialTransport} (ht : t.isOpen = true) {s : Rx} (hs : s.Idle)
    (fs : List Frame) (hfs : ∀ f ∈ fs, f.packet.payload.length ≤ klipMaxPayloadSize) :
    ∃ written, fs.mapM (fun f => t.sendPacket f.nodeId.toNat f.packet) = .ok written ∧
      ∀ calls : List (List UInt8), calls.flatten = written.flatten →
        (commandParserFeed s calls).2.map (fun d => (d.nodeId, some d.packet)) =
            fs.map (fun f => (f.nodeId, f.packet.encode)) ∧
          (commandParserFeed s calls).1.rxHaveNid = false ∧
          (commandParserFeed s calls).1.rxOffset = 0 := by
  have hbyte : ∀ f ∈ fs, f.packet.payload.length ≤ 255 := fun f hf =>
    Nat.le_trans (hfs f hf) (by decide)
  refine ⟨fs.map Frame.bytes, mapM_sendPacket ht fs hbyte, ?_⟩
  intro calls hcalls
  obtain ⟨hout, hidle⟩ := commandParserFeed_frames hs hfs hcalls
  refine ⟨?_, hidle⟩
  rw [hout, List.map_map]
  apply List.map_congr_left
  intro f hf
  rw [KlipPacket.encode_eq (hbyte f hf)]
  rfl

/-- After the start, a ping and a two-byte packet whose payload is the magic. -/
theorem framing_round_trip_two :
    ∃ written, [(⟨3, ⟨0x01, []⟩⟩ : Frame), ⟨255, ⟨0x60, [0x4C, 0x4B]⟩⟩].mapM
        (fun f => (⟨true, []⟩ : SerialTransport).sendPacket f.nodeId.toNat f.packet) = .ok written ∧
      ∀ calls : List (List UInt8), calls.flatten = written.flatten →
        (commandParserFeed (commandParserInit Rx.start) calls).2.map
            (fun d => (d.nodeId, some d.packet)) =
            [(⟨3, ⟨0x01, []⟩⟩ : Frame), ⟨255, ⟨0x60, [0x4C, 0x4B]⟩⟩].map
              (fun f => (f.nodeId, f.packet.encode)) ∧
          (commandParserFeed (commandParserInit Rx.start) calls).1.rxHaveNid = false ∧
          (commandParserFeed (commandParserInit Rx.start) calls).1.rxOffset = 0 :=
  framing_round_trip rfl (idle_commandParserInit _) _ (by decide)

end Klippylink
