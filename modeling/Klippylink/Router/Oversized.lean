import Klippylink.Router.RoundTrip
import Klippylink.Router.Sizes

/-!
# Frames that do not fit the parser's buffer

The host encodes payloads of up to 255 bytes, and the parser's buffer holds 244.  With one
byte too many the parser fills its buffer, drops the byte that does not fit and is idle again
where the next frame begins.  With more, the rest of the payload is read as the beginning of
a frame, and with 252 or more the header alone is dispatched.

## Main definitions

* `Spared` — the frames after one on the wire are dispatched, and nothing else is.
* `dispatches_cut` — the dispatches of a stream, first stretch first.
* `sendPacket_spares_iff` — the frames that do no harm to the ones after them.
-/

namespace Klippylink

open Lib

/-- From idle and in any split into calls, the parser dispatches nothing of these bytes and
then every frame behind them, once, in order and to its own node id. -/
def Spared (bytes : List UInt8) (fs : List Frame) : Prop :=
  ∀ s : Rx, s.Idle → ∀ calls : List (List UInt8), calls.flatten = bytes ++ frameStream fs →
    (commandParserFeed s calls).2 = fs.map Frame.dispatch

/-- What a stream read from idle dispatches. -/
def dispatches (stream : List UInt8) : List Dispatch :=
  (stretches stream).flatMap fun st => st.dispatch.toList

theorem map_dispatch_locate (sts : List Stretch) :
    ∀ n, (locate n sts).map Located.dispatch = sts.flatMap fun st => st.dispatch.toList := by
  induction sts with
  | nil => intro n; rfl
  | cons st sts ih =>
      intro n
      rw [locate, List.map_append, ih, List.flatMap_cons, Stretch.located, List.map_map]
      simp [Function.comp_def]

/-- From idle, in any split into calls. -/
theorem commandParserFeed_idle {s : Rx} (hs : s.Idle) (calls : List (List UInt8)) :
    (commandParserFeed s calls).2 = dispatches calls.flatten := by
  rw [← (locatedFeed_eq s calls).1, locatedFeed_idle hs, map_dispatch_locate]
  rfl

/-- The calls do not matter, so one call decides. -/
theorem spared_iff {bytes : List UInt8} {fs : List Frame} :
    Spared bytes fs ↔ dispatches (bytes ++ frameStream fs) = fs.map Frame.dispatch := by
  constructor
  · intro h
    have hone := h Rx.start ⟨rfl, rfl⟩ [bytes ++ frameStream fs] (by simp)
    rw [commandParserFeed_idle ⟨rfl, rfl⟩] at hone
    simpa using hone
  · intro h s hs calls hcalls
    rw [commandParserFeed_idle hs, hcalls, h]

/-- A stream dispatches what its first stretch does, and then the rest. -/
theorem dispatches_cut {stream rest : List UInt8} {st : Stretch}
    (h : nextStretch stream = some (st, rest)) :
    dispatches stream = st.dispatch.toList ++ dispatches rest := by
  rw [dispatches, stretches_of_some h, List.flatMap_cons]
  rfl

/-- Frames that fit are dispatched. -/
theorem dispatches_frames {fs : List Frame}
    (hfs : ∀ f ∈ fs, f.packet.payload.length ≤ klipMaxPayloadSize) :
    dispatches (frameStream fs) = fs.map Frame.dispatch := by
  have hcalls : [frameStream fs].flatten = frameStream fs := List.append_nil _
  have hone := (commandParserFeed_frames (s := Rx.start) ⟨rfl, rfl⟩ hfs hcalls).1
  rw [commandParserFeed_idle ⟨rfl, rfl⟩] at hone
  simpa using hone

/-- The first stretch takes its node id from the first byte. -/
theorem nodeId_of_nextStretch {nid : UInt8} {stream rest : List UInt8} {st : Stretch}
    (h : nextStretch (nid :: stream) = some (st, rest)) : st.nodeId = nid := by
  have hsplit := (nextStretch_eq_some h).1
  rw [Stretch.bytes, List.cons_append, List.cons.injEq] at hsplit
  exact hsplit.1.symm

/-- **Few bytes in front of a frame for another node.**  They take it over, or swallow it:
the frame is not all that is dispatched. -/
theorem dispatches_displaced {nid : UInt8} {stream : List UInt8} {d : Dispatch}
    (hlen : stream.length < klipMaxPacketSize) (hnode : d.nodeId ≠ nid) :
    dispatches (nid :: stream) ≠ [d] := by
  intro hone
  cases hnext : nextStretch (nid :: stream) with
  | none =>
      rw [dispatches, stretches_of_none hnext] at hone
      cases hone
  | some p =>
      obtain ⟨st, rest⟩ := p
      have hnid := nodeId_of_nextStretch hnext
      obtain ⟨hsplit, hbody, -⟩ := nextStretch_eq_some hnext
      have hbytes := congrArg List.length hsplit
      simp only [Stretch.bytes, List.length_cons, List.length_append] at hbytes
      rw [dispatches_cut hnext, Stretch.dispatch] at hone
      split at hone
      · simp only [Option.toList_some, List.cons_append, List.nil_append, List.cons.injEq] at hone
        rw [← hone.1, hnid] at hnode
        exact hnode rfl
      · next hfit =>
          -- a packet that does not fit takes more bytes than there are
          rw [bodyLen, if_neg hfit] at hbody
          omega

/-! ## The first stretch of an oversized frame -/

/-- A frame whose packet does not fit the buffer takes one byte more than the buffer holds. -/
theorem nextStretch_oversized {f : Frame} (hover : 245 ≤ f.packet.payload.length)
    (hsum : f.packet.payload.length < 252) (rest : List UInt8) :
    ∃ st, nextStretch (f.bytes ++ rest) = some (st, f.packet.payload.drop 245 ++ rest) ∧
      st.dispatch = none := by
  have hmagic : ofLe16 0x4C 0x4B = klipprotoMagic := rfl
  have hnat := toNat_byte (n := f.packet.payload.length) (by omega)
  have htotal : totalLen (UInt8.ofNat f.packet.payload.length) =
      4 + f.packet.payload.length := by
    rw [totalLen_of_lt (by rw [hnat]; exact hsum), hnat]
  have hmax : klipMaxPacketSize = 248 := rfl
  have hfit : ¬ totalLen (UInt8.ofNat f.packet.payload.length) ≤ klipMaxPacketSize := by
    rw [htotal, hmax]
    omega
  have hbody : bodyLen (UInt8.ofNat f.packet.payload.length) = 245 + 4 := by
    rw [bodyLen, if_neg hfit]
    rfl
  refine ⟨⟨f.nodeId, [], 0x4C :: 0x4B :: f.packet.command ::
    UInt8.ofNat f.packet.payload.length :: f.packet.payload.take 245⟩, ?_, ?_⟩
  · simp only [Frame.bytes_eq, List.cons_append, nextStretch, seek, hmagic, if_true,
      List.getD_cons_succ, List.getD_cons_zero, hbody, List.length_cons, List.length_append]
    rw [if_pos (by omega)]
    simp only [List.take_succ_cons, List.drop_succ_cons, List.take_append_of_le_length hover,
      List.drop_append_of_le_length hover]
  · rw [dispatch_header, if_neg hfit]

/-- Where the announced size wraps, the header alone is a stretch, and something is
dispatched. -/
theorem nextStretch_wrapped {f : Frame} (hwrap : 252 ≤ f.packet.payload.length)
    (hlen : f.packet.payload.length ≤ 255) :
    ∃ st rest, nextStretch f.bytes = some (st, rest) ∧ st.dispatch ≠ none := by
  have hmagic : ofLe16 0x4C 0x4B = klipprotoMagic := rfl
  have hnat := toNat_byte hlen
  have htotal : totalLen (UInt8.ofNat f.packet.payload.length) =
      f.packet.payload.length - 252 := by
    rw [totalLen_of_le (by rw [hnat]; exact hwrap), hnat]
  have hmax : klipMaxPacketSize = 248 := rfl
  have hfit : totalLen (UInt8.ofNat f.packet.payload.length) ≤ klipMaxPacketSize := by
    rw [htotal, hmax]
    omega
  have hbody : bodyLen (UInt8.ofNat f.packet.payload.length) = 0 + 4 := by
    rw [bodyLen, if_pos hfit, htotal]
    omega
  refine ⟨⟨f.nodeId, [], [0x4C, 0x4B, f.packet.command, UInt8.ofNat f.packet.payload.length]⟩,
    f.packet.payload, ?_, ?_⟩
  · simp only [Frame.bytes_eq, nextStretch, seek, hmagic, if_true,
      List.getD_cons_succ, List.getD_cons_zero, hbody, List.length_cons]
    rw [if_pos (by omega)]
    simp only [List.take_succ_cons, List.drop_succ_cons, List.take_zero, List.drop_zero]
  · rw [dispatch_header, if_pos hfit]
    exact Option.some_ne_none _

/-! ## The frames that do no harm -/

/-- With one byte too many, the frame is dropped and nothing else. -/
theorem spared_of_eq {f : Frame} (h : f.packet.payload.length = 245) {fs : List Frame}
    (hfs : ∀ g ∈ fs, g.packet.payload.length ≤ klipMaxPayloadSize) : Spared f.bytes fs := by
  obtain ⟨st, hnext, hnone⟩ :=
    nextStretch_oversized (by omega) (by omega) (frameStream fs) (f := f)
  rw [spared_iff, dispatches_cut hnext, hnone, List.drop_of_length_le (Nat.le_of_eq h)]
  exact dispatches_frames hfs

/-- With two to seven bytes too many, the first frame for another node is not all that is
dispatched. -/
theorem not_spared_of_lt {f : Frame} (hover : 245 < f.packet.payload.length)
    (hsum : f.packet.payload.length < 252) :
    ∃ fs : List Frame, (∀ g ∈ fs, g.packet.payload.length ≤ klipMaxPayloadSize) ∧
      ¬ Spared f.bytes fs := by
  have hrest : (f.packet.payload.drop 245).length = f.packet.payload.length - 245 :=
    List.length_drop
  obtain ⟨nid, rest, hdrop⟩ : ∃ nid rest, f.packet.payload.drop 245 = nid :: rest := by
    apply List.exists_cons_of_length_pos
    omega
  refine ⟨[⟨nid + 1, KlipCommand.ping.code, []⟩], by simp, ?_⟩
  obtain ⟨st, hnext, hnone⟩ := nextStretch_oversized (Nat.le_of_lt hover) hsum
    (frameStream [⟨nid + 1, KlipCommand.ping.code, []⟩])
  rw [spared_iff, dispatches_cut hnext, hnone, hdrop]
  rw [hdrop, List.length_cons] at hrest
  refine dispatches_displaced ?_ ?_
  · calc (rest ++ frameStream [⟨nid + 1, KlipCommand.ping.code, []⟩]).length
        = rest.length + 5 := List.length_append
      _ < 248 := by omega
  · simp [Frame.dispatch]

/-- With more, the header is dispatched. -/
theorem not_spared_of_le {f : Frame} (hwrap : 252 ≤ f.packet.payload.length)
    (hlen : f.packet.payload.length ≤ 255) : ¬ Spared f.bytes [] := by
  obtain ⟨st, rest, hnext, hsome⟩ := nextStretch_wrapped hwrap hlen
  rw [spared_iff, frameStream_nil, List.append_nil, dispatches_cut hnext]
  intro hnil
  exact hsome (Option.toList_eq_nil_iff.mp (List.append_eq_nil_iff.mp hnil).1)

/-- **The oversized frames that spare the ones behind them** are those with one byte too
many. -/
theorem sendPacket_spares_iff {t : SerialTransport} {nodeId : ℤ} {packet : KlipPacket}
    {bytes : List UInt8} (hsend : t.sendPacket nodeId packet = .ok bytes)
    (hover : 245 ≤ packet.payload.length) :
    (∀ fs : List Frame, (∀ f ∈ fs, f.packet.payload.length ≤ klipMaxPayloadSize) →
        Spared bytes fs) ↔ packet.payload.length = 245 := by
  obtain ⟨hlen, hbytes⟩ : packet.payload.length ≤ 255 ∧
      bytes = Frame.bytes ⟨UInt8.ofNat (nodeId % 256).toNat, packet⟩ := by
    rw [SerialTransport.sendPacket, KlipPacket.encode] at hsend
    split at hsend
    · split at hsend
      · cases hsend
      · next hencode =>
          split at hencode
          · next hfits =>
              cases hencode
              cases hsend
              exact ⟨hfits, rfl⟩
          · cases hencode
    · cases hsend
  subst hbytes
  constructor
  · intro hall
    by_contra hne
    rcases Nat.lt_or_ge packet.payload.length 252 with hsum | hwrap
    · obtain ⟨fs, hfs, hharm⟩ :=
        not_spared_of_lt (f := ⟨UInt8.ofNat (nodeId % 256).toNat, packet⟩)
          (Nat.lt_of_le_of_ne hover (Ne.symm hne)) hsum
      exact hharm (hall fs hfs)
    · exact not_spared_of_le (f := ⟨UInt8.ofNat (nodeId % 256).toNat, packet⟩) hwrap hlen
        (hall [] (by simp))
  · intro h fs hfs
    exact spared_of_eq h hfs

theorem sendPacket_spares_iff_245 :
    (∀ fs : List Frame, (∀ f ∈ fs, f.packet.payload.length ≤ klipMaxPayloadSize) →
        Spared (Frame.bytes ⟨1, 0x81, List.replicate 245 0⟩) fs) ↔
      (List.replicate 245 (0 : UInt8)).length = 245 :=
  @sendPacket_spares_iff ⟨true, []⟩ _ ⟨0x81, List.replicate 245 0⟩ _
    (SerialTransport.sendPacket_eq rfl 1 (Nat.le_trans (Nat.le_of_eq List.length_replicate)
      (by decide))) (Nat.le_of_eq List.length_replicate.symm)

/-- 246 payload bytes for node 1, and then a ping for node 2: the last payload byte is taken
for the node id of the ping. -/
theorem oversized_misdirects :
    (commandParserFeed Rx.start [Frame.bytes ⟨1, 0x81, List.replicate 246 0⟩ ++
        frameStream [⟨2, KlipCommand.ping.code, []⟩]]).2 = [⟨0, bareHeader .ping⟩] ∧
      ¬ Spared (Frame.bytes ⟨1, 0x81, List.replicate 246 0⟩) [⟨2, KlipCommand.ping.code, []⟩] := by
  have hlen : (List.replicate 246 (0 : UInt8)).length = 246 := List.length_replicate
  obtain ⟨st, hnext, hnone⟩ := nextStretch_oversized (f := ⟨1, 0x81, List.replicate 246 0⟩)
    (Nat.le_trans (by decide) (Nat.le_of_eq hlen.symm))
    (Nat.lt_of_le_of_lt (Nat.le_of_eq hlen) (by decide))
    (frameStream [⟨2, KlipCommand.ping.code, []⟩])
  have hlog : dispatches (Frame.bytes ⟨1, 0x81, List.replicate 246 0⟩ ++
      frameStream [⟨2, KlipCommand.ping.code, []⟩]) = [⟨0, bareHeader .ping⟩] := by
    rw [dispatches_cut hnext, hnone, List.drop_replicate]
    decide
  refine ⟨?_, ?_⟩
  · rw [commandParserFeed_idle ⟨rfl, rfl⟩, List.flatten_singleton, hlog]
  · rw [spared_iff, hlog]
    decide

end Klippylink
