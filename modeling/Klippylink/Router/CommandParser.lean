import Klippylink.Lib.Transducer
import Klippylink.Protocol.Packet

/-!
# The router's command parser

`command_parser_feed` reads the serial stream from the host one byte at a time:
the first byte is the node id, the bytes after it are collected in `rx_buffer`
until they make a packet, and a packet is dispatched to the node.  The model
keeps the whole buffer and the offset, so that every store, every `memmove` and
every read of the header is the one of the source; the bounds proof of the store
is the test that guards it.

The receive machine hands a completed packet out as a `Dispatch`.  What the
router does with it — one write, or a broadcast — is in `BleCentral`.

## Main definitions

* `Rx` — `rx_buffer`, `rx_offset`, `rx_node_id`, `rx_have_nid`.
* `commandParserByte` — the body of the loop of `command_parser_feed`.
* `commandParserFeed` — `command_parser_feed` over a list of calls.
* `locatedByte`, `locatedFeed` — the same, counting the bytes fed.
-/

namespace Klippylink

open Lib

/-- The file-level state of the parser. -/
structure Rx where
  rxBuffer : Vector UInt8 klipMaxPacketSize
  rxOffset : ℕ
  rxNodeId : UInt8
  rxHaveNid : Bool

/-- A completed packet: `rx_node_id` and the first `total_len` bytes of
`rx_buffer`. -/
structure Dispatch where
  nodeId : UInt8
  packet : List UInt8
  deriving DecidableEq

namespace Rx

/-- The static initialisers. -/
def start : Rx := ⟨Vector.replicate klipMaxPacketSize 0, 0, 0xFF, false⟩

/-- Between two frames. -/
def Idle (s : Rx) : Prop := s.rxHaveNid = false ∧ s.rxOffset = 0

end Rx

/-- `command_parser_init`. -/
def commandParserInit (s : Rx) : Rx := { s with rxOffset := 0, rxHaveNid := false }

/-- Whatever the buffer held before. -/
theorem idle_commandParserInit (s : Rx) : (commandParserInit s).Idle := ⟨rfl, rfl⟩

/-- `memmove(buf, buf + 1, k)` on an array of `n` bytes. -/
def memmoveDown {n : ℕ} (buf : Vector UInt8 n) (k : ℕ) (h : k < n) : Vector UInt8 n :=
  ⟨((buf.toList.drop 1).take k ++ buf.toList.drop k).toArray, by
    simp only [List.size_toArray, List.length_append, List.length_take, List.length_drop,
      Vector.length_toList]
    omega⟩

/-- One iteration of the loop of `command_parser_feed`. -/
def commandParserByte : Transducer Rx UInt8 Dispatch := fun s d =>
  if s.rxHaveNid = false then
    -- the first byte of each frame is the node id
    ({ s with rxNodeId := d, rxHaveNid := true, rxOffset := 0 }, [])
  else if h : s.rxOffset < klipMaxPacketSize then
    let buffer := s.rxBuffer.set s.rxOffset d h
    let offset := s.rxOffset + 1
    if klipHeaderSize ≤ offset then
      if ofLe16 (buffer.get ⟨0, by decide⟩) (buffer.get ⟨1, by decide⟩) = klipprotoMagic then
        -- eight bits: a length byte above 251 wraps
        let totalLen : UInt8 := 4 + buffer.get ⟨3, by decide⟩
        if totalLen.toNat ≤ offset then
          ({ s with rxBuffer := buffer, rxOffset := 0, rxHaveNid := false },
            [⟨s.rxNodeId, buffer.toList.take totalLen.toNat⟩])
        else ({ s with rxBuffer := buffer, rxOffset := offset }, [])
      else
        -- bad magic: `memmove(rx_buffer, rx_buffer + 1, --rx_offset)`; the node id stays
        ({ s with rxBuffer := memmoveDown buffer s.rxOffset h, rxOffset := s.rxOffset }, [])
    else ({ s with rxBuffer := buffer, rxOffset := offset }, [])
  else
    -- the buffer is full: this byte and the frame are dropped
    ({ s with rxOffset := 0, rxHaveNid := false }, [])

/-- `command_parser_feed`, called with one buffer after another. -/
def commandParserFeed (s : Rx) (calls : List (List UInt8)) : Rx × List Dispatch :=
  Transducer.runChunks commandParserByte s calls

/-! ## Where in the stream a packet lies -/

/-- A dispatch and the position in the stream of the byte at `rx_buffer[0]`. -/
structure Located where
  dispatch : Dispatch
  start : ℕ
  deriving DecidableEq

/-- `commandParserByte` with a count of the bytes fed before.  At a dispatch the
buffer holds the last `rx_offset` bytes of the stream. -/
def locatedByte : Transducer (ℕ × Rx) UInt8 Located := fun s d =>
  let next := commandParserByte s.2 d
  ((s.1 + 1, next.1), next.2.map fun x => ⟨x, s.1 - s.2.rxOffset⟩)

/-- Counting does not change what is dispatched. -/
theorem run_locatedByte (ds : List UInt8) (n : ℕ) (s : Rx) :
    (Transducer.run locatedByte (n, s) ds).1 =
        (n + ds.length, (Transducer.run commandParserByte s ds).1) ∧
      (Transducer.run locatedByte (n, s) ds).2.map Located.dispatch =
        (Transducer.run commandParserByte s ds).2 := by
  induction ds generalizing n s with
  | nil => simp
  | cons d ds ih =>
      obtain ⟨hstate, hout⟩ := ih (n + 1) (commandParserByte s d).1
      rw [Transducer.run_cons, Transducer.run_cons]
      refine ⟨?_, ?_⟩
      · simp only [locatedByte] at hstate ⊢
        rw [hstate, List.length_cons]
        simp only [Prod.mk.injEq, and_true]
        omega
      · simp only [locatedByte, List.map_append, List.map_map] at hout ⊢
        rw [hout]
        simp [Function.comp_def]

/-- `commandParserFeed` with the position of each dispatched packet in the stream. -/
def locatedFeed (s : Rx) (calls : List (List UInt8)) : (ℕ × Rx) × List Located :=
  Transducer.runChunks locatedByte (0, s) calls

/-- Positions are an addition: the dispatches and the final state are those of
the parser. -/
theorem locatedFeed_eq (s : Rx) (calls : List (List UInt8)) :
    (locatedFeed s calls).2.map Located.dispatch = (commandParserFeed s calls).2 ∧
      (locatedFeed s calls).1.2 = (commandParserFeed s calls).1 := by
  obtain ⟨hstate, hout⟩ := run_locatedByte calls.flatten 0 s
  simp only [locatedFeed, commandParserFeed, Transducer.runChunks_eq_run_flatten]
  exact ⟨hout, by rw [hstate]⟩

end Klippylink
