import Klippylink.Host.DeviceManager
import Klippylink.Host.SerialTransport
import Klippylink.Router.Mirror

/-!
# The router and the host, joined by a serial line

The line is a lossless queue of bytes: what the router's callbacks emit goes in at
one end, and the host reads any number of bytes at a time from the other.  The
frames in flight are what the host's buffer and the line hold together.

## Main definitions

* `Bridge` — the router, the line and the host.
* `Bridge.step`, `bridge` — an event at the router, or a read by the host.
* `Bridge.drain` — the host has read everything.
* `Framed` — the frames in flight.
-/

namespace Klippylink

open Lib

/-- The router, the bytes it has sent and the host has not read, and the host. -/
structure Bridge where
  world : World
  wire : List UInt8
  transport : SerialTransport
  manager : DeviceManager

/-- What can happen. -/
inductive BridgeEvent
  /-- An event at the router. -/
  | router (e : Event)
  /-- The host reads so many bytes, at time `now`. -/
  | poll (count now : ℕ)

/-- The bytes that calls put on the line: `serial_bridge_emit` writes the node id
and the data. -/
def emitted (acts : List Action) : List UInt8 :=
  acts.flatMap fun a =>
    match a with
    | .emit nodeId data => nodeId :: data
    | _ => []

/-- A notification of the kinds the node firmware sends: a complete packet with a
legal payload, never a PING or an ERROR. -/
def NodeTraffic (e : Event) : Prop :=
  match e with
  | .gattc (.notify n) =>
      match KlipPacket.decode n.value with
      | none => False
      | some p => n.value = klipPacket p.command p.payload ∧
          p.payload.length ≤ klipMaxPayloadSize ∧
          p.command ≠ KlipCommand.ping.code ∧ p.command ≠ KlipCommand.error.code
  | _ => True

instance (e : Event) : Decidable (NodeTraffic e) := by
  simp only [NodeTraffic]
  split
  · split <;> infer_instance
  · infer_instance

namespace Bridge

/-- The host is there from the start. -/
def start : Bridge := ⟨World.start, [], ⟨true, []⟩, DeviceManager.start⟩

variable (parse : List UInt8 → Option CJson) (loads : List UInt8 → Option PyValue)

/-- `poll`, with `on_packet` of the manager. -/
def poll (b : Bridge) (count now : ℕ) : Bridge :=
  let read := b.transport.poll (b.wire.take count)
  { b with
    wire := b.wire.drop count
    transport := read.1
    manager := read.2.foldl (DeviceManager.onPacket loads now) b.manager }

/-- One event. -/
def step (b : Bridge) : BridgeEvent → Option Bridge
  | .router e =>
      if NodeTraffic e then
        (b.world.step parse e).map fun next =>
          { b with world := next.1, wire := b.wire ++ emitted next.2 }
      else none
  | .poll count now => some (b.poll loads count now)

/-- The host has read everything in flight. -/
def drain (b : Bridge) : Bridge := b.poll loads b.wire.length 0

end Bridge

/-- The router, the line and the host, as a system of events. -/
def bridge (parse : List UInt8 → Option CJson) (loads : List UInt8 → Option PyValue) :
    System Bridge BridgeEvent :=
  fun b e => b.step parse loads e

/-! ### Frames in flight -/

/-- The frame that tells the host about a connection. -/
def framesFor (nodes : NodeTable) (connId : UInt16) (p : KlipPacket) : List Frame :=
  match nodeIdByConnId nodes connId with
  | none => []
  | some nid => [⟨UInt8.ofNat nid, p⟩]

theorem emitted_append (as bs : List Action) : emitted (as ++ bs) = emitted as ++ emitted bs :=
  List.flatMap_append

theorem emitted_emitFor (nodes : NodeTable) (connId : UInt16) (p : KlipPacket) :
    emitted (emitFor nodes connId (klipPacket p.command p.payload)) =
      frameStream (framesFor nodes connId p) := by
  rw [emitFor, framesFor]
  cases nodeIdByConnId nodes connId with
  | none => rfl
  | some nid => simp [emitted, Frame.bytes]

theorem mem_framesFor {nodes : NodeTable} {connId : UInt16} {p : KlipPacket} {f : Frame}
    (h : f ∈ framesFor nodes connId p) : f.packet = p := by
  rw [framesFor] at h
  split at h
  · cases h
  · rw [List.mem_singleton.mp h]

/-- A write puts nothing on the line. -/
theorem emitted_of_target {acts : List Action} (h : ∀ a ∈ acts, a.target.isSome = true) :
    emitted acts = [] := by
  rw [emitted, List.flatMap_eq_nil_iff]
  intro a ha
  have htarget := h a ha
  cases a with
  | emit => cases htarget
  | _ => rfl

/-- The frames a bridge has in flight: what the buffer and the line hold. -/
structure Framed (b : Bridge) (pending : List Frame) : Prop where
  isOpen : b.transport.isOpen = true
  legal : ∀ f ∈ pending, f.packet.payload.length ≤ 255
  bytes : b.transport.buffer ++ b.wire = frameStream pending
  /-- With nothing on the line the buffer holds no frame, nor part of one. -/
  idle : b.wire = [] → pending = []

/-- **A read takes some of the frames in flight**, in order, and hands them to the
manager. -/
theorem Framed.poll {b : Bridge} {pending : List Frame} (h : Framed b pending)
    (loads : List UInt8 → Option PyValue) (count now : ℕ) :
    ∃ done rest, pending = done ++ rest ∧ Framed (b.poll loads count now) rest ∧
      (b.poll loads count now).manager =
        done.foldl (DeviceManager.onPacket loads now) b.manager := by
  by_cases hnil : b.wire.take count = []
  · have hpoll : b.transport.poll (b.wire.take count) = (b.transport, []) := by
      simp [SerialTransport.poll, hnil]
    refine ⟨[], pending, rfl, ⟨?_, h.legal, ?_, ?_⟩, ?_⟩
    · simp only [Bridge.poll, hpoll]
      exact h.isOpen
    · have hsplit := List.take_append_drop count b.wire
      rw [hnil, List.nil_append] at hsplit
      simp only [Bridge.poll, hpoll, hsplit]
      exact h.bytes
    · have hsplit := List.take_append_drop count b.wire
      rw [hnil, List.nil_append] at hsplit
      simp only [Bridge.poll, hsplit]
      exact h.idle
    · simp only [Bridge.poll, hpoll, List.foldl_nil]
  · have hpoll : b.transport.poll (b.wire.take count) =
        ({ b.transport with buffer := (SerialTransport.processBuffer
          (b.transport.buffer ++ b.wire.take count)).1 },
          (SerialTransport.processBuffer (b.transport.buffer ++ b.wire.take count)).2) := by
      simp [SerialTransport.poll, hnil, h.isOpen]
    have hbytes : (b.transport.buffer ++ b.wire.take count) ++ b.wire.drop count =
        frameStream pending := by
      rw [List.append_assoc, List.take_append_drop, h.bytes]
    obtain ⟨done, rest, hsplit, hdone, hrest, hend⟩ := processBuffer_frames h.legal hbytes
    refine ⟨done, rest, hsplit, ⟨?_, ?_, ?_, ?_⟩, ?_⟩
    · simp only [Bridge.poll, hpoll]
      exact h.isOpen
    · intro f hf
      exact h.legal f (by rw [hsplit]; exact List.mem_append_right _ hf)
    · simp only [Bridge.poll, hpoll]
      exact hrest
    · simp only [Bridge.poll]
      exact hend
    · simp only [Bridge.poll, hpoll, hdone]

/-- A read that leaves nothing on the line has taken every frame in flight. -/
theorem Framed.drain {loads : List UInt8 → Option PyValue} {b : Bridge} {pending : List Frame}
    (h : Framed b pending) :
    (b.drain loads).manager = pending.foldl (DeviceManager.onPacket loads 0) b.manager := by
  obtain ⟨done, rest, hsplit, hrest, hmanager⟩ := h.poll loads b.wire.length 0
  have hempty : rest = [] := hrest.idle (by simp [Bridge.poll])
  rw [hempty, List.append_nil] at hsplit
  rw [Bridge.drain, hmanager, hsplit]

end Klippylink
