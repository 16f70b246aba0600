import Klippylink.Host.DeviceManager
import Klippylink.Host.SerialTransport
import Klippylink.Lib.Checksum

/-!
# The host's firmware uploader

`push_firmware` is a coroutine: it runs from one `await` to the next, and between
two of its turns packets arrive and other tasks run.  A turn is a function of the
handler and of where the coroutine stands; it gives where the coroutine stands
next and the bytes written to the port on the way.

A future is an object of its own, made by one call and found by others through
`_pending`; it is kept as its number among the futures made.

## Main definitions

* `OtaHandler` — the futures, and `_pending`.
* `OtaHandler.onOtaStatus` — `on_ota_status`.
* `Push` — where a call of `push_firmware` stands.
* `Push.turn` — `push_firmware`, up to its next `await`.
* `Host` — the host's modules, and `on_packet` of `main.py`.
-/

namespace Klippylink

open Lib

/-- `CHUNK_SIZE`. -/
def chunkSize : ℕ := 244

/-- The futures made so far with their results, and `_pending`. -/
structure OtaHandler where
  futures : List (Option UInt8)
  pending : ℤ → Option ℕ

namespace OtaHandler

/-- A new handler. -/
def start : OtaHandler := ⟨[], fun _ => none⟩

/-- `self._pending[node_id] = loop.create_future()`, and the future. -/
def createFuture (o : OtaHandler) (nodeId : ℤ) : OtaHandler × ℕ :=
  (⟨o.futures ++ [none], fun n => if n = nodeId then some o.futures.length else o.pending n⟩,
    o.futures.length)

/-- `self._pending.pop(node_id, None)`. -/
def pop (o : OtaHandler) (nodeId : ℤ) : OtaHandler :=
  { o with pending := fun n => if n = nodeId then none else o.pending n }

/-- `on_ota_status`: a packet without a payload reports an error. -/
def onOtaStatus (o : OtaHandler) (nodeId : ℤ) (pkt : KlipPacket) : OtaHandler :=
  match o.pending nodeId with
  | none => o
  | some future =>
      if o.futures[future]? = some none then
        { o with futures := o.futures.set future (some (pkt.payload.headD klipOtaError)) }
      else o

end OtaHandler

/-! ## `push_firmware` -/

/-- Where a call of `push_firmware` stands. -/
inductive Push
  /-- Before its first turn. -/
  | ready
  /-- In `wait_for` after OTA_BEGIN. -/
  | awaitBegin (future : ℕ)
  /-- In `sleep(0)`, with `sent` bytes sent and these chunks to go. -/
  | sending (sent : ℕ) (rest : List (List UInt8))
  /-- In `wait_for` after OTA_END. -/
  | awaitEnd (future : ℕ)
  | returned (result : Bool)
  | raised (e : SendError)
  deriving DecidableEq

/-- What a turn comes to: the handler, where the coroutine stands, what was written
to the port, and the calls of `progress_cb`. -/
structure Turn where
  handler : OtaHandler
  push : Push
  written : List UInt8
  progress : List (ℕ × ℕ)

namespace Push

variable (t : SerialTransport) (o : OtaHandler) (nodeId : ℤ)

/-- A `send_packet` and the `await` after it; an exception ends the coroutine. -/
def send (pkt : KlipPacket) (next : Push) (progress : List (ℕ × ℕ)) : Turn :=
  match t.sendPacket nodeId pkt with
  | .error e => ⟨o, .raised e, [], []⟩
  | .ok bytes => ⟨o, next, bytes, progress⟩

/-- From the start to the first `wait_for`.  `pack` raises for a size that does not
fit its field, and the future stays in `_pending`. -/
def beginTurn (zlibCrc32 : List UInt8 → UInt32) (firmware : List UInt8) : Turn :=
  let made := o.createFuture nodeId
  if UInt32.size ≤ firmware.length then ⟨made.1, .raised .structError, [], []⟩
  else
    send t made.1 nodeId ⟨KlipCommand.otaBegin.code,
      le32 (UInt32.ofNat firmware.length) ++ le32 (zlibCrc32 firmware)⟩ (.awaitBegin made.2) []

/-- The loop over the chunks, from one `sleep(0)` to the next, and what comes after
the loop. -/
def loopTurn (total sent : ℕ) : List (List UInt8) → Turn
  | [] =>
      let made := o.createFuture nodeId
      send t made.1 nodeId ⟨KlipCommand.otaEnd.code, []⟩ (.awaitEnd made.2) []
  | chunk :: rest =>
      let sent := sent + chunk.length
      send t o nodeId ⟨KlipCommand.otaData.code, chunk⟩ (.sending sent rest) [(sent, total)]

/-- After the first `wait_for`, with the result of the future or a timeout. -/
def begunTurn (firmware : List UInt8) (status : Option UInt8) : Turn :=
  let o := o.pop nodeId
  if status = some klipOtaInProgress then
    loopTurn t o nodeId firmware.length 0 (blocks chunkSize firmware)
  else ⟨o, .returned false, [], []⟩

/-- After the second `wait_for`. -/
def endedTurn (status : Option UInt8) : Turn :=
  ⟨o.pop nodeId, .returned (status = some klipOtaOk), [], []⟩

/-- What `wait_for` on a future comes to, if the coroutine can go on: the result of
the future, or a timeout. -/
def awaited (future : ℕ) (timeout : Bool) : Option (Option UInt8) :=
  match o.futures[future]? with
  | some (some status) => some (some status)
  | _ => if timeout then some none else none

/-- The next turn of the coroutine, when it can run. -/
def turn (zlibCrc32 : List UInt8 → UInt32) (firmware : List UInt8) (timeout : Bool) :
    Push → Option Turn
  | ready => some (beginTurn t o nodeId zlibCrc32 firmware)
  | awaitBegin future => (awaited o future timeout).map (begunTurn t o nodeId firmware)
  | sending sent rest => some (loopTurn t o nodeId firmware.length sent rest)
  | awaitEnd future => (awaited o future timeout).map (endedTurn o nodeId)
  | returned _ => none
  | raised _ => none

end Push

/-! ## The host -/

/-- The modules that packets are handed to. -/
structure Host where
  manager : DeviceManager
  ota : OtaHandler

/-- `on_packet` of `main.py`. -/
def Host.onPacket (loads : List UInt8 → Option PyValue) (now : ℕ) (h : Host) (f : Frame) :
    Host where
  manager := h.manager.onPacket loads now f
  ota :=
    if f.packet.command = KlipCommand.otaStatus.code then
      h.ota.onOtaStatus f.nodeId.toNat f.packet
    else h.ota

end Klippylink
