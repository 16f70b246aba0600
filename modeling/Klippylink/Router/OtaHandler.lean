import Klippylink.Lib.Buffer
import Klippylink.Lib.Checksum
import Klippylink.Node.Flashing
import Klippylink.Router.BleCentral

/-!
# The router's own firmware sender

`ota_push_to_node` builds OTA_BEGIN, every OTA_DATA and OTA_END in one packet buffer,
which keeps what earlier packets left in it, and sends the front of it.  The
connection records and the stack's answer are an outcome given with each send, since
other tasks run while the sender waits.

Whatever is in the buffer, what goes out is the list of the packets `firmwarePackets`,
sent one after another until a send fails.

## Main definitions

* `SendOutcome`, `SendReturn` — what a send finds, and what it comes to.
* `otaPushToNode` — `ota_push_to_node`.
* `sendAll` — values sent one after another.
* `firmwarePackets` — the packets of an update.
* `otaPushToNode_eq` — the sender sends the packets of the update.
-/

namespace Klippylink

open Lib

/-- The router when a send is made, and what `esp_ble_gattc_write_char` returns if it
is called. -/
structure SendOutcome where
  router : Router
  ret : EspErr

/-- The calls into the stack, and the value returned. -/
structure SendReturn where
  acts : List Action
  ret : EspErr

/-- `if (ret != ESP_OK) return ret;` between two sends. -/
def SendReturn.andThen (first next : SendReturn) : SendReturn :=
  if first.ret ≠ espOk then first else ⟨first.acts ++ next.acts, next.ret⟩

/-- `ble_central_send_to_node`, with what it returns.  The length is passed in eight
bits. -/
def SendOutcome.send (out : SendOutcome) (connId : UInt16) (data : List UInt8)
    (totalLen : UInt8) : SendReturn where
  acts := bleCentralSendToNode out.router connId (data.take totalLen.toNat)
  ret :=
    match findConn out.router.conns connId with
    | none => espErrNotFound
    | some c => if c.cmdFound then out.ret else espErrNotFound

/-! ## `ota_push_to_node` -/

/-- `buf`. -/
abbrev PacketBuf := Vector UInt8 klipMaxPacketSize

theorem byte_fits {offset : ℕ} {b : UInt8} (h : offset + 1 ≤ klipMaxPacketSize) :
    offset + [b].length ≤ klipMaxPacketSize := h

theorem word_fits {offset : ℕ} {x : UInt32} (h : offset + 4 ≤ klipMaxPacketSize) :
    offset + (le32 x).length ≤ klipMaxPacketSize := h

/-- `pkt->command` and `pkt->length` are assigned. -/
def PacketBuf.setCommand (buf : PacketBuf) (command length : UInt8) : PacketBuf :=
  memcpyAt (memcpyAt buf 2 [command] (byte_fits (by decide))) 3 [length] (byte_fits (by decide))

/-- OTA_BEGIN is set up: the magic, the header and the two words. -/
def PacketBuf.setBegin (buf : PacketBuf) (size crc : UInt32) : PacketBuf :=
  let buf : PacketBuf := memcpyAt buf 0 (le16 klipprotoMagic) (by decide)
  let buf := buf.setCommand KlipCommand.otaBegin.code 8
  let buf := memcpyAt buf 4 (le32 size) (word_fits (by decide))
  memcpyAt buf 8 (le32 crc) (word_fits (by decide))

/-- A chunk and its header fit the buffer. -/
theorem chunk_fits (data : List UInt8) (offset : ℕ) :
    klipHeaderSize +
      ((data.drop offset).take (min (data.length - offset) klipMaxPayloadSize)).length ≤
        klipMaxPacketSize := by
  rw [List.length_take]
  exact Nat.add_le_add_left (by omega) _

section Sender

variable (connId : UInt16) (sends : ℕ → SendOutcome)

/-- What is sent after the loop. -/
def otaSendEnd (k : ℕ) (buf : PacketBuf) : SendReturn :=
  (sends k).send connId (buf.setCommand KlipCommand.otaEnd.code 0).toList
    (UInt8.ofNat klipHeaderSize)

/-- `while (offset < size)`, from the `k`-th send on, and what comes after the loop. -/
def otaDataLoop (data : List UInt8) (offset k : ℕ) (buf : PacketBuf) : SendReturn :=
  if offset < data.length then
    let chunk := min (data.length - offset) klipMaxPayloadSize
    let buf := buf.setCommand KlipCommand.otaData.code (UInt8.ofNat chunk)
    let buf := memcpyAt buf klipHeaderSize ((data.drop offset).take chunk)
      (chunk_fits data offset)
    ((sends k).send connId buf.toList (UInt8.ofNat (klipHeaderSize + chunk))).andThen
      (otaDataLoop data (offset + chunk) (k + 1) buf)
  else otaSendEnd connId sends k buf
  termination_by data.length - offset
  decreasing_by
    have hmax : klipMaxPayloadSize = 244 := rfl
    omega

/-- `ota_push_to_node`, with what is in `buf` before anything is written to it. -/
def otaPushToNode (espRomCrc32Le : UInt32 → List UInt8 → UInt32) (buf : PacketBuf)
    (data : List UInt8) : SendReturn :=
  if data.length = 0 then ⟨[], espErrInvalidArg⟩
  else
    let crc := espRomCrc32Le 0 data
    let buf := buf.setBegin (UInt32.ofNat data.length) crc
    ((sends 0).send connId buf.toList (UInt8.ofNat (klipHeaderSize + 8))).andThen
      (otaDataLoop connId sends data 0 1 buf)

/-! ## What is sent -/

/-- Values sent one after another, from the `k`-th send on, until a send fails. -/
def sendAll (k : ℕ) : List (List UInt8) → SendReturn
  | [] => ⟨[], espOk⟩
  | value :: values =>
      ((sends k).send connId value (UInt8.ofNat value.length)).andThen (sendAll (k + 1) values)

/-- The packets of an update. -/
def firmwarePackets (crc : UInt32) (firmware : List UInt8) : List KlipPacket :=
  beginPacket (UInt32.ofNat firmware.length) crc ::
    ((blocks klipMaxPayloadSize firmware).map dataPacket ++ [endPacket])

variable {connId} {sends}

/-- The end of a sequence may be sent as a value like the others. -/
theorem sendAll_singleton (k : ℕ) (value : List UInt8) :
    sendAll connId sends k [value] =
      (sends k).send connId value (UInt8.ofNat value.length) := by
  rw [sendAll, sendAll, SendReturn.andThen, List.append_nil]
  split
  · rfl
  · next h => rw [← not_not.mp h]

/-- The stack is given the front of the buffer. -/
theorem send_front (out : SendOutcome) {data : List UInt8} (value : List UInt8)
    (h : data.take value.length = value)
    (hlen : value.length ≤ 255) :
    out.send connId data (UInt8.ofNat value.length) =
      out.send connId value (UInt8.ofNat value.length) := by
  simp only [SendOutcome.send, toNat_byte hlen, h, List.take_length]

/-! ### The buffer -/

/-- The magic is in the buffer. -/
def PacketBuf.Magic (buf : PacketBuf) : Prop := buf.toList.take 2 = le16 klipprotoMagic

theorem PacketBuf.Magic.setCommand {buf : PacketBuf} (h : buf.Magic) (command length : UInt8) :
    (buf.setCommand command length).Magic := by
  rw [Magic, PacketBuf.setCommand, take_memcpyAt_of_le _ _ _ (by decide),
    take_memcpyAt_of_le _ _ _ (Nat.le_refl 2)]
  exact h

/-- The header, behind which the buffer is as it was. -/
theorem PacketBuf.Magic.header {buf : PacketBuf} (h : buf.Magic) (command length : UInt8) :
    (buf.setCommand command length).toList.take 4 = klipHeader command length := by
  have hlength := take_memcpyAt (memcpyAt buf 2 [command] (byte_fits (by decide))) 3 [length]
    (byte_fits (by decide))
  have hcommand := take_memcpyAt buf 2 [command] (byte_fits (by decide))
  rw [List.length_singleton] at hlength hcommand
  rw [PacketBuf.setCommand, hlength, hcommand, h]
  rfl

/-- A packet whose payload is copied behind its header goes out as it is. -/
theorem PacketBuf.Magic.send {buf : PacketBuf} (h : buf.Magic) (out : SendOutcome)
    (command : UInt8) {payload : List UInt8} {n : ℕ} (hn : payload.length = n)
    (hfits : klipHeaderSize + payload.length ≤ klipMaxPacketSize) :
    out.send connId (memcpyAt (buf.setCommand command (UInt8.ofNat n)) klipHeaderSize payload
        hfits).toList (UInt8.ofNat (klipHeaderSize + n)) =
      out.send connId (klipPacket command payload)
        (UInt8.ofNat (klipPacket command payload).length) := by
  subst hn
  have hmax : klipMaxPacketSize = 248 := rfl
  have hlen : (klipPacket command payload).length = klipHeaderSize + payload.length :=
    length_klipPacket command payload
  rw [← hlen]
  refine send_front out _ ?_ (by omega)
  have hheader : (buf.setCommand command (UInt8.ofNat payload.length)).toList.take
      klipHeaderSize = klipHeader command (UInt8.ofNat payload.length) := h.header _ _
  rw [hlen, take_memcpyAt, hheader]
  rfl

/-- A packet without a payload is its header. -/
theorem PacketBuf.Magic.send_bare {buf : PacketBuf} (h : buf.Magic) (out : SendOutcome)
    (command : UInt8) :
    out.send connId (buf.setCommand command 0).toList (UInt8.ofNat klipHeaderSize) =
      out.send connId (klipPacket command []) (UInt8.ofNat (klipPacket command []).length) :=
  send_front out (klipPacket command []) (h.header command 0) (Nat.le_of_ble_eq_true rfl)

/-- OTA_BEGIN is at the front of the buffer. -/
theorem PacketBuf.take_setBegin (buf : PacketBuf) (size crc : UInt32) :
    (buf.setBegin size crc).toList.take (beginPacket size crc).bytes.length =
      (beginPacket size crc).bytes := by
  have hlen : (beginPacket size crc).bytes.length = 8 + (le32 crc).length := rfl
  have hsize : 8 = 4 + (le32 size).length := rfl
  have hmagic : PacketBuf.Magic (memcpyAt buf 0 (le16 klipprotoMagic) (by decide)) :=
    take_memcpyAt buf 0 (le16 klipprotoMagic) (by decide)
  simp only [setBegin]
  rw [hlen, take_memcpyAt, hsize, take_memcpyAt, hmagic.header]
  rfl

theorem PacketBuf.magic_setBegin (buf : PacketBuf) (size crc : UInt32) :
    (buf.setBegin size crc).Magic := by
  have hfront := congrArg (List.take 2) (buf.take_setBegin size crc)
  rw [List.take_take] at hfront
  exact hfront

/-! ### The sender -/

/-- **The loop over the firmware** sends its blocks, each in its packet, and then the
packet after the loop. -/
theorem otaDataLoop_eq (data : List UInt8) (offset k : ℕ) (buf : PacketBuf) (h : buf.Magic) :
    otaDataLoop connId sends data offset k buf =
      sendAll connId sends k
        (((blocks klipMaxPayloadSize (data.drop offset)).map dataPacket ++ [endPacket]).map
          KlipPacket.bytes) := by
  induction offset, k, buf using otaDataLoop.induct data with
  | case1 offset k buf hlt chunk head next ih =>
      have hne : data.drop offset ≠ [] := fun hnil =>
        absurd (List.drop_eq_nil_iff.mp hnil) (Nat.not_le.mpr hlt)
      have hchunk : (data.drop offset).take chunk = (data.drop offset).take klipMaxPayloadSize := by
        rw [List.take_eq_take_iff, List.length_drop]
        omega
      have hlen : ((data.drop offset).take chunk).length = chunk := by
        rw [List.length_take, List.length_drop]
        omega
      have hnext : PacketBuf.Magic next := by
        rw [PacketBuf.Magic, take_memcpyAt_of_le _ _ _ (by decide)]
        exact h.setCommand _ _
      have hrest : data.drop (offset + chunk) =
          (data.drop offset).drop klipMaxPayloadSize := by
        rw [List.drop_drop, List.drop_eq_drop_iff]
        omega
      rw [otaDataLoop, if_pos hlt, blocks_eq_cons (by decide) hne, List.map_cons,
        List.cons_append, List.map_cons, sendAll]
      refine congrArg₂ SendReturn.andThen ?_ ?_
      · rw [← hchunk]
        exact h.send (sends k) _ hlen _
      · rw [← hrest]
        exact ih hnext
  | case2 offset k buf hge =>
      have hnil : data.drop offset = [] := List.drop_eq_nil_iff.mpr (Nat.le_of_not_lt hge)
      rw [otaDataLoop, if_neg hge, hnil, blocks_nil, List.map_nil, List.nil_append,
        List.map_singleton, sendAll_singleton]
      exact h.send_bare (sends k) _

/-- **The sender sends the packets of the update**, whatever is in its buffer. -/
theorem otaPushToNode_eq (espRomCrc32Le : UInt32 → List UInt8 → UInt32) (buf : PacketBuf)
    {data : List UInt8} (h : data ≠ []) :
    otaPushToNode connId sends espRomCrc32Le buf data =
      sendAll connId sends 0
        ((firmwarePackets (espRomCrc32Le 0 data) data).map KlipPacket.bytes) := by
  simp only [otaPushToNode, if_neg (mt List.length_eq_zero_iff.mp h), firmwarePackets,
    List.map_cons, sendAll]
  refine congrArg₂ SendReturn.andThen ?_ ?_
  · exact send_front (sends 0) (beginPacket (UInt32.ofNat data.length)
      (espRomCrc32Le 0 data)).bytes (buf.take_setBegin _ _) (Nat.le_of_ble_eq_true rfl)
  · rw [otaDataLoop_eq data 0 1 _ (buf.magic_setBegin _ _), List.drop_zero]

end Sender
end Klippylink
