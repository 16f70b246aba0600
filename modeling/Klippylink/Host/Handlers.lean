import Klippylink.Host.SerialTransport
import Klippylink.Lib.Bytes
import Klippylink.Lib.Fallible

/-!
# What the host's handlers send and assign

A handler of `api_server.py` that sends looks the node up by its name, builds a packet from the
body of the request, and sends it.  `set_radio` assigns to the node before it builds the packet,
the zone handlers after they have sent it.  Each of them is said here once; how far one gets, and
over which state, is left to those that perform it.

The numbers of a body are integers of any size; `struct.pack` and `bytes` take those that fit
their field.  A `float` is a value of a type that is a parameter, with the bits of the `f` that
`pack` makes of it.

## Main definitions

* `LedZoneBody`, `LedZone`, `RadioBody`, `RadioSettings`, `HeaterBody` — the bodies of the
  requests, and what is recorded.
* `makeRadioSet`, `makeHeaterSet` — builders.
* `NodeChange`, `Handler` — a handler.
* `Handler.setLedZone`, `Handler.clearLedZone`, `Handler.setRadio`, `Handler.setHeater`.
-/

namespace Klippylink

open Lib

/-- What a handler raises. -/
inductive ApiError
  /-- `HTTPException(404)`. -/
  | notFound
  | indexError
  /-- `struct.error`, or `OverflowError` for a float. -/
  | structError
  /-- `ValueError`, from `bytes`. -/
  | valueError
  | send (e : SendError)
  deriving DecidableEq

/-! ## The bodies -/

/-- `LedZoneBody`. -/
structure LedZoneBody where
  zoneId : ℤ
  strip : ℤ
  start : ℤ
  count : ℤ
  effect : ℤ
  color : List ℤ
  color2 : List ℤ
  brightness : ℤ
  speed : ℤ
  name : String
  deriving DecidableEq

/-- `LedZone`. -/
structure LedZone where
  zoneId : ℤ
  strip : ℤ
  start : ℤ
  count : ℤ
  effect : ℤ
  color : List ℤ
  color2 : List ℤ
  brightness : ℤ
  speed : ℤ
  name : String
  deriving DecidableEq

/-- The zone that is recorded. -/
def LedZoneBody.zone (b : LedZoneBody) : LedZone :=
  ⟨b.zoneId, b.strip, b.start, b.count, b.effect, b.color, b.color2, b.brightness, b.speed,
    b.name⟩

/-- The body that a recorded zone is of. -/
def LedZone.body (z : LedZone) : LedZoneBody :=
  ⟨z.zoneId, z.strip, z.start, z.count, z.effect, z.color, z.color2, z.brightness, z.speed, z.name⟩

/-- `HeaterBody`. -/
structure HeaterBody (F : Type) where
  targetTemp : F
  kp : F
  ki : F
  kd : F

/-- `RadioSettings`. -/
structure RadioSettings where
  power : ℤ := 4
  channel : ℤ := 80
  connIntervalMs : ℤ := 20
  telemetryEnabled : Bool := true
  deriving DecidableEq

/-- `RadioBody`. -/
structure RadioBody where
  power : ℤ := 4
  channel : ℤ := 80
  connIntervalMs : ℤ := 20
  telemetryEnabled : Bool := true
  deriving DecidableEq

/-- The settings of a body. -/
def RadioBody.settings (b : RadioBody) : RadioSettings :=
  ⟨b.power, b.channel, b.connIntervalMs, b.telemetryEnabled⟩

/-! ## Packing -/

/-- One byte of `pack("B", ...)`; `none` where it raises. -/
def packByte (n : ℤ) : Option UInt8 := if 0 ≤ n ∧ n ≤ 255 then some (UInt8.ofNat n.toNat) else none

/-- A half word of `pack("H", ...)`; `none` where it raises. -/
def packHalf (n : ℤ) : Option UInt16 :=
  if 0 ≤ n ∧ n < UInt16.size then some (UInt16.ofNat n.toNat) else none

/-- The value of an optional result, or an exception. -/
def orRaise {α : Type} (e : ApiError) : Option α → Except ApiError α
  | none => .error e
  | some a => .ok a

/-- The payload of LED_ZONE_SET. -/
def LedZoneBody.pack (b : LedZoneBody) : Except ApiError (List UInt8) :=
  match b.color, b.color2 with
  | r :: g :: bl :: _, r2 :: g2 :: b2 :: _ => do
      let front ← orRaise .structError
        ([b.zoneId, b.strip, b.start, b.count, b.effect, r, g, bl, r2, g2, b2,
          b.brightness].mapM packByte)
      let speed ← orRaise .valueError (packByte b.speed)
      return front ++ [speed]
  | _, _ => .error .indexError

/-- RADIO_SET. -/
def radioSetPacket (power channel : UInt8) (connIntervalMs : UInt16) (telemetry : Bool) :
    KlipPacket :=
  ⟨KlipCommand.radioSet.code,
    [power, channel] ++ le16 connIntervalMs ++ [if telemetry then 1 else 0]⟩

/-- `make_radio_set`. -/
def makeRadioSet (power channel connIntervalMs : ℤ) (telemetry : Bool) : Option KlipPacket := do
  let power ← packByte power
  let channel ← packByte channel
  let connIntervalMs ← packHalf connIntervalMs
  return radioSetPacket power channel connIntervalMs telemetry

/-- `make_heater_set`. -/
def makeHeaterSet {F : Type} (packFloat : F → Option UInt32) (targetTemp kp ki kd : F) :
    Option KlipPacket :=
  ([targetTemp, kp, ki, kd].mapM packFloat).map fun words =>
    ⟨KlipCommand.heaterSet.code, words.flatMap le32⟩

/-! ## The handlers -/

/-- What a handler assigns to a node. -/
inductive NodeChange
  /-- `set_zone`. -/
  | setZone (zone : LedZone)
  /-- `clear_zone`. -/
  | clearZone (zoneId : ℤ)
  /-- To `radio`. -/
  | setRadio (settings : RadioSettings)

/-- A handler that sends a packet to a node. -/
structure Handler where
  /-- Assigned before the packet is built. -/
  first : Option NodeChange := none
  packet : Except ApiError KlipPacket
  /-- Assigned when the packet has been sent. -/
  last : Option NodeChange := none

namespace Handler

/-- `set_led_zone`. -/
def setLedZone (b : LedZoneBody) : Handler where
  packet := do
    let payload ← b.pack
    return ⟨KlipCommand.ledZoneSet.code, payload⟩
  last := some (.setZone b.zone)

/-- `clear_led_zone`. -/
def clearLedZone (zoneId : ℤ) : Handler where
  packet := do
    let id ← orRaise .valueError (packByte zoneId)
    return ⟨KlipCommand.ledZoneClr.code, [id]⟩
  last := some (.clearZone zoneId)

/-- `set_radio`. -/
def setRadio (b : RadioBody) : Handler where
  first := some (.setRadio b.settings)
  packet := orRaise .structError
    (makeRadioSet b.power b.channel b.connIntervalMs b.telemetryEnabled)

/-- `set_heater`. -/
def setHeater {F : Type} (packFloat : F → Option UInt32) (b : HeaterBody F) : Handler where
  packet := orRaise .structError (makeHeaterSet packFloat b.targetTemp b.kp b.ki b.kd)

end Handler

/-! ### What packs -/

theorem orRaise_eq_ok {α : Type} {e : ApiError} {o : Option α} {a : α} :
    orRaise e o = .ok a ↔ o = some a := by
  cases o <;> simp [orRaise]

theorem packByte_eq_some {n : ℤ} {b : UInt8} : packByte n = some b ↔ n = b.toNat := by
  have hb := b.toNat_lt
  rw [packByte]
  constructor
  · intro h
    split at h
    · next hn =>
        cases h
        rw [UInt8.toNat_ofNat']
        omega
    · cases h
  · intro hn
    have hnat : n.toNat = b.toNat := by omega
    rw [if_pos (by omega), hnat, UInt8.ofNat_toNat]

theorem packHalf_eq_some {n : ℤ} {x : UInt16} : packHalf n = some x ↔ n = x.toNat := by
  have hx := x.toNat_lt
  rw [packHalf]
  constructor
  · intro h
    split at h
    · next hn =>
        cases h
        have hlt : n.toNat < UInt16.size := by omega
        rw [UInt16.toNat_ofNat', Nat.mod_eq_of_lt hlt]
        omega
    · cases h
  · intro hn
    have hnat : n.toNat = x.toNat := by omega
    rw [if_pos (by simp only [UInt16.size]; omega), hnat, UInt16.ofNat_toNat]

/-- The fields of a body are those of the packet. -/
theorem makeRadioSet_eq_some {power channel connIntervalMs : ℤ} {telemetry : Bool}
    {pkt : KlipPacket} :
    makeRadioSet power channel connIntervalMs telemetry = some pkt ↔
      ∃ (p c : UInt8) (i : UInt16), power = p.toNat ∧ channel = c.toNat ∧
        connIntervalMs = i.toNat ∧ pkt = radioSetPacket p c i telemetry := by
  simp only [makeRadioSet, Option.bind_eq_bind, Option.bind_eq_some_iff, packByte_eq_some,
    packHalf_eq_some, Option.pure_def, Option.some.injEq]
  constructor
  · intro h
    obtain ⟨p, hp, c, hc, i, hi, rfl⟩ := h
    exact ⟨p, c, i, hp, hc, hi, rfl⟩
  · intro h
    obtain ⟨p, c, i, hp, hc, hi, rfl⟩ := h
    exact ⟨p, hp, c, hc, i, hi, rfl⟩

/-- The fields of a body are in the ranges of `pack("BBHB", ...)`. -/
def RadioBody.Fits (b : RadioBody) : Prop :=
  (0 ≤ b.power ∧ b.power ≤ 255) ∧ (0 ≤ b.channel ∧ b.channel ≤ 255) ∧
    0 ≤ b.connIntervalMs ∧ b.connIntervalMs ≤ 65535

instance (b : RadioBody) : Decidable b.Fits := inferInstanceAs (Decidable (_ ∧ _ ∧ _ ∧ _))

theorem RadioBody.fits_iff (b : RadioBody) :
    b.Fits ↔ ∃ pkt, makeRadioSet b.power b.channel b.connIntervalMs b.telemetryEnabled =
      some pkt := by
  have hbyte : ∀ n : ℤ, 0 ≤ n ∧ n ≤ 255 → n = (UInt8.ofNat n.toNat).toNat := fun n hn =>
    packByte_eq_some.mp (if_pos hn)
  constructor
  · intro h
    obtain ⟨hpower, hchannel, hinterval⟩ := h
    have hhalf : packHalf b.connIntervalMs = some (UInt16.ofNat b.connIntervalMs.toNat) :=
      if_pos ⟨hinterval.1, by simp only [UInt16.size]; omega⟩
    exact ⟨_, makeRadioSet_eq_some.mpr ⟨_, _, _, hbyte _ hpower, hbyte _ hchannel,
      packHalf_eq_some.mp hhalf, rfl⟩⟩
  · intro h
    obtain ⟨pkt, hpkt⟩ := h
    obtain ⟨p, c, i, hp, hc, hi, -⟩ := makeRadioSet_eq_some.mp hpkt
    have hplt := p.toNat_lt
    have hclt := c.toNat_lt
    have hilt := i.toNat_lt
    exact ⟨⟨by omega, by omega⟩, ⟨by omega, by omega⟩, by omega, by omega⟩

/-- The payload of HEATER_SET fits its length. -/
theorem length_makeHeaterSet {F : Type} {packFloat : F → Option UInt32} {a b c d : F}
    {pkt : KlipPacket} (h : makeHeaterSet packFloat a b c d = some pkt) :
    pkt.payload.length ≤ 255 := by
  obtain ⟨bits, hbits, rfl⟩ := Option.map_eq_some_iff.mp h
  show (bits.flatMap le32).length ≤ 255
  rw [length_flatMap_le32, length_of_mapM hbits]
  simp

end Klippylink
