import Klippylink.Node.ConfigLoader

/-!
# The node's drivers for endstops and LED strips

`endstop.c` and `neopixel.c` each keep the devices that initialised in an array, in the
order in which they did, and number them by it.  An endstop with a callback has its
interrupt installed for the pin; the handler finds the endstop by its number, reads
the pin and calls back.

## Main definitions

* `Endstops`, `endstopInit`, `endstopIsrHandler`, `endstopRead` — `endstop.c`.
* `StripTable`, `neopixelInit`, `neopixelSetPixel` — `neopixel.c`.
-/

namespace Klippylink

open Lib

/-! ## Endstops -/

/-- `ENDSTOP_MAX`. -/
def endstopMax : ℕ := 8

/-- The functions of the firmware that have the type of an endstop's callback. -/
inductive EndstopCb
  /-- `endstop_event_cb` of `main.c`. -/
  | eventCb
  /-- `endstop_change_cb` of `gatt_server.c`. -/
  | changeCb
  deriving DecidableEq

/-- `endstop_t`. -/
structure Endstop where
  gpio : UInt8
  activeLow : Bool
  cb : Option EndstopCb
  deriving DecidableEq

/-- `s_endstops` and `s_count`, and the handler's argument for each pin that has an
interrupt. -/
structure Endstops where
  table : Table Endstop endstopMax
  isr : UInt8 → Option UInt8

/-- No endstop yet. -/
def Endstops.start : Endstops := ⟨Table.empty, fun _ => none⟩

/-- `endstop_init`, where `gpio_config` returns `ret`: the endstops and the index. -/
def endstopInit (s : Endstops) (gpio : UInt8) (activeLow : Bool) (cb : Option EndstopCb)
    (ret : EspErr) : Except EspErr (Endstops × ℕ) :=
  match s.table.push ⟨gpio, activeLow, cb⟩ with
  | none => .error espErrNoMem
  | some table =>
      if ret ≠ espOk then .error ret
      else
        let idx := s.table.count
        -- `gpio_isr_handler_add` replaces the handler of the pin
        let isr := fun pin =>
          if cb.isSome ∧ pin = gpio then some (UInt8.ofNat idx) else s.isr pin
        .ok (⟨table, isr⟩, idx)

/-- The logical state of an endstop whose pin is high or low. -/
def Endstop.triggered (e : Endstop) (high : Bool) : Bool := if e.activeLow then !high else high

/-- `endstop_isr_handler`: the callback that is called, with its arguments. -/
def endstopIsrHandler (s : Endstops) (level : UInt8 → Bool) (arg : UInt8) :
    Option (EndstopCb × UInt8 × Bool) :=
  match s.table.rows[arg.toNat]? with
  | none => none
  | some e => e.cb.map fun cb => (cb, arg, e.triggered (level e.gpio))

/-- `endstop_read`. -/
def endstopRead (s : Endstops) (level : UInt8 → Bool) (idx : UInt8) : Bool :=
  match s.table.rows[idx.toNat]? with
  | none => false
  | some e => e.triggered (level e.gpio)

/-! ## LED strips -/

/-- `NEOPIXEL_MAX_STRIPS`. -/
def neopixelMaxStrips : ℕ := 4

/-- `strip_t`; a handle is the pin of the device it was made for. -/
structure Strip where
  handle : UInt8
  count : UInt32
  deriving DecidableEq

/-- `s_strips` and `s_count`. -/
abbrev StripTable := Table Strip neopixelMaxStrips

/-- `neopixel_init`, where `led_strip_new_rmt_device` returns `ret`: the strips and the
index. -/
def neopixelInit (s : StripTable) (gpio : UInt8) (ledCount : UInt32) (ret : EspErr) :
    Except EspErr (StripTable × ℕ) :=
  match s.push ⟨gpio, ledCount⟩ with
  | none => .error espErrNoMem
  | some s' => if ret ≠ espOk then .error ret else .ok (s', s.count)

/-- `led_strip_set_pixel`. -/
structure SetPixel where
  handle : UInt8
  index : UInt32
  color : UInt8 × UInt8 × UInt8
  deriving DecidableEq

/-- `neopixel_set_pixel`: the call it makes. -/
def neopixelSetPixel (s : StripTable) (stripIdx : ℤ) (ledIdx : UInt32)
    (color : UInt8 × UInt8 × UInt8) : Except EspErr SetPixel :=
  if stripIdx < 0 then .error espErrInvalidArg
  else
    match s.rows[stripIdx.toNat]? with
    | none => .error espErrInvalidArg
    | some strip =>
        if strip.count ≤ ledIdx then .error espErrInvalidArg
        else .ok ⟨strip.handle, ledIdx, color⟩

end Klippylink
