import Klippylink.Lib.Painting
import Klippylink.Node.LedNode

/-!
# What the strips show

`neopixel.c` writes pixels into the buffer of a strip and transfers the buffer when the strip is
refreshed.  The callback of the GATT server and the effects task both call it; the zones have a
mutex, the buffers have none, so the calls of the two come between each other pixel by pixel.

The calls into `led_strip` may fail, and go on to any point before they do.  What is taken for
granted of them is that a call touches only its own pixels: `led_strip_set_pixel` writes the one
that it is given, `led_strip_refresh` sends pixels of its strip, each as it is in the buffer at
that moment, and `led_strip_clear` does both for the strip and with black; and that a call which
returns `ESP_OK` has done so for all of them.

## Main definitions

* `neopixelSet`, `neopixelSetAll`, `neopixelSetRange`, `neopixelClear`, `neopixelFlush` — the
  functions, as the calls into `led_strip` that they make.
* `DriverWork` — what the tasks have the driver do.
* `strips_show_buffers` — what is shown when the tasks are through.
-/

namespace Klippylink

open Lib

/-- Calls into `led_strip` on the strips with these indices, up to the first that does not return
`ESP_OK`. -/
abbrev StripRoutine := Routine Pixel ℕ Rgb

/-- The strip with an index, if there is one. -/
def StripTable.strip (strips : StripTable) (stripIdx : ℤ) : Option Strip :=
  if stripIdx < 0 then none else strips.rows[stripIdx.toNat]?

/-- The pixels of a strip: those of its `max_leds`. -/
def StripTable.keys (strips : StripTable) (i : ℕ) : List Pixel :=
  match strips.rows[i]? with
  | none => []
  | some strip => (List.range strip.count.toNat).map fun led => (i, led)

/-- `led_strip_set_pixel` for some pixels, and then `led_strip_refresh`; each is
`if (ret != ESP_OK) return ret`. -/
def paint (stripIdx : ℤ) (leds : List ℕ) (color : Rgb) : StripRoutine :=
  painting (leds.map fun led => (stripIdx.toNat, led)) stripIdx.toNat color

section Functions

variable (strips : StripTable) (stripIdx : ℤ)

/-- `neopixel_set`. -/
def neopixelSet (ledIdx : UInt32) (color : Rgb) : Except EspErr StripRoutine :=
  match strips.strip stripIdx with
  | none => .error espErrInvalidArg
  | some strip =>
      if strip.count ≤ ledIdx then .error espErrInvalidArg
      else .ok (paint stripIdx [ledIdx.toNat] color)

/-- `neopixel_set_all`. -/
def neopixelSetAll (color : Rgb) : Except EspErr StripRoutine :=
  match strips.strip stripIdx with
  | none => .error espErrInvalidArg
  | some strip => .ok (paint stripIdx (List.range strip.count.toNat) color)

/-- `neopixel_set_range`; the end of the range is a 32-bit sum. -/
def neopixelSetRange (start count : UInt32) (color : Rgb) : Except EspErr StripRoutine :=
  match strips.strip stripIdx with
  | none => .error espErrInvalidArg
  | some strip =>
      if strip.count ≤ start then .error espErrInvalidArg
      else
        let end_ := if strip.count < start + count then strip.count else start + count
        .ok (paint stripIdx (List.range' start.toNat (end_.toNat - start.toNat)) color)

/-- `neopixel_clear`: `led_strip_clear`. -/
def neopixelClear : Except EspErr StripRoutine :=
  match strips.strip stripIdx with
  | none => .error espErrInvalidArg
  | some _ => .ok [.fill stripIdx.toNat dark]

/-- `neopixel_flush`: `led_strip_refresh`. -/
def neopixelFlush : Except EspErr StripRoutine :=
  match strips.strip stripIdx with
  | none => .error espErrInvalidArg
  | some _ => .ok [.flush stripIdx.toNat]

/-- `neopixel_count`. -/
def neopixelCount : UInt32 :=
  match strips.strip stripIdx with
  | none => 0
  | some strip => strip.count

end Functions

/-- What a call has `led_strip` do: nothing, if it is refused. -/
def callsOf : Except EspErr StripRoutine → List StripRoutine
  | .error _ => []
  | .ok routine => [routine]

/-- Calls of `neopixel_set_pixel`, and then of `neopixel_flush`; what they return is not looked
at. -/
def drawWork (strips : StripTable) (calls : List PixelCall) (flushed : List ℕ) :
    List StripRoutine :=
  (calls.filterMap (PixelCall.write strips)).map (fun w => [.write w.1 w.2]) ++
    flushed.flatMap fun (i : ℕ) => callsOf (neopixelFlush strips i)

/-- What the tasks have the driver do. -/
inductive DriverWork (strips : StripTable) (level : UInt32 → UInt32 → UInt8 → UInt8) :
    List StripRoutine → Prop
  | set {stripIdx : ℤ} {ledIdx : UInt32} {color : Rgb} :
      DriverWork strips level (callsOf (neopixelSet strips stripIdx ledIdx color))
  | setAll {stripIdx : ℤ} {color : Rgb} :
      DriverWork strips level (callsOf (neopixelSetAll strips stripIdx color))
  | setRange {stripIdx : ℤ} {start count : UInt32} {color : Rgb} :
      DriverWork strips level (callsOf (neopixelSetRange strips stripIdx start count color))
  | clear {stripIdx : ℤ} : DriverWork strips level (callsOf (neopixelClear strips stripIdx))
  /-- `led_effects_clear_zone`, whatever the zones are. -/
  | clearZone {e : LedEffects} {zoneId : UInt8} {r : EffectsReturn}
      (h : ledEffectsClearZone e zoneId = some r) :
      DriverWork strips level (drawWork strips r.calls (r.flushed.toList.map UInt8.toNat))
  /-- A round of `effects_task` that does not stop the processor. -/
  | round {e : LedEffects} {draws : Fin ledMaxZones → Draws} {r : PassReturn}
      (h : effectsPass level draws e = .ok r) :
      DriverWork strips level (drawWork strips r.calls r.flushed)

/-! ### Every function refreshes what it writes -/

theorem mem_keys {strips : StripTable} {p : Pixel} {i : ℕ} :
    p ∈ strips.keys i ↔ p ∈ strips.pixels ∧ i = p.1 := by
  show p ∈ strips.keys i ↔ (∃ strip, strips.rows[p.1]? = some strip ∧ p.2 < strip.count.toNat) ∧ _
  rw [StripTable.keys]
  split
  · next hrow =>
      refine iff_of_false List.not_mem_nil fun h => ?_
      obtain ⟨⟨strip, hstrip, -⟩, rfl⟩ := h
      rw [hrow] at hstrip
      cases hstrip
  · next strip hrow =>
      simp only [List.mem_map, List.mem_range]
      constructor
      · rintro ⟨led, hled, rfl⟩
        exact ⟨⟨strip, hrow, hled⟩, rfl⟩
      · rintro ⟨⟨strip', hstrip', hled⟩, rfl⟩
        cases hrow.symm.trans hstrip'
        exact ⟨p.2, hled, rfl⟩

theorem strip_eq (strips : StripTable) (i : ℕ) : strips.strip i = strips.rows[i]? := by
  have hsign : ¬ ((i : ℤ) < 0) := by omega
  rw [StripTable.strip, if_neg hsign, Int.toNat_natCast]

/-- Where there is a strip, its index is not negative. -/
theorem rows_of_strip {strips : StripTable} {stripIdx : ℤ} {strip : Strip}
    (h : strips.strip stripIdx = some strip) : strips.rows[stripIdx.toNat]? = some strip := by
  rw [StripTable.strip] at h
  split at h
  · cases h
  · exact h

/-- Pixels that there are. -/
theorem flushes_paint {strips : StripTable} {stripIdx : ℤ} {strip : Strip}
    (hstrip : strips.strip stripIdx = some strip) {leds : List ℕ}
    (hleds : ∀ led ∈ leds, led < strip.count.toNat) (color : Rgb) :
    Flushes strips.keys (paint stripIdx leds color) := by
  refine flushes_painting color fun p hp => ?_
  obtain ⟨led, hled, rfl⟩ := List.mem_map.mp hp
  exact mem_keys.mpr ⟨⟨strip, rows_of_strip hstrip, hleds led hled⟩, rfl⟩

/-- A flush of a strip that there is refreshes it, and of no other. -/
theorem callsOf_neopixelFlush (strips : StripTable) (i : ℕ) :
    callsOf (neopixelFlush strips i) = if strips.rows[i]?.isSome then [[.flush i]] else [] := by
  rw [neopixelFlush, strip_eq]
  cases strips.rows[i]? <;> simp [callsOf]

/-- Flushes write nothing. -/
theorem flushes_neopixelFlush (strips : StripTable) (flushed : List ℕ) :
    Flushes strips.keys (flushed.flatMap fun (i : ℕ) => callsOf (neopixelFlush strips i)).flatten :=
    by
  induction flushed with
  | nil => trivial
  | cons i flushed ih =>
      rw [List.flatMap_cons, callsOf_neopixelFlush]
      split <;> exact ih

/-- Calls whose strips are flushed afterwards. -/
theorem flushes_drawWork {strips : StripTable} {calls : List PixelCall} {flushed : List ℕ}
    (h : ∀ call ∈ calls, ∀ w, call.write strips = some w → w.1.1 ∈ flushed) :
    Flushes strips.keys (drawWork strips calls flushed).flatten := by
  rw [drawWork, List.flatten_append, ← List.flatMap_def, ← List.map_eq_flatMap]
  refine flushes_writes _ (flushes_neopixelFlush strips flushed) fun w hw => ?_
  obtain ⟨call, hcall, hwrite⟩ := List.mem_filterMap.mp hw
  have hpixel := (write_eq_some_iff.mp hwrite).2
  have hflush : [.flush w.1.1] ∈ callsOf (neopixelFlush strips w.1.1) := by
    obtain ⟨strip, hstrip, -⟩ := hpixel
    rw [callsOf_neopixelFlush, hstrip]
    exact List.mem_singleton_self _
  exact ⟨.flush w.1.1, List.mem_flatten.mpr ⟨_, List.mem_flatMap.mpr
    ⟨w.1.1, h call hcall w hwrite, hflush⟩, List.mem_singleton_self _⟩, w.1.1, rfl,
    mem_keys.mpr ⟨hpixel, rfl⟩⟩

/-- Clearing a zone flushes the strip that it turns off. -/
theorem flushed_clearZone {e : LedEffects} {zoneId : UInt8} {r : EffectsReturn}
    (h : ledEffectsClearZone e zoneId = some r) :
    ∀ p ∈ r.off, r.flushed = some p.1 := by
  rw [ledEffectsClearZone] at h
  split at h
  · cases h
    simp
  · split at h
    · simp only at h
      split at h <;> cases h <;> simp
    · cases h

/-- A round flushes the strips of the zones that it draws. -/
theorem flushed_effectsPass {strips : StripTable} {level : UInt32 → UInt32 → UInt8 → UInt8}
    {draws : Fin ledMaxZones → Draws} {e : LedEffects} {r : PassReturn}
    (h : effectsPass level draws e = .ok r) {call : PixelCall} (hcall : call ∈ r.calls)
    {w : Pixel × Rgb} (hwrite : call.write strips = some w) : w.1.1 ∈ r.flushed := by
  obtain ⟨i, hi⟩ := mem_effectsPass h hcall
  have hmem := List.mem_filterMap.mpr ⟨call, hi, hwrite⟩
  obtain ⟨⟨hactive, hrange⟩, strip, hstrip, -⟩ := within_zoneCalls level strips draws e i w hmem
  have hlt : w.1.1 < neopixelMaxStrips :=
    Nat.lt_of_lt_of_le (List.getElem?_eq_some_iff.mp hstrip).1 strips.fits
  obtain ⟨drawn, -, hret⟩ := bind_eq_ok.mp h
  cases hret
  refine List.mem_filter.mpr ⟨List.mem_range.mpr hlt, List.any_eq_true.mpr ⟨e.slot i, ?_, ?_⟩⟩
  · exact Vector.mem_toList_iff.mpr (Vector.getElem_mem i.isLt)
  · rw [hactive, hrange.1, beq_self_eq_true]
    rfl

/-- **Every function refreshes what it writes.** -/
theorem DriverWork.flushes {strips : StripTable} {level : UInt32 → UInt32 → UInt8 → UInt8}
    {work : List StripRoutine} (h : DriverWork strips level work) :
    Flushes strips.keys work.flatten := by
  cases h with
  | @set stripIdx ledIdx color =>
      rw [neopixelSet]
      split
      · trivial
      · next strip hstrip =>
          split
          · trivial
          · next hlt =>
              simp only [callsOf, List.flatten_singleton]
              refine flushes_paint hstrip (fun led hled => ?_) color
              rw [List.mem_singleton.mp hled]
              simpa [UInt32.le_iff_toNat_le] using hlt
  | @setAll stripIdx color =>
      rw [neopixelSetAll]
      split
      · trivial
      · next strip hstrip =>
          simp only [callsOf, List.flatten_singleton]
          exact flushes_paint hstrip (fun led hled => List.mem_range.mp hled) color
  | @setRange stripIdx start count color =>
      rw [neopixelSetRange]
      split
      · trivial
      · next strip hstrip =>
          split
          · trivial
          · next hlt =>
              simp only [callsOf, List.flatten_singleton]
              refine flushes_paint hstrip (fun led hled => ?_) color
              have hend : (if strip.count < start + count then strip.count
                  else start + count).toNat ≤ strip.count.toNat := by
                split
                · exact le_rfl
                · next hle => exact Nat.not_lt.mp (mt UInt32.lt_iff_toNat_lt.mpr hle)
              obtain ⟨hfrom, hto⟩ := List.mem_range'_1.mp hled
              omega
  | @clear stripIdx =>
      rw [neopixelClear]
      split <;> trivial
  | @clearZone e zoneId r hr =>
      refine flushes_drawWork fun call hcall w hwrite => ?_
      obtain ⟨p, hp, rfl⟩ := List.mem_map.mp hcall
      rw [flushed_clearZone hr p hp, (write_eq_some_iff.mp hwrite).1]
      exact List.mem_singleton_self _
  | @round e draws r hr =>
      exact flushes_drawWork fun call hcall w hwrite => flushed_effectsPass hr hcall hwrite

/-! ## The tasks -/

/-- `neopixel_init` has made the strips with dark buffers and cleared them, and no task has begun.
Pixels that it could not clear are in doubt. -/
structure Booted {τ : Type} (s : Screen τ Pixel ℕ Rgb) : Prop where
  buffer : ∀ p, s.buffer p = dark
  shown : ∀ p, s.shown p ≠ dark → p ∈ s.doubt
  task : ∀ t, s.task t = .idle

/-- **A strip shows its buffer** whenever no task still has to refresh it, however the calls of
the tasks come between each other and whichever of them fail; but for the pixels that a call which
failed has left unsent. -/
theorem strips_show_buffers {τ : Type} [DecidableEq τ] (strips : StripTable)
    (level : UInt32 → UInt32 → UInt8 → UInt8) {es : List (ScreenEvent τ Pixel ℕ Rgb)}
    (hes : ∀ t work, .begin t work ∈ es → DriverWork strips level work)
    {s s' : Screen τ Pixel ℕ Rgb} (hs : Booted s) (hrun : (screen strips.keys).run s es = some s')
    {p : Pixel} (hsettled : s'.Settled p.1) (hdoubt : p ∉ s'.doubt) :
    s'.shown p = s'.buffer p := by
  have hstart : s.Tidy strips.keys := by
    refine ⟨fun p hp => .inl (hs.shown p ?_), fun t => ?_⟩
    · rwa [hs.buffer p] at hp
    · rw [hs.task t]
      exact ⟨fun _ hk => (nomatch hk), fun _ hk => (nomatch hk), trivial⟩
  have htidy : ∀ e ∈ es, e.Tidy strips.keys := by
    intro e he
    cases e with
    | begin t work => exact (hes t work he).flushes
    | write t k v => trivial
    | send t k => trivial
    | finish t ok => trivial
  refine shown_of_settled hstart htidy hrun (fun i hi => ?_) hdoubt
  rw [(mem_keys.mp hi).2]
  exact hsettled


/-- A strip of three pixels. -/
def threePixels : StripTable := ⟨[⟨4, 3⟩], by decide⟩

/-- Dark strips. -/
def darkScreen {τ : Type} : Screen τ Pixel ℕ Rgb :=
  ⟨fun _ => dark, fun _ => dark, fun _ => .idle, []⟩

/-- One task sets a pixel while another is in the middle of a range; they refresh at once, and
one of the refreshes fails. -/
def setInRange : List (ScreenEvent Bool Pixel ℕ Rgb) :=
  [.begin true (callsOf (neopixelSetRange threePixels 0 0 2 (0, 0, 255))),
    .write true (0, 0) (0, 0, 255), .finish true true,
    .begin false (callsOf (neopixelSet threePixels 0 2 (255, 0, 0))),
    .write false (0, 2) (255, 0, 0), .finish false true, .send false (0, 0),
    .write true (0, 1) (0, 0, 255), .finish true true, .send false (0, 1), .send true (0, 0),
    .send true (0, 1), .send true (0, 2), .finish false false, .finish true true]

theorem strips_show_buffers_setInRange :
    ∃ s, (screen threePixels.keys).run darkScreen setInRange = some s ∧
      s.buffer (0, 2) = (255, 0, 0) ∧ s.shown (0, 2) = s.buffer (0, 2) := by
  have hwork : ∀ t work, .begin t work ∈ setInRange →
      DriverWork threePixels (fun _ _ bri => bri) work := by
    intro t work hmem
    simp only [setInRange, List.mem_cons, ScreenEvent.begin.injEq, reduceCtorEq, false_or,
      List.not_mem_nil, or_false] at hmem
    rcases hmem with ⟨-, rfl⟩ | ⟨-, rfl⟩
    · exact .setRange
    · exact .set
  have hboot : Booted (darkScreen : Screen Bool Pixel ℕ Rgb) :=
    ⟨fun _ => rfl, fun _ h => absurd rfl h, fun _ => rfl⟩
  refine ⟨_, rfl, rfl, @strips_show_buffers Bool _ threePixels _ setInRange hwork darkScreen _
    hboot rfl (0, 2) (fun t => ?_) List.not_mem_nil⟩
  cases t <;> exact fun _ hop => (nomatch hop)

end Klippylink
