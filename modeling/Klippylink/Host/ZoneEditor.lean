import Klippylink.Host.ApiServer
import Klippylink.Lib.Numerals
import Mathlib.Data.List.Induction

/-!
# The zones on the page

`app.js` keeps the zones of the selected node as the host last listed them.  It paints them on
the strips of the node, and edits them in a dialog.  The inputs of the dialog hold texts: a zone
is written into them, and what is posted is read from them.

## Main definitions

* `numberText`, `parseInt`, `rgbToHex`, `hexToRgb` — numbers and colours as texts.
* `buildLedHtml` — what is painted on a strip.
* `ZoneForm`, `openZoneDialog`, `ZoneForm.edit`, `ZoneForm.zone` — the dialog.
-/

namespace Klippylink

open Lib

/-- What an input holds. -/
abbrev Text := List Char

/-! ## Numbers and colours -/

/-- `String(n)`, or `n.toString(radix)`. -/
def numberText (radix : ℕ) : ℤ → Text
  | .ofNat n => Nat.toDigits radix n
  | .negSucc n => '-' :: Nat.toDigits radix (n + 1)

/-- White space and the ends of lines. -/
def isSpace (c : Char) : Bool :=
  c.toNat ∈ [9, 10, 11, 12, 13, 32, 0xA0, 0x1680, 0x2028, 0x2029, 0x202F, 0x205F, 0x3000, 0xFEFF] ∨
    0x2000 ≤ c.toNat ∧ c.toNat ≤ 0x200A

/-- `parseInt`, where no text begins with `0x`; `none` is NaN. -/
def parseInt (radix : ℕ) (text : Text) : Option ℤ :=
  match text.dropWhile isSpace with
  | '-' :: rest => (readNat radix rest).map fun n => -(n : ℤ)
  | '+' :: rest => (readNat radix rest).map fun n => (n : ℤ)
  | rest => (readNat radix rest).map fun n => (n : ℤ)

/-- `trim`. -/
def trim (text : Text) : Text := ((text.dropWhile isSpace).reverse.dropWhile isSpace).reverse

/-- `rgbToHex`; `none` where it throws. -/
def rgbToHex : List ℤ → Option Text
  | r :: g :: b :: _ => some ('#' :: [r, g, b].flatMap fun v => padZeros 2 (numberText 16 v))
  | _ => none

/-- `hexToRgb`. -/
def hexToRgb (hex : Text) : List ℤ :=
  let n := (parseInt 16 (hex.drop 1)).getD 0
  [n / 65536 % 256, n / 256 % 256, n % 256]

/-! ## The strips -/

/-- The zone has this LED of this strip. -/
def LedZone.HasLed (z : LedZone) (strip : ℤ) (i : ℕ) : Prop :=
  z.strip = strip ∧ z.start ≤ i ∧ (i : ℤ) < z.start + z.count

instance (z : LedZone) (strip : ℤ) (i : ℕ) : Decidable (z.HasLed strip i) :=
  inferInstanceAs (Decidable (_ ∧ _))

/-- The loop of `buildLedHtml` over the LEDs of a zone. -/
def LedZone.paint (strip : ℤ) (colors : List (Option Text)) (z : LedZone) :
    Option (List (Option Text)) :=
  if z.start < z.start + z.count ∧ z.start < colors.length then
    (rgbToHex z.color).map fun hex =>
      colors.mapIdx fun i color => if z.HasLed strip i then some hex else color
  else some colors

/-- The inputs of the dialog, and whether there is a zone to delete. -/
structure ZoneForm where
  zoneId : Text
  name : Text
  color1 : Text
  color2 : Text
  effect : Text
  brightness : Text
  speed : Text
  strip : Text
  start : Text
  count : Text
  canDelete : Bool

/-- What an input of type `text` makes of a text. -/
def textValue (t : Text) : Text := t.filter fun c => c ≠ '\n' ∧ c ≠ '\r'

/-- A colour of six hexadecimal digits. -/
def isSimpleColor : Text → Bool
  | '#' :: digits => digits.length = 6 && digits.all fun c => (digitValue 16 c).isSome
  | _ => false

/-- What an input of type `color` makes of a text. -/
def colorValue (t : Text) : Text :=
  if isSimpleColor t then t.map Char.toLower else ['#', '0', '0', '0', '0', '0', '0']

/-- What an input of type `range` makes of a number. -/
def rangeValue (least greatest n : ℤ) : Text := numberText 10 (max least (min greatest n))

/-- The options of `z-effect`. -/
def effectOptions : List Text := [['0'], ['1'], ['2'], ['3']]

/-- What `z-effect` makes of a text. -/
def selectValue (t : Text) : Text := if t ∈ effectOptions then t else []

/-- `openZoneDialog` for a zone that there is. -/
def openZoneDialog (existing : LedZone) : Option ZoneForm := do
  let color1 ← rgbToHex existing.color
  let color2 ← rgbToHex existing.color2
  pure {
    zoneId := numberText 10 existing.zoneId
    name := textValue existing.name.toList
    color1 := colorValue color1
    color2 := colorValue color2
    effect := selectValue (numberText 10 existing.effect)
    brightness := rangeValue 0 255 existing.brightness
    speed := rangeValue 1 255 existing.speed
    strip := numberText 10 existing.strip
    start := numberText 10 existing.start
    count := numberText 10 existing.count
    canDelete := true }

/-- `nextId`. -/
def nextId (zones : List LedZone) : ℤ := ((zones.map LedZone.zoneId).max?).elim 0 (· + 1)

/-- `openZoneDialog` for a new zone. -/
def openNewDialog (zones : List LedZone) (stripIndex start count : ℤ) : ZoneForm where
  zoneId := numberText 10 (nextId zones)
  name := []
  color1 := colorValue ['#', '0', '0', 'b', 'f', 'f', 'f']
  color2 := colorValue ['#', '0', '0', '0', '0', '0', '0']
  effect := selectValue ['0']
  brightness := rangeValue 0 255 255
  speed := rangeValue 1 255 128
  strip := numberText 10 stripIndex
  start := numberText 10 start
  count := numberText 10 count
  canDelete := false

/-- What the user does to an input. -/
inductive FormEdit
  | name (t : Text)
  | color1 (t : Text)
  | color2 (t : Text)
  | effect (t : Text)
  | brightness (n : ℤ)
  | speed (n : ℤ)

namespace ZoneForm

/-- The dialog after that. -/
def edit (f : ZoneForm) : FormEdit → ZoneForm
  | .name t => { f with name := textValue t }
  | .color1 t => { f with color1 := colorValue t }
  | .color2 t => { f with color2 := colorValue t }
  | .effect t => { f with effect := selectValue t }
  | .brightness n => { f with brightness := rangeValue 0 255 n }
  | .speed n => { f with speed := rangeValue 1 255 n }

/-- `zone` of the click on "Save & Apply"; with a NaN, which is posted as null, there is no body
for the handler. -/
def zone (f : ZoneForm) : Option LedZoneBody := do
  let zoneId ← parseInt 10 f.zoneId
  let strip ← parseInt 10 f.strip
  let start ← parseInt 10 f.start
  let count ← parseInt 10 f.count
  let effect ← parseInt 10 f.effect
  let brightness ← parseInt 10 f.brightness
  let speed ← parseInt 10 f.speed
  pure ⟨zoneId, strip, start, count, effect, hexToRgb f.color1, hexToRgb f.color2, brightness,
    speed, String.ofList (trim f.name)⟩

end ZoneForm

/-! ## What is written is read -/

/-- A digit is no white space and no sign. -/
theorem charValue_plain {c : Char} {v : ℕ} (h : charValue c = some v) :
    isSpace c = false ∧ c ≠ '-' ∧ c ≠ '+' := by
  have hle : ∀ a : Char, a ≤ c ↔ a.toNat ≤ c.toNat := fun a => Iff.rfl
  have hge : ∀ a : Char, c ≤ a ↔ c.toNat ≤ a.toNat := fun a => Iff.rfl
  have hrange : (48 ≤ c.toNat ∧ c.toNat ≤ 57) ∨ (97 ≤ c.toNat ∧ c.toNat ≤ 122) ∨
      (65 ≤ c.toNat ∧ c.toNat ≤ 90) := by
    simp only [charValue, hle, hge] at h
    split at h
    · next hc => exact .inl hc
    · split at h
      · next hc => exact .inr (.inl hc)
      · split at h
        · next hc => exact .inr (.inr hc)
        · cases h
  have hne : ∀ a : Char, a.toNat ≠ c.toNat → c ≠ a := fun a hne heq => hne (heq ▸ rfl)
  refine ⟨?_, hne _ ?_, hne _ ?_⟩
  · simp [isSpace]
    omega
  · simp
    omega
  · simp
    omega

/-- Digits are read whole. -/
theorem parseInt_digits {radix : ℕ} {text : Text} (h : AllDigits radix text) (hne : text ≠ []) :
    parseInt radix text = some (valueOf radix (digits radix text) : ℤ) := by
  have hread := readNat_eq h hne
  cases text with
  | nil => exact absurd rfl hne
  | cons c rest =>
      obtain ⟨d, hd⟩ := h c List.mem_cons_self
      obtain ⟨hspace, hminus, hplus⟩ := charValue_plain (Option.filter_eq_some_iff.mp hd).1
      rw [parseInt, List.dropWhile_cons_of_neg (by simp [hspace])]
      split
      · next heq => exact absurd (List.cons_eq_cons.mp heq).1 hminus
      · next heq => exact absurd (List.cons_eq_cons.mp heq).1 hplus
      · rw [hread]
        rfl

/-- **`parseInt` reads what `String` writes.** -/
theorem parseInt_numberText (n : ℤ) : parseInt 10 (numberText 10 n) = some n := by
  have hone : 1 < 10 := by decide
  have hten : 10 ≤ 16 := by decide
  cases n with
  | ofNat n =>
      rw [numberText, parseInt_digits (allDigits_toDigits hone hten n) Nat.toDigits_ne_nil,
        valueOf_toDigits hone hten]
      rfl
  | negSucc n =>
      rw [numberText, parseInt, List.dropWhile_cons_of_neg (by decide)]
      simp only [readNat_toDigits hone hten]
      rfl

/-! ### Colours -/

/-- The two digits of a byte. -/
def byteText (n : UInt8) : Text := padZeros 2 (Nat.toDigits 16 n.toNat)

theorem length_byteText (n : UInt8) : (byteText n).length = 2 :=
  length_padZeros_toDigits (by decide) (by decide) n.toNat_lt

theorem allDigits_byteText (n : UInt8) : AllDigits 16 (byteText n) :=
  allDigits_padZeros (by decide) (allDigits_toDigits (by decide) (by decide) _) 2

theorem valueOf_byteText (n : UInt8) : valueOf 16 (digits 16 (byteText n)) = n.toNat := by
  rw [byteText, valueOf_padZeros (by decide), valueOf_toDigits (by decide) (by decide)]

/-- The text of a colour. -/
def hexColor (r g b : UInt8) : Text := '#' :: (byteText r ++ (byteText g ++ byteText b))

theorem rgbToHex_bytes (r g b : UInt8) (rest : List ℤ) :
    rgbToHex ((r.toNat : ℤ) :: g.toNat :: b.toNat :: rest) = some (hexColor r g b) := by
  simp [rgbToHex, hexColor, byteText, numberText]

/-- An input of type `color` holds the text of a colour as it is. -/
theorem colorValue_hexColor (r g b : UInt8) : colorValue (hexColor r g b) = hexColor r g b := by
  have hall : AllDigits 16 (byteText r ++ (byteText g ++ byteText b)) :=
    (allDigits_byteText r).append ((allDigits_byteText g).append (allDigits_byteText b))
  have hsimple : isSimpleColor (hexColor r g b) = true := by
    have hdigits : ∀ c ∈ byteText r ++ (byteText g ++ byteText b),
        (digitValue 16 c).isSome = true := fun c hc => Option.isSome_iff_exists.mpr (hall c hc)
    rw [hexColor, isSimpleColor, List.all_eq_true.mpr hdigits]
    simp [length_byteText]
  have hchar : ∀ d : Fin 16, (Nat.digitChar d).toLower = Nat.digitChar d := by decide
  have hlower : ∀ n : UInt8, (byteText n).map Char.toLower = byteText n := by
    intro n
    conv_rhs => rw [← List.map_id (byteText n)]
    refine List.map_congr_left fun c hc => ?_
    rcases List.mem_append.mp hc with hc | hc
    · rw [(List.mem_replicate.mp hc).2]
      rfl
    · obtain ⟨d, hd, rfl⟩ := exists_digitChar (by decide) hc
      exact hchar ⟨d, hd⟩
  rw [colorValue, if_pos hsimple]
  simp only [hexColor, List.map_cons, List.map_append, hlower]
  rfl

/-- **`hexToRgb` reads what `rgbToHex` writes.** -/
theorem hexToRgb_hexColor (r g b : UInt8) :
    hexToRgb (hexColor r g b) = [(r.toNat : ℤ), g.toNat, b.toNat] := by
  have hall : AllDigits 16 (byteText r ++ (byteText g ++ byteText b)) :=
    (allDigits_byteText r).append ((allDigits_byteText g).append (allDigits_byteText b))
  have hne : byteText r ++ (byteText g ++ byteText b) ≠ [] := by
    intro h
    have hlen := congrArg List.length h
    simp [length_byteText] at hlen
  have hvalue : valueOf 16 (digits 16 (byteText r ++ (byteText g ++ byteText b))) =
      r.toNat * 65536 + g.toNat * 256 + b.toNat := by
    rw [digits_append (allDigits_byteText r), digits_append (allDigits_byteText g), valueOf_append,
      valueOf_append, List.length_append, length_digits (allDigits_byteText g),
      length_digits (allDigits_byteText b), length_byteText, length_byteText, valueOf_byteText,
      valueOf_byteText, valueOf_byteText]
    omega
  have hr := r.toNat_lt
  have hg := g.toNat_lt
  have hb := b.toNat_lt
  simp only [hexToRgb, hexColor, List.drop_one, List.tail_cons, parseInt_digits hall hne, hvalue,
    Option.getD_some, List.cons.injEq, and_true]
  omega

/-! ## What is painted -/

/-- The zone whose colour an LED has: the last one that has it. -/
def zoneOn (zones : List LedZone) (strip : ℤ) (i : ℕ) : Option LedZone :=
  zones.reverse.find? fun z => z.HasLed strip i

theorem zoneOn_eq_none {zones : List LedZone} {strip : ℤ} {i : ℕ} :
    zoneOn zones strip i = none ↔ ∀ z ∈ zones, ¬ z.HasLed strip i := by
  simp [zoneOn]

/-- A new zone gets an id that is greater than those of the page. -/
theorem lt_nextId {zones : List LedZone} {z : LedZone} (h : z ∈ zones) :
    z.zoneId < nextId zones := by
  have hmem : z.zoneId ∈ zones.map LedZone.zoneId := List.mem_map_of_mem h
  rw [nextId]
  cases hmax : (zones.map LedZone.zoneId).max? with
  | none =>
      rw [List.max?_eq_none_iff.mp hmax] at hmem
      exact absurd hmem List.not_mem_nil
  | some m =>
      have hle := (List.max?_eq_some_iff.mp hmax).2 _ hmem
      show z.zoneId < m + 1
      omega

/-- An effect is in the menu when it is one of the first four. -/
theorem parseInt_selectValue (n : ℤ) :
    parseInt 10 (selectValue (numberText 10 n)) = if 0 ≤ n ∧ n ≤ 3 then some n else none := by
  have hoption : ∀ t ∈ effectOptions, ∃ k : Fin 4, parseInt 10 t = some (k : ℤ) := by decide
  have hmenu : ∀ k : Fin 4, numberText 10 (k : ℤ) ∈ effectOptions := by decide
  rw [selectValue]
  split
  · next hmem =>
      obtain ⟨k, hk⟩ := hoption _ hmem
      rw [parseInt_numberText] at hk ⊢
      have hn : n = k := Option.some.inj hk
      rw [if_pos (by omega)]
  · next hmem =>
      have hnot : ¬ (0 ≤ n ∧ n ≤ 3) := by
        intro h
        have hk := hmenu ⟨n.toNat, by omega⟩
        rw [show ((⟨n.toNat, by omega⟩ : Fin 4) : ℤ) = n from Int.toNat_of_nonneg h.1] at hk
        exact hmem hk
      rw [if_neg hnot]
      rfl

theorem parseInt_effect {t : Text} {n : ℤ} (h : parseInt 10 (selectValue t) = some n) :
    0 ≤ n ∧ n ≤ 3 := by
  have hoption : ∀ t ∈ effectOptions, ∃ k : Fin 4, parseInt 10 t = some (k : ℤ) := by decide
  rw [selectValue] at h
  split at h
  · next hmem =>
      obtain ⟨k, hk⟩ := hoption _ hmem
      rw [hk] at h
      have hn : (k : ℤ) = n := Option.some.inj h
      omega
  · cases h

/-- The dialog is about this id and these LEDs, and about an effect of the menu. -/
structure ZoneForm.About (f : ZoneForm) (zoneId strip start count : ℤ) : Prop where
  zoneId : f.zoneId = numberText 10 zoneId
  strip : f.strip = numberText 10 strip
  start : f.start = numberText 10 start
  count : f.count = numberText 10 count
  effect : ∃ t, f.effect = selectValue t

/-- So is the body that is posted. -/
structure LedZoneBody.About (b : LedZoneBody) (zoneId strip start count : ℤ) : Prop where
  zoneId : b.zoneId = zoneId
  strip : b.strip = strip
  start : b.start = start
  count : b.count = count
  effect : 0 ≤ b.effect ∧ b.effect ≤ 3
  color : b.color.length = 3

section About

variable {f : ZoneForm} {zoneId strip start count : ℤ}

/-- Nothing that is done to the inputs changes that. -/
theorem ZoneForm.About.edit (h : f.About zoneId strip start count) (e : FormEdit) :
    (f.edit e).About zoneId strip start count := by
  cases e with
  | effect t => exact ⟨h.zoneId, h.strip, h.start, h.count, t, rfl⟩
  | name t | color1 t | color2 t | brightness n | speed n =>
      exact ⟨h.zoneId, h.strip, h.start, h.count, h.effect⟩

theorem ZoneForm.About.edits (h : f.About zoneId strip start count) (es : List FormEdit) :
    (es.foldl ZoneForm.edit f).About zoneId strip start count := by
  induction es generalizing f with
  | nil => exact h
  | cons e es ih => exact ih (h.edit e)

theorem ZoneForm.About.zone (h : f.About zoneId strip start count) {b : LedZoneBody}
    (hb : f.zone = some b) : b.About zoneId strip start count := by
  obtain ⟨t, ht⟩ := h.effect
  simp only [ZoneForm.zone, h.zoneId, h.strip, h.start, h.count, parseInt_numberText, ht,
    Option.bind_eq_bind, Option.bind_some] at hb
  obtain ⟨effect, heffect, hb⟩ := Option.bind_eq_some_iff.mp hb
  obtain ⟨brightness, -, hb⟩ := Option.bind_eq_some_iff.mp hb
  obtain ⟨speed, -, hb⟩ := Option.bind_eq_some_iff.mp hb
  cases hb
  exact ⟨rfl, rfl, rfl, rfl, parseInt_effect heffect, rfl⟩

theorem about_openNewDialog (zones : List LedZone) (strip start count : ℤ) :
    (openNewDialog zones strip start count).About (nextId zones) strip start count :=
  ⟨rfl, rfl, rfl, rfl, ['0'], rfl⟩

theorem about_openZoneDialog {z : LedZone} (h : openZoneDialog z = some f) :
    f.About z.zoneId z.strip z.start z.count := by
  obtain ⟨color1, -, h⟩ := Option.bind_eq_some_iff.mp h
  obtain ⟨color2, -, h⟩ := Option.bind_eq_some_iff.mp h
  cases h
  exact ⟨rfl, rfl, rfl, rfl, _, rfl⟩

end About

/-- **A zone in the dialog**: with its colours as texts, and, unless its effect is not in the
menu, posted as it is listed, with a speed of one at least and without white space around its
name. -/
theorem zone_openZoneDialog {z : LedZone} {r g b r2 g2 b2 : UInt8} {rest rest2 : List ℤ}
    (hcolor : z.color = (r.toNat : ℤ) :: g.toNat :: b.toNat :: rest)
    (hcolor2 : z.color2 = (r2.toNat : ℤ) :: g2.toNat :: b2.toNat :: rest2) :
    (openZoneDialog z).map ZoneForm.zone = some (if 0 ≤ z.effect ∧ z.effect ≤ 3 then
      some ⟨z.zoneId, z.strip, z.start, z.count, z.effect, [(r.toNat : ℤ), g.toNat, b.toNat],
        [(r2.toNat : ℤ), g2.toNat, b2.toNat], max 0 (min 255 z.brightness),
        max 1 (min 255 z.speed), String.ofList (trim (textValue z.name.toList))⟩
      else none) := by
  rw [openZoneDialog, hcolor, hcolor2, rgbToHex_bytes, rgbToHex_bytes]
  simp only [Option.bind_eq_bind, Option.bind_some, Option.map_some, Option.pure_def, ZoneForm.zone,
    parseInt_numberText, parseInt_selectValue, rangeValue, colorValue_hexColor, hexToRgb_hexColor]
  split <;> rfl

end Klippylink
