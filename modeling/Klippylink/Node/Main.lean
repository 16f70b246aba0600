import Klippylink.Node.Drivers
import Klippylink.Protocol.Json

/-!
# The node's start, and the indices of its devices

`app_main` initialises the strips and the endstops of the configuration one after
another and goes on when one fails.  The device info numbers them by their places in
the configuration; the drivers number those that initialised.

## Main definitions

* `BootOutcomes`, `Devices`, `appMain` — `app_main`.
* `deviceInfo` — the object that `send_device_info` builds.
* `StripIndices`, `EndstopIndices` — the two numberings agree.
-/

namespace Klippylink

open Lib

/-! ## `app_main` -/

/-- What the drivers return: for each strip, for the effects engine, for each
endstop. -/
structure BootOutcomes where
  neopixel : ℕ → EspErr
  ledEffects : EspErr
  endstop : ℕ → EspErr

/-- What `app_main` leaves: the drivers' tables, and the index that each initialisation
gave. -/
structure Devices where
  strips : StripTable
  stripIdx : List (Option ℕ)
  endstops : Endstops
  endstopIdx : List (Option ℕ)

/-- The loop over the strips. -/
def initNeopixels (cfg : DeviceCfg) (out : BootOutcomes) : StripTable × List (Option ℕ) :=
  initLoop (fun s i (nc : NeopixelCfg) => neopixelInit s nc.gpio nc.count (out.neopixel i)) 0
    cfg.neopixels.rows Table.empty

/-- The loop over the endstops; every one of them gets `endstop_event_cb`. -/
def initEndstops (cfg : DeviceCfg) (out : BootOutcomes) : Endstops × List (Option ℕ) :=
  initLoop (fun s i (ec : EndstopCfg) =>
    endstopInit s ec.gpio ec.activeLow (some .eventCb) (out.endstop i)) 0
    cfg.endstops.rows Endstops.start

/-- `app_main`, up to the start of the GATT server; `none` where `ESP_ERROR_CHECK`
aborts. -/
def appMain (cfg : DeviceCfg) (out : BootOutcomes) : Option Devices :=
  let strips := initNeopixels cfg out
  if 0 < cfg.neopixels.count ∧ out.ledEffects ≠ espOk then none
  else
    let endstops := initEndstops cfg out
    some ⟨strips.1, strips.2, endstops.1, endstops.2⟩

/-! ## The device info -/

/-- A strip in the device info. -/
def infoNeopixel (nc : NeopixelCfg) : Json :=
  .object [("name", .string nc.name.bytes), ("count", .number nc.count.toNat)]

/-- An endstop in the device info. -/
def infoEndstop (ec : EndstopCfg) : Json := .object [("name", .string ec.name.bytes)]

/-- The object that `send_device_info` builds. -/
def deviceInfo (cfg : DeviceCfg) : Json :=
  .object [("name", .string cfg.deviceName.bytes), ("role", .string (ascii "node")),
    ("neopixels", .array (cfg.neopixels.rows.map infoNeopixel)),
    ("endstops", .array (cfg.endstops.rows.map infoEndstop))]

/-- The items of a member that is an array. -/
def Json.items (j : Json) (name : String) : List Json :=
  match j with
  | .object members =>
      match members.find? fun m => m.1 = name with
      | some (_, .array items) => items
      | _ => []
  | _ => []

/-! ## Indices -/

/-- For every strip that initialised, the place of its name in the device info is the
index that the driver gave it, and pixels set under that index are set on its pin. -/
def StripIndices (cfg : DeviceCfg) (out : BootOutcomes) (d : Devices) : Prop :=
  ∀ p nc, cfg.neopixels.rows[p]? = some nc → out.neopixel p = espOk →
    ((deviceInfo cfg).items "neopixels")[p]? = some (infoNeopixel nc) ∧
      d.stripIdx[p]? = some (some p) ∧
      ∀ led < nc.count, ∀ color,
        neopixelSetPixel d.strips p led color = .ok ⟨nc.gpio, led, color⟩

/-- For every endstop that initialised, the place of its name in the device info is the
index that the driver gave it, and reading that index reads its pin. -/
def EndstopIndices (cfg : DeviceCfg) (out : BootOutcomes) (d : Devices) : Prop :=
  ∀ p ec, cfg.endstops.rows[p]? = some ec → out.endstop p = espOk →
    ((deviceInfo cfg).items "endstops")[p]? = some (infoEndstop ec) ∧
      d.endstopIdx[p]? = some (some p) ∧
      ∀ level, endstopRead d.endstops level (UInt8.ofNat p) =
        if ec.activeLow then !level ec.gpio else level ec.gpio

/-- The devices that fail come after those that initialise. -/
def FailuresLast (ret : ℕ → EspErr) (n : ℕ) : Prop :=
  ∀ p < n, ret p = espOk → ∀ j < p, ret j = espOk

/-! ### The drivers take the next row -/

theorem takesNextRow_neopixelInit (ret : ℕ → EspErr) :
    TakesNextRow Table.rows neopixelMaxStrips
      (fun s i (nc : NeopixelCfg) => neopixelInit s nc.gpio nc.count (ret i))
      (fun i => ret i = espOk) fun nc => ⟨nc.gpio, nc.count⟩ where
  taken s i nc hok hroom := by
    obtain ⟨s', hpush⟩ : ∃ s', s.push ⟨nc.gpio, nc.count⟩ = some s' :=
      Option.ne_none_iff_exists'.mp fun hnone => by
        rw [Table.push_eq_none] at hnone
        omega
    refine ⟨s', ?_, (Table.push_eq_some.mp hpush).2⟩
    simp [neopixelInit, hpush, hok, Table.count]
  failed s i nc hfail := by
    rw [neopixelInit]
    split
    · exact ⟨_, rfl⟩
    · exact ⟨_, if_pos hfail⟩

theorem takesNextRow_endstopInit (ret : ℕ → EspErr) :
    TakesNextRow (fun s : Endstops => s.table.rows) endstopMax
      (fun s i (ec : EndstopCfg) => endstopInit s ec.gpio ec.activeLow (some .eventCb) (ret i))
      (fun i => ret i = espOk) fun ec => ⟨ec.gpio, ec.activeLow, some .eventCb⟩ where
  taken s i ec hok hroom := by
    obtain ⟨table, hpush⟩ : ∃ t, s.table.push ⟨ec.gpio, ec.activeLow, some .eventCb⟩ = some t :=
      Option.ne_none_iff_exists'.mp fun hnone => by
        rw [Table.push_eq_none] at hnone
        omega
    simp only [endstopInit, hpush, hok, ne_eq, not_true_eq_false, if_false]
    exact ⟨_, rfl, (Table.push_eq_some.mp hpush).2⟩
  failed s i ec hfail := by
    rw [endstopInit]
    split
    · exact ⟨_, rfl⟩
    · exact ⟨_, if_pos hfail⟩

/-! ### The two numberings -/

theorem getElem?_items_neopixels {cfg : DeviceCfg} {p : ℕ} {nc : NeopixelCfg}
    (h : cfg.neopixels.rows[p]? = some nc) :
    ((deviceInfo cfg).items "neopixels")[p]? = some (infoNeopixel nc) := by
  have hitems : (deviceInfo cfg).items "neopixels" = cfg.neopixels.rows.map infoNeopixel := rfl
  rw [hitems, List.getElem?_map, h, Option.map_some]

theorem getElem?_items_endstops {cfg : DeviceCfg} {p : ℕ} {ec : EndstopCfg}
    (h : cfg.endstops.rows[p]? = some ec) :
    ((deviceInfo cfg).items "endstops")[p]? = some (infoEndstop ec) := by
  have hitems : (deviceInfo cfg).items "endstops" = cfg.endstops.rows.map infoEndstop := rfl
  rw [hitems, List.getElem?_map, h, Option.map_some]

theorem stripIndices_iff {cfg : DeviceCfg} {out : BootOutcomes} {d : Devices}
    (h : appMain cfg out = some d) :
    StripIndices cfg out d ↔ FailuresLast out.neopixel cfg.neopixels.rows.length := by
  have hd : d.strips = (initNeopixels cfg out).1 ∧ d.stripIdx = (initNeopixels cfg out).2 := by
    rw [appMain] at h
    split at h
    · cases h
    · cases h
      exact ⟨rfl, rfl⟩
  have htakes := takesNextRow_neopixelInit out.neopixel
  rw [FailuresLast,
    ← initLoop_index_eq_place_iff (s := Table.empty) htakes _ rfl cfg.neopixels.fits]
  constructor
  · intro hall p hp hok
    obtain ⟨-, hidx, -⟩ := hall p _ (List.getElem?_eq_getElem hp) hok
    rw [hd.2] at hidx
    exact hidx
  · intro hall p nc hp hok
    have hidx := hall p (List.getElem?_eq_some_iff.mp hp).1 hok
    have hrow : d.strips.rows[p]? = some ⟨nc.gpio, nc.count⟩ := by
      rw [hd.1]
      exact initLoop_row htakes _ rfl cfg.neopixels.fits hp hidx
    refine ⟨getElem?_items_neopixels hp, by rw [hd.2]; exact hidx, fun led hled color => ?_⟩
    have hbound : ¬ nc.count ≤ led := by simpa using hled
    simp [neopixelSetPixel, hrow, hbound]

theorem endstopIndices_iff {cfg : DeviceCfg} {out : BootOutcomes} {d : Devices}
    (h : appMain cfg out = some d) :
    EndstopIndices cfg out d ↔ FailuresLast out.endstop cfg.endstops.rows.length := by
  have hd : d.endstops = (initEndstops cfg out).1 ∧ d.endstopIdx = (initEndstops cfg out).2 := by
    rw [appMain] at h
    split at h
    · cases h
    · cases h
      exact ⟨rfl, rfl⟩
  have htakes := takesNextRow_endstopInit out.endstop
  rw [FailuresLast,
    ← initLoop_index_eq_place_iff (s := Endstops.start) htakes _ rfl cfg.endstops.fits]
  constructor
  · intro hall p hp hok
    obtain ⟨-, hidx, -⟩ := hall p _ (List.getElem?_eq_getElem hp) hok
    rw [hd.2] at hidx
    exact hidx
  · intro hall p ec hp hok
    have hlen := (List.getElem?_eq_some_iff.mp hp).1
    have hidx := hall p hlen hok
    have hrow : d.endstops.table.rows[p]? = some ⟨ec.gpio, ec.activeLow, some .eventCb⟩ := by
      rw [hd.1]
      exact initLoop_row htakes _ rfl cfg.endstops.fits hp hidx
    have hbyte : (UInt8.ofNat p).toNat = p := toNat_byte (by
      have := cfg.endstops.fits
      have hmax : configMaxEndstops = 8 := rfl
      omega)
    refine ⟨getElem?_items_endstops hp, by rw [hd.2]; exact hidx, fun level => ?_⟩
    simp [endstopRead, hbyte, hrow, Endstop.triggered]

/-- **Names and indices agree exactly when the devices that fail come last**, among the
strips and among the endstops. -/
theorem indices_agree_iff {cfg : DeviceCfg} {out : BootOutcomes} {d : Devices}
    (h : appMain cfg out = some d) :
    (StripIndices cfg out d ∧ EndstopIndices cfg out d) ↔
      FailuresLast out.neopixel cfg.neopixels.rows.length ∧
        FailuresLast out.endstop cfg.endstops.rows.length :=
  and_congr (stripIndices_iff h) (endstopIndices_iff h)

/-- Two endstops, on the pins 4 and 5. -/
def twoEndstops : DeviceCfg :=
  ⟨defaultCfg.deviceName, Table.empty,
    ⟨[⟨CStr.copy configMaxNameLen_pos (ascii "x"), 4, true, true⟩,
      ⟨CStr.copy configMaxNameLen_pos (ascii "y"), 5, true, true⟩], by decide⟩⟩

/-- Every device initialises. -/
def allInitialise : BootOutcomes := ⟨fun _ => espOk, espOk, fun _ => espOk⟩

theorem indices_agree_iff_twoEndstops :
    ∃ d, appMain twoEndstops allInitialise = some d ∧
      ((StripIndices twoEndstops allInitialise d ∧ EndstopIndices twoEndstops allInitialise d) ↔
        FailuresLast allInitialise.neopixel twoEndstops.neopixels.rows.length ∧
          FailuresLast allInitialise.endstop twoEndstops.endstops.rows.length) :=
  ⟨_, rfl, indices_agree_iff rfl⟩

/-- The first endstop fails. -/
def firstFails : BootOutcomes :=
  ⟨fun _ => espOk, espOk, fun i => if i = 0 then espErrInvalidArg else espOk⟩

/-- The second endstop is then reached under the index of the first. -/
theorem firstFails_not_agree :
    ∃ d, appMain twoEndstops firstFails = some d ∧
      ¬ (StripIndices twoEndstops firstFails d ∧ EndstopIndices twoEndstops firstFails d) := by
  refine ⟨_, rfl, fun h => ?_⟩
  have hidx := (h.2 1 _ rfl rfl).2.1
  exact absurd hidx (by decide)

end Klippylink
