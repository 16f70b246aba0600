import Klippylink.Node.ConfigLoader
import Klippylink.Protocol.Json

/-!
# Saving the node's configuration

`config_loader_save` builds a cJSON tree from a `device_cfg_t`, prints it and replaces
`config.json`.  What it writes, `config_loader_init` reads back: every member is there and of
the type that is expected, names are shorter than their arrays, pins are bytes.  The one field
that does not come back is a count above the largest `int`, which is what a negative count in a
file becomes.

`cJSON_Print` is a parameter `print`, `none` where there is no memory for the text.

## Main definitions

* `ConfigStore` — the file, and whether the file system is mounted.
* `ConfigStore.load`, `ConfigStore.save` — `config_loader_init` and `config_loader_save`.
* `configJson` — the tree that is printed.
* `CJson.CountsNonneg` — no strip that is read has a negative count.

## Main results

* `parseConfig_configJson_iff` — when a configuration is read back from its tree.
* `reload_iff` — when saving and loading changes nothing.
-/

namespace Klippylink

open Lib

/-- `ESP_FAIL`. -/
def espFail : EspErr := -1

/-! ## `config_loader_save` -/

/-- `s_mounted`, and the contents of `config.json` if there is one. -/
structure ConfigStore where
  mounted : Bool
  contents : Option (List UInt8)

/-- `mount_spiffs`, where registering returns `ret`. -/
def ConfigStore.mount (s : ConfigStore) (ret : EspErr) : ConfigStore × EspErr :=
  if s.mounted then (s, espOk)
  else if ret = espOk ∨ ret = espErrInvalidState then ({ s with mounted := true }, espOk)
  else (s, ret)

/-- The object for a strip. -/
def neopixelJson (nc : NeopixelCfg) : Json :=
  .object [("name", .string nc.name.bytes), ("pin", .number nc.gpio.toNat),
    ("count", .number nc.count.toNat)]

/-- The object for an endstop. -/
def endstopJson (ec : EndstopCfg) : Json :=
  .object [("name", .string ec.name.bytes), ("pin", .number ec.gpio.toNat),
    ("pull_up", .bool ec.pullUp), ("active_low", .bool ec.activeLow)]

/-- The tree that is printed. -/
def configJson (cfg : DeviceCfg) : Json :=
  .object [("device", .object [("name", .string cfg.deviceName.bytes)]),
    ("neopixels", .array (cfg.neopixels.rows.map neopixelJson)),
    ("endstops", .array (cfg.endstops.rows.map endstopJson))]

/-- `config_loader_init`: the configuration, and what it returns. -/
def ConfigStore.load (parse : List UInt8 → Option CJson) (s : ConfigStore) (mountRet : EspErr)
    (mallocOk : Bool) : ConfigStore × DeviceCfg × EspErr :=
  let mounted := s.mount mountRet
  (mounted.1, configLoaderInit parse ⟨mounted.2, s.contents, mallocOk⟩)

/-- `config_loader_save`, where `fopen` succeeds or not. -/
def ConfigStore.save (print : Json → Option (List UInt8)) (s : ConfigStore) (cfg : DeviceCfg)
    (mountRet : EspErr) (openOk : Bool) : ConfigStore × EspErr :=
  let mounted := s.mount mountRet
  if mounted.2 ≠ espOk then mounted
  else
    match print (configJson cfg) with
    | none => (mounted.1, espErrNoMem)
    | some json =>
        if openOk then ({ mounted.1 with contents := some json }, espOk)
        else (mounted.1, espFail)

/-! ## What is read back -/

/-- Of the strips that are read, none has a negative count. -/
def CJson.CountsNonneg (root : CJson) : Prop :=
  ∀ items, root.getObjectItem "neopixels" = some (.array items) →
    ∀ item ∈ items.take configMaxNeopixels, ∀ n, item.getObjectItem "count" = some (.number n) →
      0 ≤ n.toInt

/-- A pin is read back. -/
theorem ofInt_saturate (b : UInt8) : UInt8.ofInt (Json.saturate b.toNat).toInt = b := by
  have hlt := b.toNat_lt
  have hint : (Json.saturate b.toNat).toInt = b.toNat := by
    rw [Json.saturate, Int32.toInt_ofNat_of_lt] <;> omega
  rw [hint, ← UInt8.toNat_inj, UInt8.ofInt, UInt8.toNat_ofNat']
  omega

theorem parseEndstop_endstopJson (ec : EndstopCfg) : parseEndstop (endstopJson ec).cjson = ec := by
  have hname : configName (.empty configMaxNameLen_pos) (some (.string ec.name.bytes)) = ec.name :=
    CStr.copy_bytes configMaxNameLen_pos ec.name
  have htrue : ∀ b, configTrue (some (.bool b)) = b := by
    intro b
    cases b <;> rfl
  have hparsed : parseEndstop (endstopJson ec).cjson =
      ⟨configName (.empty configMaxNameLen_pos) (some (.string ec.name.bytes)),
        UInt8.ofInt (Json.saturate ec.gpio.toNat).toInt,
        configTrue (some (.bool ec.pullUp)), configTrue (some (.bool ec.activeLow))⟩ := rfl
  rw [hparsed, hname, ofInt_saturate, htrue, htrue]

/-- A strip is read back when its count is an `int`. -/
theorem parseNeopixel_neopixelJson (nc : NeopixelCfg) :
    parseNeopixel (neopixelJson nc).cjson = nc ↔ nc.count.toNat ≤ 2147483647 := by
  have hname : configName (.empty configMaxNameLen_pos) (some (.string nc.name.bytes)) = nc.name :=
    CStr.copy_bytes configMaxNameLen_pos nc.name
  have hparsed : parseNeopixel (neopixelJson nc).cjson =
      ⟨configName (.empty configMaxNameLen_pos) (some (.string nc.name.bytes)),
        UInt8.ofInt (Json.saturate nc.gpio.toNat).toInt,
        (Json.saturate nc.count.toNat).toUInt32⟩ := rfl
  rw [hparsed, hname, ofInt_saturate, ← Json.toUInt32_saturate]
  constructor
  · intro h
    exact congrArg NeopixelCfg.count h
  · intro h
    rw [h]

/-- An array is read back when each of its items is. -/
theorem parseRows_array {α : Type} {n : ℕ} (f : CJson → α) (g : α → Json) (t : Table α n) :
    parseRows n f (some (.array (Json.cjsonItems (t.rows.map g)))) = t ↔
      ∀ a ∈ t.rows, f (g a).cjson = a := by
  have htake : (Json.cjsonItems (t.rows.map g)).take n = (t.rows.map g).map Json.cjson := by
    rw [Json.cjsonItems_eq_map]
    apply List.take_of_length_le
    rw [List.length_map, List.length_map]
    exact t.fits
  have hrows : (parseRows n f (some (.array (Json.cjsonItems (t.rows.map g))))).rows =
      t.rows.map fun a => f (g a).cjson := by
    simp only [parseRows, htake, List.map_map]
    rfl
  constructor
  · intro h
    have hmap : t.rows.map (fun a => f (g a).cjson) = t.rows.map id := by
      rw [← hrows, h, List.map_id]
    exact List.map_inj_left.mp hmap
  · intro h
    have hmap : t.rows.map (fun a => f (g a).cjson) = t.rows := by
      rw [List.map_congr_left h, List.map_id']
    cases t
    exact (Table.mk.injEq ..).mpr (hrows.trans hmap)

/-- **A configuration is read back from its tree** when its counts are `int`s. -/
theorem parseConfig_configJson_iff (cfg : DeviceCfg) :
    parseConfig (configJson cfg).cjson = cfg ↔
      ∀ nc ∈ cfg.neopixels.rows, nc.count.toNat ≤ 2147483647 := by
  have hname : configName defaultCfg.deviceName (some (.string cfg.deviceName.bytes)) =
      cfg.deviceName := CStr.copy_bytes configMaxNameLen_pos cfg.deviceName
  have hparsed : parseConfig (configJson cfg).cjson =
      ⟨configName defaultCfg.deviceName (some (.string cfg.deviceName.bytes)),
        parseRows configMaxNeopixels parseNeopixel
          (some (.array (Json.cjsonItems (cfg.neopixels.rows.map neopixelJson)))),
        parseRows configMaxEndstops parseEndstop
          (some (.array (Json.cjsonItems (cfg.endstops.rows.map endstopJson))))⟩ := rfl
  have hendstops := (parseRows_array parseEndstop endstopJson cfg.endstops).mpr
    fun ec _ => parseEndstop_endstopJson ec
  rw [hparsed, hname, hendstops, ← forall₂_congr fun nc _ => parseNeopixel_neopixelJson nc,
    ← parseRows_array parseNeopixel neopixelJson cfg.neopixels]
  constructor
  · intro h
    exact congrArg DeviceCfg.neopixels h
  · intro h
    rw [h]

/-! ## The counts of a file -/

/-- A count that is not negative is an `int` when it is loaded, and no other is. -/
theorem toNat_toUInt32_le (n : Int32) : n.toUInt32.toNat ≤ 2147483647 ↔ 0 ≤ n.toInt := by
  have hlt := n.toUInt32.toNat_lt
  have hint : n.toInt = if 2 * n.toUInt32.toNat < 2 ^ 32 then (n.toUInt32.toNat : ℤ)
      else n.toUInt32.toNat - 2 ^ 32 := BitVec.toInt_eq_toNat_cond n.toBitVec
  rw [hint]
  split <;> omega

/-- The counts that are loaded are `int`s exactly when none was negative. -/
theorem counts_parseConfig_iff (root : CJson) :
    (∀ nc ∈ (parseConfig root).neopixels.rows, nc.count.toNat ≤ 2147483647) ↔
      root.CountsNonneg := by
  have hcount : ∀ item : CJson, (parseNeopixel item).count.toNat ≤ 2147483647 ↔
      ∀ n, item.getObjectItem "count" = some (.number n) → 0 ≤ n.toInt := by
    intro item
    simp only [parseNeopixel, configInt]
    split
    · next n hn => simp [hn, toNat_toUInt32_le]
    · next hno =>
        simp only [UInt32.toNat_zero, Nat.zero_le, true_iff]
        intro n hn
        exact absurd hn (hno n)
  simp only [parseConfig, CJson.CountsNonneg]
  cases hget : root.getObjectItem "neopixels" with
  | none => simp [parseRows, Table.empty]
  | some j =>
      cases j with
      | array items =>
          have hrows : (parseRows configMaxNeopixels parseNeopixel (some (.array items))).rows =
              (items.take configMaxNeopixels).map parseNeopixel := rfl
          rw [hrows, List.forall_mem_map]
          simp [hcount]
      | _ => simp [parseRows, Table.empty]

/-! ## Saving and loading -/

/-- `cJSON_Print` gives a text, which is a C string, is parsed as the tree it was printed from,
and fits the buffer of the loader. -/
structure PrintsBack (parse : List UInt8 → Option CJson) (print : Json → Option (List UInt8))
    (j : Json) (text : List UInt8) : Prop where
  printed : print j = some text
  noNul : 0 ∉ text
  parsed : parse text = some j.cjson
  fits : text.length ≤ configBufSize - 1

/-- The configuration is saved, and loaded again. -/
def ConfigStore.Reloads (parse : List UInt8 → Option CJson) (print : Json → Option (List UInt8))
    (s : ConfigStore) (cfg : DeviceCfg) : Prop :=
  ∀ mountRet mountRet', (s.save print cfg mountRet true).2 = espOk ∧
    ((s.save print cfg mountRet true).1.load parse mountRet' true).2 = (cfg, espOk)

/-- Mounting leaves the file system mounted, or reports an error. -/
theorem mount_cases (s : ConfigStore) (ret : EspErr) :
    ((s.mount ret).2 = espOk ∧ (s.mount ret).1.mounted = true) ∨
      ((s.mount ret).2 ≠ espOk ∧ (s.mount ret).2 ≠ espErrInvalidState) := by
  rw [ConfigStore.mount]
  split
  · next hmounted => exact .inl ⟨rfl, hmounted⟩
  · split
    · exact .inl ⟨rfl, rfl⟩
    · next hfail => exact .inr (not_or.mp hfail)

/-- What a load that succeeds has found. -/
theorem load_eq_ok {parse : List UInt8 → Option CJson} {s s' : ConfigStore} {mountRet : EspErr}
    {mallocOk : Bool} {cfg : DeviceCfg}
    (h : s.load parse mountRet mallocOk = (s', cfg, espOk)) :
    s'.mounted = true ∧ ∃ contents root, s.contents = some contents ∧
      parse (CStr.cstring (contents.take (configBufSize - 1))) = some root ∧
        cfg = parseConfig root := by
  obtain ⟨rfl, hinit⟩ := Prod.mk.inj h
  rw [configLoaderInit] at hinit
  rcases mount_cases s mountRet with ⟨hret, hmounted⟩ | hfail
  · refine ⟨hmounted, ?_⟩
    simp only [hret, ne_eq, not_true_eq_false, false_and, if_false] at hinit
    split at hinit
    · cases hinit
    · next contents hcontents =>
        split at hinit
        · split at hinit
          · cases hinit
          · next root hparse =>
              cases hinit
              exact ⟨contents, root, hcontents, hparse, rfl⟩
        · cases hinit
  · rw [if_pos hfail] at hinit
    exact absurd (Prod.mk.inj hinit).2 hfail.1

/-- **When saving and reloading changes nothing**: no strip of the file that was loaded has a
negative count. -/
theorem reload_iff {parse : List UInt8 → Option CJson} {print : Json → Option (List UInt8)}
    {s s' : ConfigStore} {mountRet : EspErr} {mallocOk : Bool} {cfg : DeviceCfg}
    {text : List UInt8} (hload : s.load parse mountRet mallocOk = (s', cfg, espOk))
    (hprint : PrintsBack parse print (configJson cfg) text) :
    s'.Reloads parse print cfg ↔
      ∀ contents root, s.contents = some contents →
        parse (CStr.cstring (contents.take (configBufSize - 1))) = some root →
          root.CountsNonneg := by
  obtain ⟨hmounted, contents, root, hcontents, hparse, rfl⟩ := load_eq_ok hload
  have hmount : ∀ (t : ConfigStore) ret, t.mounted = true → t.mount ret = (t, espOk) := by
    intro t ret ht
    rw [ConfigStore.mount, if_pos ht]
  have hsave : ∀ ret, s'.save print (parseConfig root) ret true =
      ({ s' with contents := some text }, espOk) := by
    intro ret
    simp [ConfigStore.save, hmount s' ret hmounted, hprint.printed]
  have hread : parse (CStr.cstring (text.take (configBufSize - 1))) =
      some (configJson (parseConfig root)).cjson := by
    rw [List.take_of_length_le hprint.fits, CStr.cstring_eq hprint.noNul, hprint.parsed]
  have hreload : ∀ ret, (ConfigStore.load parse { s' with contents := some text } ret true).2 =
      (parseConfig (configJson (parseConfig root)).cjson, espOk) := by
    intro ret
    simp only [ConfigStore.load, hmount { s' with contents := some text } ret hmounted]
    rw [configLoaderInit]
    simp only [hread]
    rfl
  have hequal : s'.Reloads parse print (parseConfig root) ↔
      parseConfig (configJson (parseConfig root)).cjson = parseConfig root := by
    simp [ConfigStore.Reloads, hsave, hreload]
  rw [hequal, parseConfig_configJson_iff, counts_parseConfig_iff]
  constructor
  · intro h contents' root' hcontents' hparse'
    rw [hcontents] at hcontents'
    cases hcontents'
    rw [hparse] at hparse'
    cases hparse'
    exact h
  · intro h
    exact h contents root hcontents hparse

/-- A file with one strip that has this count, as it is parsed. -/
def stripFile (count : Int32) : CJson :=
  .object [(ascii "neopixels", .array [.object [(ascii "count", .number count)]])]

/-- A parser, as far as a file and what is saved of it are concerned. -/
def parseSaved (file : String) (root : CJson) (bs : List UInt8) : Option CJson :=
  let saved := configJson (parseConfig root)
  if bs = ascii file then some root
  else if bs = saved.print 0 then some saved.cjson
  else none

/-- Three LEDs. -/
def threeLeds : String := "\x7b\"neopixels\":[\x7b\"count\":3\x7d]\x7d"

/-- One LED less than none. -/
def minusOne : String := "\x7b\"neopixels\":[\x7b\"count\":-1\x7d]\x7d"

/-- A file that is saved as it was loaded. -/
theorem reloads_threeLeds :
    ConfigStore.Reloads (parseSaved threeLeds (stripFile 3)) (fun j => some (j.print 0))
      ⟨true, some (ascii threeLeds)⟩ (parseConfig (stripFile 3)) := by
  have hprint : PrintsBack (parseSaved threeLeds (stripFile 3)) (fun j => some (j.print 0))
      (configJson (parseConfig (stripFile 3))) ((configJson (parseConfig (stripFile 3))).print 0) :=
    ⟨rfl, by decide, rfl, by decide +kernel⟩
  have hload : ConfigStore.load (parseSaved threeLeds (stripFile 3))
      ⟨false, some (ascii threeLeds)⟩ espOk true =
        (⟨true, some (ascii threeLeds)⟩, parseConfig (stripFile 3), espOk) := rfl
  refine (reload_iff hload hprint).mpr ?_
  rintro contents root ⟨⟩ hroot
  cases hroot
  rintro items ⟨⟩ item hitem n hn
  rw [List.mem_singleton.mp hitem] at hn
  cases hn
  decide

/-- A count of -1 is loaded as 4294967295, saved as that, and loaded as 2147483647. -/
theorem not_reloads_minusOne :
    ∃ cfg, ConfigStore.load (parseSaved minusOne (stripFile (-1)))
        ⟨false, some (ascii minusOne)⟩ espOk true = (⟨true, some (ascii minusOne)⟩, cfg, espOk) ∧
      cfg.neopixels.rows.map NeopixelCfg.count = [4294967295] ∧
      PrintsBack (parseSaved minusOne (stripFile (-1))) (fun j => some (j.print 0))
        (configJson cfg) ((configJson cfg).print 0) ∧
      ¬ ConfigStore.Reloads (parseSaved minusOne (stripFile (-1))) (fun j => some (j.print 0))
        ⟨true, some (ascii minusOne)⟩ cfg := by
  refine ⟨_, rfl, by decide, ⟨rfl, by decide, rfl, by decide +kernel⟩, ?_⟩
  intro h
  have hcount := congrArg (fun r => r.1.neopixels.rows.map NeopixelCfg.count) (h espOk espOk).2
  revert hcount
  decide

end Klippylink
