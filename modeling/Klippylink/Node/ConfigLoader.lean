import Klippylink.Lib.CStr
import Klippylink.Lib.Table
import Klippylink.Node.OtaHandler
import Klippylink.Protocol.CJson

/-!
# The node's configuration

`config_loader_init` starts from a default, mounts the file system, reads at most
4095 bytes of `config.json`, and copies what it finds there into a `device_cfg_t`.
A strip or an endstop whose members are missing or of another type keeps the zeros it
starts with.

## Main definitions

* `DeviceCfg` — `device_cfg_t`.
* `ConfigFile` — what mounting, opening, allocating and reading come to.
* `configLoaderInit` — `config_loader_init`.
-/

namespace Klippylink

open Lib

/-- `CONFIG_MAX_NAME_LEN`. -/
def configMaxNameLen : ℕ := 32

theorem configMaxNameLen_pos : 0 < configMaxNameLen := by decide

/-- `CONFIG_MAX_NEOPIXELS`. -/
def configMaxNeopixels : ℕ := 4

/-- `CONFIG_MAX_ENDSTOPS`. -/
def configMaxEndstops : ℕ := 8

/-- `BUF_SIZE`. -/
def configBufSize : ℕ := 4096

/-- A name in a `char[CONFIG_MAX_NAME_LEN]`. -/
abbrev ConfigName := CStr configMaxNameLen

/-- `neopixel_cfg_t`. -/
structure NeopixelCfg where
  name : ConfigName
  gpio : UInt8
  count : UInt32
  deriving DecidableEq

/-- `endstop_cfg_t`. -/
structure EndstopCfg where
  name : ConfigName
  gpio : UInt8
  pullUp : Bool
  activeLow : Bool
  deriving DecidableEq

/-- `device_cfg_t`: the name, and the parts of the two arrays that are in use. -/
structure DeviceCfg where
  deviceName : ConfigName
  neopixels : Table NeopixelCfg configMaxNeopixels
  endstops : Table EndstopCfg configMaxEndstops
  deriving DecidableEq

/-! ## Into ESP-IDF and the C library -/

/-- What `config_loader_init` finds: the return value of `esp_vfs_spiffs_register`, the
contents of the file if there is one, and whether `malloc` succeeds. -/
structure ConfigFile where
  mountRet : EspErr
  contents : Option (List UInt8)
  mallocOk : Bool

/-! ## The members -/

/-- A name, when it is there and a string. -/
def configName (old : ConfigName) (j : Option CJson) : ConfigName :=
  match j with
  | some (.string s) => CStr.copy configMaxNameLen_pos s
  | _ => old

/-- `valueint`, when it is there and a number. -/
def configInt {α : Type} (old : α) (ofInt : Int32 → α) (j : Option CJson) : α :=
  match j with
  | some (.number n) => ofInt n
  | _ => old

/-- `cJSON_IsTrue`. -/
def configTrue (j : Option CJson) : Bool :=
  match j with
  | some (.bool true) => true
  | _ => false

/-- The body of the loop of `parse_neopixels`. -/
def parseNeopixel (item : CJson) : NeopixelCfg where
  name := configName (.empty configMaxNameLen_pos) (item.getObjectItem "name")
  gpio := configInt 0 (fun n => UInt8.ofInt n.toInt) (item.getObjectItem "pin")
  count := configInt 0 (fun n => n.toUInt32) (item.getObjectItem "count")

/-- The body of the loop of `parse_endstops`. -/
def parseEndstop (item : CJson) : EndstopCfg where
  name := configName (.empty configMaxNameLen_pos) (item.getObjectItem "name")
  gpio := configInt 0 (fun n => UInt8.ofInt n.toInt) (item.getObjectItem "pin")
  pullUp := configTrue (item.getObjectItem "pull_up")
  activeLow := configTrue (item.getObjectItem "active_low")

/-- The items of an array, up to its capacity. -/
def parseRows {α : Type} (n : ℕ) (f : CJson → α) (arr : Option CJson) : Table α n :=
  match arr with
  | some (.array items) => ⟨(items.take n).map f, by
      rw [List.length_map]
      exact List.length_take_le n items⟩
  | _ => Table.empty

/-! ## `config_loader_init` -/

/-- The configuration before anything is read. -/
def defaultCfg : DeviceCfg where
  deviceName := CStr.copy configMaxNameLen_pos (ascii "klippylink_node")
  neopixels := Table.empty
  endstops := Table.empty

/-- What the parsed file makes of the default. -/
def parseConfig (root : CJson) : DeviceCfg where
  deviceName := configName defaultCfg.deviceName
    ((root.getObjectItem "device").bind fun dev => dev.getObjectItem "name")
  neopixels := parseRows configMaxNeopixels parseNeopixel (root.getObjectItem "neopixels")
  endstops := parseRows configMaxEndstops parseEndstop (root.getObjectItem "endstops")

/-- `config_loader_init`: the configuration, and what it returns. -/
def configLoaderInit (parse : List UInt8 → Option CJson) (file : ConfigFile) :
    DeviceCfg × EspErr :=
  if file.mountRet ≠ espOk ∧ file.mountRet ≠ espErrInvalidState then (defaultCfg, file.mountRet)
  else
    match file.contents with
    | none => (defaultCfg, espErrNotFound)
    | some contents =>
        if file.mallocOk then
          match parse (CStr.cstring (contents.take (configBufSize - 1))) with
          | none => (defaultCfg, espErrInvalidArg)
          | some root => (parseConfig root, espOk)
        else (defaultCfg, espErrNoMem)

end Klippylink
