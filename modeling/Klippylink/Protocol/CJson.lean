import Klippylink.Lib.Bytes

/-!
# JSON values as cJSON presents them

The part of a `cJSON` tree that the firmware reads.  The parser itself is a
component the firmware links against; where it is needed it is a parameter
`parse : List UInt8 → Option CJson`.

## Main definitions

* `CJson` — a parsed value.
* `CJson.getObjectItem` — the lookup of a member; `none` is a null pointer.
-/

namespace Klippylink

/-- A parsed value. -/
inductive CJson
  | null
  | bool (b : Bool)
  /-- A number, by its `valueint`: the value as a saturated C `int`. -/
  | number (valueint : Int32)
  | string (valuestring : List UInt8)
  | array (items : List CJson)
  | object (members : List (List UInt8 × CJson))

namespace CJson

/-- A letter in lower case, in ASCII. -/
def toLower (b : UInt8) : UInt8 := if 0x41 ≤ b ∧ b ≤ 0x5A then b + 0x20 else b

/-- `cJSON_GetObjectItem`: the first member with this name, case ignored.  The
elements of an array have no name, and other values have no members. -/
def getObjectItem (j : CJson) (name : String) : Option CJson :=
  match j with
  | object members =>
      (members.find? fun m => m.1.map toLower = (Lib.ascii name).map toLower).map Prod.snd
  | _ => none

/-- `valuestring`, null unless the value is a string. -/
def valuestring : CJson → Option (List UInt8)
  | string s => some s
  | _ => none

/-- `valueint`, zero unless the value is a number or `true`. -/
def valueint : CJson → Int32
  | number n => n
  | bool true => 1
  | _ => 0

end CJson
end Klippylink
