import Klippylink.Protocol.CJson

/-!
# JSON values as the firmware builds them

What the firmware builds with `cJSON_Create...` before it prints it.  A number is one
of the counts and pins that it puts into a text.

## Main definitions

* `Json` — a value to be printed.
* `Json.cjson` — the value as cJSON presents it after parsing the text.
* `Json.print`, `Json.printUnformatted` — the text.
-/

namespace Klippylink

open Lib

/-- A value to be printed. -/
inductive Json
  | bool (b : Bool)
  | number (n : ℕ)
  | string (bytes : List UInt8)
  | array (items : List Json)
  | object (members : List (String × Json))

namespace Json

/-- `valueint` of a number: cut to the largest `int`. -/
def saturate (n : ℕ) : Int32 := Int32.ofNat (min n 2147483647)

mutual

/-- The value as cJSON presents it after parsing the text. -/
def cjson : Json → CJson
  | bool b => .bool b
  | number n => .number (saturate n)
  | string bytes => .string bytes
  | array items => .array (cjsonItems items)
  | object members => .object (cjsonMembers members)

/-- The items of an array. -/
def cjsonItems : List Json → List CJson
  | [] => []
  | j :: js => cjson j :: cjsonItems js

/-- The members of an object. -/
def cjsonMembers : List (String × Json) → List (List UInt8 × CJson)
  | [] => []
  | (name, j) :: ms => (Lib.ascii name, cjson j) :: cjsonMembers ms

end

theorem cjsonItems_eq_map (js : List Json) : cjsonItems js = js.map cjson := by
  induction js with
  | nil => rfl
  | cons j js ih => rw [cjsonItems, ih, List.map_cons]

/-- A count is read back when it is an `int`. -/
theorem toUInt32_saturate (c : UInt32) :
    (saturate c.toNat).toUInt32 = c ↔ c.toNat ≤ 2147483647 := by
  have hlt := c.toNat_lt
  have hnat : (saturate c.toNat).toUInt32 = UInt32.ofNat (min c.toNat 2147483647) := rfl
  rw [hnat, ← UInt32.toNat_inj, UInt32.toNat_ofNat']
  omega

/-! ## Printing -/

/-- A byte of a string, as `print_string_ptr` writes it. -/
def printByte (b : UInt8) : List UInt8 :=
  if b = 0x22 then [0x5C, 0x22]
  else if b = 0x5C then [0x5C, 0x5C]
  else if b = 0x08 then ascii "\\b"
  else if b = 0x0C then ascii "\\f"
  else if b = 0x0A then ascii "\\n"
  else if b = 0x0D then ascii "\\r"
  else if b = 0x09 then ascii "\\t"
  else if b < 0x20 then ascii "\\u00" ++ (Nat.toDigits 16 (256 + b.toNat)).tail.map
    fun c => UInt8.ofNat c.toNat
  else [b]

/-- A string in quotes. -/
def printString (bs : List UInt8) : List UInt8 := 0x22 :: bs.flatMap printByte ++ [0x22]

/-- A boolean. -/
def printBool (b : Bool) : List UInt8 := ascii (if b then "true" else "false")

/-- A number. -/
def printNumber (n : ℕ) : List UInt8 := (Nat.toDigits 10 n).map fun c => UInt8.ofNat c.toNat

mutual

/-- `cJSON_PrintUnformatted`. -/
def printUnformatted : Json → List UInt8
  | bool b => printBool b
  | number n => printNumber n
  | string bytes => printString bytes
  | array items => 0x5B :: printItems items ++ [0x5D]
  | object members => 0x7B :: printMembers members ++ [0x7D]

/-- The items of an array, with commas. -/
def printItems : List Json → List UInt8
  | [] => []
  | [j] => printUnformatted j
  | j :: k :: js => printUnformatted j ++ 0x2C :: printItems (k :: js)

/-- The members of an object, with commas. -/
def printMembers : List (String × Json) → List UInt8
  | [] => []
  | [(name, j)] => printString (ascii name) ++ 0x3A :: printUnformatted j
  | (name, j) :: m :: ms =>
      printString (ascii name) ++ 0x3A :: printUnformatted j ++ 0x2C :: printMembers (m :: ms)

end

mutual

/-- `cJSON_Print`, at this depth. -/
def print (depth : ℕ) : Json → List UInt8
  | bool b => printBool b
  | number n => printNumber n
  | string bytes => printString bytes
  | array items => 0x5B :: printArray (depth + 1) items ++ [0x5D]
  | object members =>
      0x7B :: 0x0A :: printObject (depth + 1) members ++ List.replicate depth 0x09 ++ [0x7D]

/-- The items of an array, with commas and blanks. -/
def printArray (depth : ℕ) : List Json → List UInt8
  | [] => []
  | [j] => print depth j
  | j :: k :: js => print depth j ++ 0x2C :: 0x20 :: printArray depth (k :: js)

/-- The members of an object, a line each. -/
def printObject (depth : ℕ) : List (String × Json) → List UInt8
  | [] => []
  | [(name, j)] =>
      List.replicate depth 0x09 ++ printString (ascii name) ++ 0x3A :: 0x09 :: print depth j ++
        [0x0A]
  | (name, j) :: m :: ms =>
      List.replicate depth 0x09 ++ printString (ascii name) ++ 0x3A :: 0x09 :: print depth j ++
        0x2C :: 0x0A :: printObject depth (m :: ms)

end

/-- A parser, as far as one text is concerned. -/
def parseOnly (j : Json) (bs : List UInt8) : Option CJson :=
  if bs = j.printUnformatted then some j.cjson else none

end Json
end Klippylink
