import Klippylink.Lib.Buffer
import Klippylink.Lib.Records
import Klippylink.Node.ConfigLoader
import Klippylink.Router.BleCentral

/-!
# How a node is found

When its service has started, the node puts an advertisement together in an array of 31 bytes:
the flags, the service id and, if there is room, the name.  The router looks for the list of
service ids in what its scan returns, with `esp_ble_resolve_adv_data`, and connects when the
first id is that of the nodes.

The array is on the stack and not cleared; a store past its end is `none`.

## Main definitions

* `AdvBuf` — `raw_adv` and `pos`.
* `rawAdv` — what is put into it.
* `startEvt` — `ESP_GATTS_START_EVT`.
* `ResolvesFirst` — what `esp_ble_resolve_adv_data` finds.

## Main results

* `startEvt_discoverable` — every node is found, by its service and, if it fits, by its name.
-/

namespace Klippylink

open Lib

/-- `sizeof(raw_adv)`. -/
def rawAdvSize : ℕ := 31

/-- `SVC_UUID`. -/
def svcUuid : UInt16 := 0x4B4C

/-- `ESP_GATT_OK`. -/
def espGattOk : UInt8 := 0

/-- `ESP_BLE_ADV_FLAG_GEN_DISC | ESP_BLE_ADV_FLAG_BREDR_NOT_SPT`. -/
def advFlags : UInt8 := 0x02 ||| 0x04

/-- `ESP_BLE_AD_TYPE_16SRV_CMPL`. -/
def espBleAdType16SrvCmpl : UInt8 := 0x03

/-- The type of a complete name. -/
def advTypeName : UInt8 := 0x09

/-- `raw_adv` and `pos`. -/
structure AdvBuf where
  bytes : Vector UInt8 rawAdvSize
  pos : ℕ

namespace AdvBuf

/-- `raw_adv[pos++] = b`. -/
def put (a : AdvBuf) (b : UInt8) : Option AdvBuf :=
  if h : a.pos < rawAdvSize then some ⟨a.bytes.set a.pos b h, a.pos + 1⟩ else none

/-- `memcpy(&raw_adv[pos], data, len); pos += len`. -/
def copy (a : AdvBuf) (data : List UInt8) : Option AdvBuf :=
  if h : a.pos + data.length ≤ rawAdvSize then
    some ⟨memcpyAt a.bytes a.pos data h, a.pos + data.length⟩
  else none

/-- The bytes before `pos`. -/
def data (a : AdvBuf) : List UInt8 := a.bytes.toList.take a.pos

end AdvBuf

/-- What is put into `raw_adv`, whose bytes were `stack`. -/
def rawAdv (stack : Vector UInt8 rawAdvSize) (devName : ConfigName) : Option AdvBuf := do
  let nameLen := UInt8.ofNat devName.bytes.length
  let a : AdvBuf := ⟨stack, 0⟩
  let a ← a.put 0x02
  let a ← a.put 0x01
  let a ← a.put advFlags
  let a ← a.put (1 + 2)
  let a ← a.put 0x03
  let a ← a.copy (le16 svcUuid)
  if a.pos + 2 + nameLen.toNat ≤ rawAdvSize then
    let a ← a.put (1 + nameLen)
    let a ← a.put advTypeName
    a.copy (devName.bytes.take nameLen.toNat)
  else return a

/-- The calls of `ESP_GATTS_START_EVT`. -/
inductive AdvCall
  /-- `esp_ble_gap_config_adv_data_raw`. -/
  | configAdvDataRaw (data : List UInt8)
  /-- `esp_ble_gap_start_advertising`. -/
  | startAdvertising
  deriving DecidableEq

/-- `ESP_GATTS_START_EVT` with this status, where configuring the advertisement returns `ret`. -/
def startEvt (stack : Vector UInt8 rawAdvSize) (cfg : DeviceCfg) (status : UInt8) (ret : EspErr) :
    Option (List AdvCall) :=
  if status ≠ espGattOk then some []
  else
    (rawAdv stack cfg.deviceName).map fun a =>
      .configAdvDataRaw a.data :: if ret ≠ espOk then [] else [.startAdvertising]

/-! ## The records -/

theorem length_advFlags : [advFlags].length ≤ 254 := by decide

/-- The flags. -/
def flagsRecord : Record := ⟨0x01, [advFlags], length_advFlags⟩

theorem length_svcUuid : (le16 svcUuid).length ≤ 254 := by decide

/-- The list of service ids. -/
def uuidRecord : Record := ⟨espBleAdType16SrvCmpl, le16 svcUuid, length_svcUuid⟩

theorem length_deviceName (devName : ConfigName) : devName.bytes.length ≤ 31 :=
  Nat.le_of_lt_succ devName.fits

/-- The name. -/
def nameRecord (devName : ConfigName) : Record :=
  ⟨advTypeName, devName.bytes, Nat.le_trans (length_deviceName devName) (by decide)⟩

/-- There is room for the name behind the other records. -/
def NameFits (devName : ConfigName) : Prop :=
  (Record.encode [flagsRecord, uuidRecord, nameRecord devName]).length ≤ rawAdvSize

/-- The records of the advertisement. -/
def advRecords (devName : ConfigName) : List Record :=
  [flagsRecord, uuidRecord] ++
    if 9 + devName.bytes.length ≤ rawAdvSize then [nameRecord devName] else []

theorem nameFits_iff (devName : ConfigName) :
    NameFits devName ↔ 9 + devName.bytes.length ≤ rawAdvSize := by
  have hlen : (Record.encode [flagsRecord, uuidRecord, nameRecord devName]).length =
      9 + devName.bytes.length := by
    have hflags : flagsRecord.bytes.length = 3 := rfl
    have huuid : uuidRecord.bytes.length = 4 := rfl
    have hname : (nameRecord devName).bytes.length = 2 + devName.bytes.length :=
      Record.length_bytes _
    rw [Record.encode_cons, Record.encode_cons, Record.encode_cons, Record.encode_nil]
    simp only [List.length_append, hflags, huuid, hname, List.length_nil]
    omega
  rw [NameFits, hlen]

/-! ### Writing them -/

/-- These bytes have been put into the array. -/
structure AdvBuf.Holds (a : AdvBuf) (bs : List UInt8) : Prop where
  pos : a.pos = bs.length
  data : a.data = bs

theorem holds_put {a : AdvBuf} {bs : List UInt8} (h : a.Holds bs) (b : UInt8)
    (hroom : bs.length < rawAdvSize) : ∃ a', a.put b = some a' ∧ a'.Holds (bs ++ [b]) := by
  rw [← h.pos] at hroom
  refine ⟨_, dif_pos hroom, ?_, ?_⟩
  · rw [List.length_append, ← h.pos]
    rfl
  · rw [← h.data]
    simp only [AdvBuf.data, Vector.toList_set]
    rw [List.take_add_one, List.take_set_of_le (Nat.le_refl _), List.getElem?_set_self]
    · rfl
    · simpa using hroom

theorem holds_copy {a : AdvBuf} {bs : List UInt8} (h : a.Holds bs) (data : List UInt8)
    (hroom : bs.length + data.length ≤ rawAdvSize) :
    ∃ a', a.copy data = some a' ∧ a'.Holds (bs ++ data) := by
  rw [← h.pos] at hroom
  refine ⟨_, dif_pos hroom, ?_, ?_⟩
  · rw [List.length_append, ← h.pos]
  · rw [← h.data]
    exact take_memcpyAt a.bytes a.pos data hroom

/-- **What is put into the array** are the records, and nothing goes past its end. -/
theorem rawAdv_eq (stack : Vector UInt8 rawAdvSize) (devName : ConfigName) :
    ∃ a, rawAdv stack devName = some a ∧ a.data = Record.encode (advRecords devName) := by
  have hlen := length_deviceName devName
  have hnameLen : (UInt8.ofNat devName.bytes.length).toNat = devName.bytes.length := by
    rw [UInt8.toNat_ofNat']
    omega
  have hstart : AdvBuf.Holds ⟨stack, 0⟩ [] := ⟨rfl, rfl⟩
  obtain ⟨a₁, h₁, hstart⟩ := holds_put hstart 0x02 (by decide)
  obtain ⟨a₂, h₂, hstart⟩ := holds_put hstart 0x01 (by decide)
  obtain ⟨a₃, h₃, hstart⟩ := holds_put hstart advFlags (by decide)
  obtain ⟨a₄, h₄, hstart⟩ := holds_put hstart (1 + 2) (by decide)
  obtain ⟨a₅, h₅, hstart⟩ := holds_put hstart 0x03 (by decide)
  obtain ⟨a₆, h₆, hfront⟩ := holds_copy hstart (le16 svcUuid) (by decide)
  have hfront : a₆.Holds (Record.encode [flagsRecord, uuidRecord]) := hfront
  have hpos : a₆.pos = 7 := hfront.pos
  simp only [rawAdv, h₁, h₂, h₃, h₄, h₅, h₆, Option.bind_eq_bind, Option.bind_some, hpos,
    hnameLen, advRecords]
  by_cases hfits : 9 + devName.bytes.length ≤ rawAdvSize
  · obtain ⟨a₇, h₇, hname⟩ := holds_put hfront (1 + UInt8.ofNat devName.bytes.length) (by decide)
    have hroom' : (Record.encode [flagsRecord, uuidRecord] ++
        [1 + UInt8.ofNat devName.bytes.length]).length < rawAdvSize := by
      rw [List.length_append, List.length_singleton]
      decide
    obtain ⟨a₈, h₈, hname⟩ := holds_put hname advTypeName hroom'
    obtain ⟨a₉, h₉, hname⟩ := holds_copy hname devName.bytes hfits
    have hlength : 1 + UInt8.ofNat devName.bytes.length =
        UInt8.ofNat (1 + devName.bytes.length) := by
      rw [UInt8.ofNat_add]
      rfl
    rw [if_pos hfits, if_pos hfits, List.take_length]
    refine ⟨a₉, ?_, ?_⟩
    · simp only [h₇, h₈, h₉, Option.bind_some]
    · rw [hname.data, hlength]
      simp [Record.encode, Record.bytes, nameRecord]
  · rw [if_neg hfits, if_neg hfits]
    exact ⟨a₆, rfl, hfront.data⟩

/-! ## Finding the node -/

/-- `esp_ble_resolve_adv_data` finds the value of the first record of the asked type, whatever
the array holds behind the records. -/
def ResolvesFirst (resolve : List UInt8 → UInt8 → Option (List UInt8)) : Prop :=
  ∀ rs type r rest, rs.find? (fun r => r.type = type) = some r →
    resolve (Record.encode rs ++ rest) type = some r.value

/-- The value of the first record of a type. -/
def valueOf (type : UInt8) (rs : List Record) : Option (List UInt8) :=
  (rs.find? fun r => r.type = type).map Record.value

theorem valueOf_uuid (devName : ConfigName) :
    (advRecords devName).find? (fun r => r.type = espBleAdType16SrvCmpl) = some uuidRecord := by
  rw [advRecords]
  split <;> rfl

/-- The name is in the advertisement, whole, exactly when there is room for it. -/
theorem valueOf_name (devName : ConfigName) :
    valueOf advTypeName (advRecords devName) =
      if 9 + devName.bytes.length ≤ rawAdvSize then some devName.bytes else none := by
  rw [advRecords, valueOf]
  split <;> rfl

theorem length_encode_advRecords (devName : ConfigName) :
    (Record.encode (advRecords devName)).length ≤ rawAdvSize := by
  rw [advRecords]
  split
  · next hfits => exact (nameFits_iff devName).mpr hfits
  · decide

/-- **Every node is found.**  Whatever the stack holds and whatever the node's name is, the
advertisement fits its array and is a sequence of records up to its end; the router's scan
accepts it; and the name is in it, whole, exactly when there is room for it. -/
theorem startEvt_discoverable {resolve : List UInt8 → UInt8 → Option (List UInt8)}
    (hresolve : ResolvesFirst resolve) (stack : Vector UInt8 rawAdvSize) (cfg : DeviceCfg) :
    ∃ adv rs, startEvt stack cfg espGattOk espOk =
        some [.configAdvDataRaw adv, .startAdvertising] ∧
      adv.length ≤ rawAdvSize ∧ Record.decode adv = some rs ∧
      valueOf espBleAdType16SrvCmpl rs = some (le16 klipSvcUuid) ∧
      (∀ rest r bda addrType, gapEventHandler r
        (.scanResult true (resolve (adv ++ rest) espBleAdType16SrvCmpl) bda addrType) =
          [.stopScanning, .gattcOpen r.gattcIf bda addrType]) ∧
      (NameFits cfg.deviceName → valueOf advTypeName rs = some cfg.deviceName.bytes) ∧
      (¬ NameFits cfg.deviceName → valueOf advTypeName rs = none) := by
  obtain ⟨a, hraw, hdata⟩ := rawAdv_eq stack cfg.deviceName
  refine ⟨a.data, advRecords cfg.deviceName, ?_, ?_, ?_, ?_, ?_, ?_, ?_⟩
  · simp [startEvt, hraw]
  · rw [hdata]
    exact length_encode_advRecords cfg.deviceName
  · rw [hdata]
    exact Record.decode_encode _
  · rw [valueOf, valueOf_uuid]
    rfl
  · intro rest r bda addrType
    rw [hdata, hresolve _ _ _ rest (valueOf_uuid cfg.deviceName)]
    rfl
  · intro hfits
    rw [valueOf_name, if_pos ((nameFits_iff _).mp hfits)]
  · intro hfits
    rw [valueOf_name, if_neg (mt (nameFits_iff _).mpr hfits)]

/-- The walk over the lengths finds a node with the default name. -/
theorem startEvt_discoverable_default :
    ∃ adv rs, startEvt (Vector.replicate rawAdvSize 0xAA) defaultCfg espGattOk espOk =
        some [.configAdvDataRaw adv, .startAdvertising] ∧
      adv.length ≤ rawAdvSize ∧ Record.decode adv = some rs ∧
      valueOf advTypeName rs = some (ascii "klippylink_node") := by
  have hresolve : ResolvesFirst fun bs type => Record.first type bs :=
    fun _ _ _ rest h => Record.first_encode h rest
  obtain ⟨adv, rs, hcalls, hlen, hdecode, _, _, hname, _⟩ :=
    startEvt_discoverable hresolve (Vector.replicate rawAdvSize 0xAA) defaultCfg
  exact ⟨adv, rs, hcalls, hlen, hdecode, hname (by rw [nameFits_iff]; decide)⟩

end Klippylink
