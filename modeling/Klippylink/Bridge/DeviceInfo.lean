import Klippylink.Host.DeviceManager
import Klippylink.Node.Flashing
import Klippylink.Node.Main
import Klippylink.Router.DeviceInfo

/-!
# The device info, from the node to its two readers

The node prints its configuration as JSON and sends the text as one packet; the router
parses it into the slot of the node, the host into its dictionary.  cJSON and
`json.loads` are components: what is used of them is that both take back what is
printed, and that a text that was cut is none.

## Main definitions

* `Json.py` — the value as `json.loads` returns it.
* `PrintsAs` — a text is the print of a value.
* `RouterRecovers`, `HostRecovers` — the configuration has arrived.
* `RoundTrip` — the packet of the device info brings it to both.
* `roundTrip_iff` — when it does.
-/

namespace Klippylink

open Lib

/-! ## The host's reading -/

/-- `bytes.decode()`. -/
def decodeUtf8 (bs : List UInt8) : Option String := String.fromUTF8? ⟨bs.toArray⟩

/-- What is decoded has the bytes it was decoded from. -/
theorem bytes_of_decodeUtf8 {bs : List UInt8} {s : String} (h : decodeUtf8 bs = some s) :
    s.toByteArray = ⟨bs.toArray⟩ := by
  rw [decodeUtf8, String.fromUTF8?] at h
  split at h
  · cases h
    rfl
  · cases h

namespace Json

mutual

/-- The value as `json.loads` returns it; `none` when a string in it is not UTF-8. -/
def py : Json → Option PyValue
  | bool b => some (.bool b)
  | number n => some (.int n)
  | string bytes => (decodeUtf8 bytes).map .str
  | array items => (pyItems items).map .list
  | object members => (pyMembers members).map .dict

/-- The items of an array. -/
def pyItems : List Json → Option (List PyValue)
  | [] => some []
  | j :: js => (py j).bind fun v => (pyItems js).map fun vs => v :: vs

/-- The members of an object. -/
def pyMembers : List (String × Json) → Option (List (String × PyValue))
  | [] => some []
  | (name, j) :: ms => (py j).bind fun v => (pyMembers ms).map fun vs => (name, v) :: vs

end

theorem isSome_pyItems (js : List Json) :
    (pyItems js).isSome = true ↔ ∀ j ∈ js, (py j).isSome = true := by
  induction js with
  | nil => simp [pyItems]
  | cons j js ih =>
      rw [List.forall_mem_cons, ← ih, pyItems]
      cases py j <;> cases pyItems js <;> simp

theorem isSome_pyMembers (ms : List (String × Json)) :
    (pyMembers ms).isSome = true ↔ ∀ m ∈ ms, (py m.2).isSome = true := by
  induction ms with
  | nil => simp [pyMembers]
  | cons m ms ih =>
      rw [List.forall_mem_cons, ← ih, pyMembers]
      cases py m.2 <;> cases pyMembers ms <;> simp

end Json

/-! ## The round trip -/

/-- The text is what `cJSON_PrintUnformatted` gives for a value: a C string that
`cJSON_Parse` and `json.loads` take back, and that is no JSON text when it is cut. -/
structure PrintsAs (text : List UInt8) (parse : List UInt8 → Option CJson)
    (loads : List UInt8 → Option PyValue) (j : Json) : Prop where
  noNul : 0 ∉ text
  parsed : parse text = some j.cjson
  loaded : loads text = j.py
  cut : ∀ n < text.length, parse (text.take n) = none

/-- The slot holds the name, the strips and the endstops of the configuration. -/
structure RouterRecovers (cfg : DeviceCfg) (node : Node) : Prop where
  name : node.name.bytes = cfg.deviceName.bytes
  neopixels : (node.neopixels.toList.take node.neopixelCount).map
      (fun p => (p.name.bytes, p.count)) =
    cfg.neopixels.rows.map fun nc => (nc.name.bytes, nc.count)
  endstops : (node.endstops.toList.take node.endstopCount).map (fun e => e.name.bytes) =
    cfg.endstops.rows.map fun ec => ec.name.bytes

/-- The entry holds the name and all of the device info. -/
structure HostRecovers (cfg : DeviceCfg) (n : NodeInfo) : Prop where
  name : ∃ s, n.name = .str s ∧ s.toByteArray = ⟨cfg.deviceName.bytes.toArray⟩
  capabilities : (deviceInfo cfg).py = some n.capabilities

/-- The packet that `send_device_info` notifies carries a complete JSON text, from which
every slot of the router and every entry of the host recover the configuration. -/
structure RoundTrip (text : List UInt8) (parse : List UInt8 → Option CJson)
    (loads : List UInt8 → Option PyValue) (cfg : DeviceCfg) (payload : List UInt8) : Prop where
  sent : ∀ (build : NodeBuild) (s : GattServer), build.infoJson = some text → Listening s →
    s.sendDeviceInfo build =
      [.sendIndicate s.connId (klipPacket KlipCommand.deviceInfoResp.code payload)]
  complete : (parse payload).isSome = true
  router : ∀ node, ∃ node', nodeUpdateInfo parse node payload = .ok node' ∧
    RouterRecovers cfg node'
  host : ∀ (now : ℕ) (m : DeviceManager) (nodeId : UInt8), (m.get nodeId).isSome = true →
    ∃ n, (m.onPacket loads now ⟨nodeId, ⟨KlipCommand.deviceInfoResp.code, payload⟩⟩).get nodeId =
      some n ∧ HostRecovers cfg n

/-- Every name is UTF-8. -/
structure NamesDecode (cfg : DeviceCfg) : Prop where
  device : (decodeUtf8 cfg.deviceName.bytes).isSome = true
  neopixels : ∀ nc ∈ cfg.neopixels.rows, (decodeUtf8 nc.name.bytes).isSome = true
  endstops : ∀ ec ∈ cfg.endstops.rows, (decodeUtf8 ec.name.bytes).isSome = true

/-- Every strip's count is an `int`. -/
def CountsFit (cfg : DeviceCfg) : Prop := ∀ nc ∈ cfg.neopixels.rows, nc.count.toNat ≤ 2147483647

variable {cfg : DeviceCfg} {text payload : List UInt8} {parse : List UInt8 → Option CJson}
  {loads : List UInt8 → Option PyValue}

/-! ### The router -/

/-- A loop over the rows succeeds, and gives each row what its item asks for. -/
theorem updateRows_ok {α : Type} {n : ℕ} {f : CJson → α → Except Fault α} {Q : CJson → α → Prop}
    {items : List CJson}
    (hf : ∀ item ∈ items, ∀ row, ∃ row', f item row = .ok row' ∧ Q item row') (k : ℕ) :
    ∀ rows : Vector α n, ∃ rows', updateRows f items k rows = .ok rows' ∧
      ∀ i < k, ∀ item, items[i]? = some item → ∀ h : i < n, Q item rows'[i] := by
  induction k with
  | zero =>
      intro rows
      exact ⟨rows, rfl, fun i hi => absurd hi (Nat.not_lt_zero i)⟩
  | succ k ih =>
      intro rows
      obtain ⟨rows₁, hrows₁, hQ⟩ := ih rows
      by_cases hskip : items[k]? = none ∨ n ≤ k
      · refine ⟨rows₁, updateRows_succ.mpr ⟨rows₁, hrows₁, .inl ⟨hskip, rfl⟩⟩, ?_⟩
        intro i hi item hitem h
        rcases Nat.lt_succ_iff_lt_or_eq.mp hi with hlt | rfl
        · exact hQ i hlt item hitem h
        · rcases hskip with hnone | hge
          · rw [hitem] at hnone
            cases hnone
          · omega
      · obtain ⟨hsome, hk⟩ := not_or.mp hskip
        obtain ⟨item, hitem⟩ := Option.ne_none_iff_exists'.mp hsome
        have hk : k < n := Nat.lt_of_not_le hk
        obtain ⟨row', hrow, hrowQ⟩ := hf item (List.mem_of_getElem? hitem) rows₁[k]
        refine ⟨rows₁.set k row', ?_, fun i hi item' hitem' h => ?_⟩
        · exact updateRows_succ.mpr ⟨rows₁, hrows₁, .inr ⟨item, hitem, hk, row', hrow, rfl⟩⟩
        · rcases Nat.lt_succ_iff_lt_or_eq.mp hi with hlt | rfl
          · rw [Vector.getElem_set_ne _ _ (by omega)]
            exact hQ i hlt item' hitem' h
          · rw [hitem] at hitem'
            cases hitem'
            rwa [Vector.getElem_set_self]

/-- What a row of the strips takes from its item. -/
structure StripRow (item : CJson) (p : NodeNeopixel) : Prop where
  name : item.getObjectItem "name" = some (.string p.name.bytes)
  count : ∃ c, item.getObjectItem "count" = some (.number c) ∧ p.count = c.toUInt32

/-- What a row of the endstops takes from its item. -/
def EndstopRow (item : CJson) (e : NodeEndstop) : Prop :=
  item.getObjectItem "name" = some (.string e.name.bytes)

theorem copyName_string (old : NodeName) (s : ConfigName) :
    ∃ name : NodeName, copyName old (some (.string s.bytes)) = .ok name ∧ name.bytes = s.bytes :=
  ⟨_, rfl, CStr.bytes_copy_of_le _ s (Nat.le_refl _)⟩

theorem updateNeopixel_info (nc : NeopixelCfg) (row : NodeNeopixel) :
    ∃ row', updateNeopixel (infoNeopixel nc).cjson row = .ok row' ∧
      StripRow (infoNeopixel nc).cjson row' := by
  obtain ⟨name, hname, hbytes⟩ := copyName_string row.name nc.name
  have hitem : (infoNeopixel nc).cjson.getObjectItem "name" = some (.string nc.name.bytes) := rfl
  have hcount : (infoNeopixel nc).cjson.getObjectItem "count" =
      some (.number (Json.saturate nc.count.toNat)) := rfl
  refine ⟨⟨name, (Json.saturate nc.count.toNat).toUInt32⟩, ?_, ?_, _, hcount, rfl⟩
  · rw [updateNeopixel, hitem, hname, hcount]
    rfl
  · rw [hitem, hbytes]

theorem updateEndstop_info (ec : EndstopCfg) (row : NodeEndstop) :
    ∃ row', updateEndstop (infoEndstop ec).cjson row = .ok row' ∧
      EndstopRow (infoEndstop ec).cjson row' := by
  obtain ⟨name, hname, hbytes⟩ := copyName_string row.name ec.name
  have hitem : (infoEndstop ec).cjson.getObjectItem "name" = some (.string ec.name.bytes) := rfl
  refine ⟨{ row with name := name }, ?_, ?_⟩
  · rw [updateEndstop, hitem, hname]
    rfl
  · rw [EndstopRow, hitem, hbytes]

/-- The rows that a loop has written are as the list they were printed from. -/
theorem map_take_rows {α β γ : Type} {n : ℕ} {rows : Vector α n} {cfgs : List β} {f : α → γ}
    {g : β → γ} (hn : cfgs.length ≤ n)
    (h : ∀ i (hi : i < cfgs.length) (_ : i < n), f rows[i] = g cfgs[i]) :
    (rows.toList.take cfgs.length).map f = cfgs.map g := by
  apply List.ext_getElem
  · simp only [List.length_map, List.length_take, Vector.length_toList]
    omega
  · intro i hi hi'
    rw [List.length_map] at hi'
    simpa using h i hi' (Nat.lt_of_lt_of_le hi' hn)

/-- The strips of the device info are written to the slot, their counts cut to an
`int`. -/
theorem updateNeopixels_info (cfg : DeviceCfg) (node : Node) :
    ∃ node', updateNeopixels (deviceInfo cfg).cjson node = .ok node' ∧ node'.name = node.name ∧
      (node'.neopixels.toList.take node'.neopixelCount).map (fun p => (p.name.bytes, p.count)) =
        cfg.neopixels.rows.map
          fun nc => (nc.name.bytes, (Json.saturate nc.count.toNat).toUInt32) := by
  have hitems : (deviceInfo cfg).cjson.getObjectItem "neopixels" =
      some (.array (Json.cjsonItems (cfg.neopixels.rows.map infoNeopixel))) := rfl
  rw [Json.cjsonItems_eq_map, List.map_map] at hitems
  have hbody : ∀ item ∈ cfg.neopixels.rows.map (Json.cjson ∘ infoNeopixel), ∀ row,
      ∃ row', updateNeopixel item row = .ok row' ∧ StripRow item row' := by
    intro item hitem row
    obtain ⟨nc, -, rfl⟩ := List.mem_map.mp hitem
    exact updateNeopixel_info nc row
  have hcount : (clampCount nodeMaxNeopixels
      (cfg.neopixels.rows.map (Json.cjson ∘ infoNeopixel)).length : ℕ) =
        cfg.neopixels.rows.length := by
    rw [List.length_map]
    exact Nat.min_eq_left cfg.neopixels.fits
  obtain ⟨rows, hrows, hrow⟩ := updateRows_ok hbody cfg.neopixels.rows.length node.neopixels
  refine ⟨{ node with
    neopixels := rows
    neopixelCount := clampCount nodeMaxNeopixels
      (cfg.neopixels.rows.map (Json.cjson ∘ infoNeopixel)).length }, ?_, rfl, ?_⟩
  · simp only [updateNeopixels, hitems, hcount, hrows]
    rfl
  · simp only [hcount]
    refine map_take_rows cfg.neopixels.fits fun i hi hi' => ?_
    have hitem : (cfg.neopixels.rows.map (Json.cjson ∘ infoNeopixel))[i]? =
        some (infoNeopixel cfg.neopixels.rows[i]).cjson := by
      rw [List.getElem?_map, List.getElem?_eq_getElem hi]
      rfl
    obtain ⟨hname, c, hc, hcount⟩ := hrow i hi _ hitem hi'
    have hname : some (CJson.string cfg.neopixels.rows[i].name.bytes) =
        some (.string rows[i].name.bytes) := hname
    have hc : some (CJson.number (Json.saturate cfg.neopixels.rows[i].count.toNat)) =
        some (.number c) := hc
    simp only [Option.some.injEq, CJson.string.injEq, CJson.number.injEq] at hname hc
    rw [hcount, ← hc, hname]

/-- So are the endstops. -/
theorem updateEndstops_info (cfg : DeviceCfg) (node : Node) :
    ∃ node', updateEndstops (deviceInfo cfg).cjson node = .ok node' ∧ node'.name = node.name ∧
      node'.neopixels = node.neopixels ∧ node'.neopixelCount = node.neopixelCount ∧
      (node'.endstops.toList.take node'.endstopCount).map (fun e => e.name.bytes) =
        cfg.endstops.rows.map fun ec => ec.name.bytes := by
  have hitems : (deviceInfo cfg).cjson.getObjectItem "endstops" =
      some (.array (Json.cjsonItems (cfg.endstops.rows.map infoEndstop))) := rfl
  rw [Json.cjsonItems_eq_map, List.map_map] at hitems
  have hbody : ∀ item ∈ cfg.endstops.rows.map (Json.cjson ∘ infoEndstop), ∀ row,
      ∃ row', updateEndstop item row = .ok row' ∧ EndstopRow item row' := by
    intro item hitem row
    obtain ⟨ec, -, rfl⟩ := List.mem_map.mp hitem
    exact updateEndstop_info ec row
  have hcount : (clampCount nodeMaxEndstops
      (cfg.endstops.rows.map (Json.cjson ∘ infoEndstop)).length : ℕ) =
        cfg.endstops.rows.length := by
    rw [List.length_map]
    exact Nat.min_eq_left cfg.endstops.fits
  obtain ⟨rows, hrows, hrow⟩ := updateRows_ok hbody cfg.endstops.rows.length node.endstops
  refine ⟨{ node with
    endstops := rows
    endstopCount := clampCount nodeMaxEndstops
      (cfg.endstops.rows.map (Json.cjson ∘ infoEndstop)).length }, ?_, rfl, rfl, rfl, ?_⟩
  · simp only [updateEndstops, hitems, hcount, hrows]
    rfl
  · simp only [hcount]
    refine map_take_rows cfg.endstops.fits fun i hi hi' => ?_
    have hitem : (cfg.endstops.rows.map (Json.cjson ∘ infoEndstop))[i]? =
        some (infoEndstop cfg.endstops.rows[i]).cjson := by
      rw [List.getElem?_map, List.getElem?_eq_getElem hi]
      rfl
    have hname := hrow i hi _ hitem hi'
    have hname : some (CJson.string cfg.endstops.rows[i].name.bytes) =
        some (.string rows[i].name.bytes) := hname
    simp only [Option.some.injEq, CJson.string.injEq] at hname
    exact hname.symm

/-- **The router reads the device info**: the names are those of the configuration, and
the counts are cut to an `int`. -/
theorem nodeUpdateInfo_info (h : PrintsAs text parse loads (deviceInfo cfg)) (node : Node) :
    ∃ node', nodeUpdateInfo parse node text = .ok node' ∧
      node'.name.bytes = cfg.deviceName.bytes ∧
      (node'.neopixels.toList.take node'.neopixelCount).map (fun p => (p.name.bytes, p.count)) =
        cfg.neopixels.rows.map
          (fun nc => (nc.name.bytes, (Json.saturate nc.count.toNat).toUInt32)) ∧
      (node'.endstops.toList.take node'.endstopCount).map (fun e => e.name.bytes) =
        cfg.endstops.rows.map fun ec => ec.name.bytes := by
  have hname : (updateName (deviceInfo cfg).cjson node).name.bytes = cfg.deviceName.bytes :=
    CStr.bytes_copy_of_le (by decide) cfg.deviceName (Nat.le_refl _)
  obtain ⟨strips, hstrips, hkeep, hrows⟩ :=
    updateNeopixels_info cfg (updateName (deviceInfo cfg).cjson node)
  obtain ⟨node', hnode, hname', hneo, hcount, hends⟩ := updateEndstops_info cfg strips
  refine ⟨{ node' with infoReceived := true }, ?_, ?_, ?_, hends⟩
  · simp only [nodeUpdateInfo, CStr.cstring_eq h.noNul, h.parsed, hstrips, bind, Except.bind,
      hnode]
    rfl
  · rw [← hname, ← hkeep, ← hname']
  · rw [← hrows, ← hneo, ← hcount]

/-- The slot recovers the configuration when the counts fit. -/
theorem map_counts_iff (cfg : DeviceCfg) :
    (cfg.neopixels.rows.map
        fun nc => (nc.name.bytes, (Json.saturate nc.count.toNat).toUInt32)) =
      cfg.neopixels.rows.map (fun nc => (nc.name.bytes, nc.count)) ↔ CountsFit cfg := by
  rw [List.map_inj_left, CountsFit]
  refine forall₂_congr fun nc _ => ?_
  rw [Prod.mk.injEq, Json.toUInt32_saturate]
  exact and_iff_right rfl

/-! ### The host -/

/-- A device info with names in UTF-8 is a dictionary for the host. -/
theorem isSome_py_deviceInfo (cfg : DeviceCfg) :
    (deviceInfo cfg).py.isSome = true ↔ NamesDecode cfg := by
  have hstring : ∀ bs, (Json.py (.string bs)).isSome = (decodeUtf8 bs).isSome := fun bs => by
    rw [Json.py, Option.isSome_map]
  have hrole : (decodeUtf8 (ascii "node")).isSome = true := by decide
  have hneo : ∀ nc, (infoNeopixel nc).py.isSome = (decodeUtf8 nc.name.bytes).isSome := by
    intro nc
    rw [infoNeopixel, Json.py, Option.isSome_map, Bool.eq_iff_iff, Json.isSome_pyMembers]
    simp [Json.py]
  have hend : ∀ ec, (infoEndstop ec).py.isSome = (decodeUtf8 ec.name.bytes).isSome := by
    intro ec
    rw [infoEndstop, Json.py, Option.isSome_map, Bool.eq_iff_iff, Json.isSome_pyMembers]
    simp [hstring]
  have harray : ∀ js, (Json.py (.array js)).isSome = true ↔ ∀ j ∈ js, j.py.isSome = true := by
    intro js
    rw [Json.py, Option.isSome_map, Json.isSome_pyItems]
  rw [deviceInfo, Json.py, Option.isSome_map, Json.isSome_pyMembers]
  simp only [List.forall_mem_cons, List.not_mem_nil, false_implies, implies_true, and_true,
    hstring, hrole, harray, List.forall_mem_map, hneo, hend, true_and]
  exact ⟨fun ⟨h₁, h₂, h₃⟩ => ⟨h₁, h₂, h₃⟩, fun h => ⟨h.device, h.neopixels, h.endstops⟩⟩

/-- **The host reads the device info** when it can be decoded, and keeps what it has
when it cannot. -/
theorem onPacket_info (now : ℕ) (m : DeviceManager) (nodeId : UInt8) (payload : List UInt8) :
    (m.onPacket loads now ⟨nodeId, ⟨KlipCommand.deviceInfoResp.code, payload⟩⟩).get nodeId =
      (m.get nodeId).map fun n =>
        match loads payload with
        | none => n
        | some info =>
            match info.get "name" n.name with
            | none => n
            | some name => { n with name := name, capabilities := info, lastSeen := now } := by
  have hping : ¬ KlipCommand.deviceInfoResp.code = KlipCommand.ping.code := by decide
  have herror : ¬ KlipCommand.deviceInfoResp.code = KlipCommand.error.code := by decide
  simp only [DeviceManager.onPacket, hping, herror, if_false, if_true]
  cases loads payload with
  | none => simp
  | some info =>
      exact (DeviceManager.get_update m nodeId nodeId _ _).trans (if_pos rfl)

/-- The name in a device info. -/
theorem get_name_py {info : PyValue} (h : (deviceInfo cfg).py = some info) (default : PyValue) :
    ∃ s, info.get "name" default = some (.str s) ∧ decodeUtf8 cfg.deviceName.bytes = some s := by
  rw [deviceInfo, Json.py, Json.pyMembers, Json.py] at h
  cases hname : decodeUtf8 cfg.deviceName.bytes with
  | none => simp [hname] at h
  | some s =>
      obtain ⟨members, hmembers, rfl⟩ := Option.map_eq_some_iff.mp h
      rw [hname, Option.map_some, Option.bind_some] at hmembers
      obtain ⟨rest, -, rfl⟩ := Option.map_eq_some_iff.mp hmembers
      exact ⟨s, rfl, rfl⟩

/-! ### When the round trip succeeds -/

/-- The payload of the packet. -/
def infoPayload (text : List UInt8) : List UInt8 :=
  text.take (if text.length < klipMaxPayloadSize then text.length else klipMaxPayloadSize - 1)

theorem sendDeviceInfo_eq {build : NodeBuild} {s : GattServer} (hbuild : build.infoJson = some text)
    (hs : Listening s) :
    s.sendDeviceInfo build =
      [.sendIndicate s.connId (klipPacket KlipCommand.deviceInfoResp.code (infoPayload text))] := by
  simp only [GattServer.sendDeviceInfo, hbuild]
  exact hs.notify _

/-- A text that fits is the payload. -/
theorem infoPayload_eq (h : text.length < klipMaxPayloadSize) : infoPayload text = text := by
  rw [infoPayload, if_pos h, List.take_length]

/-- A text that does not fit is cut. -/
theorem PrintsAs.parse_cut {j : Json} (h : PrintsAs text parse loads j)
    (hlong : klipMaxPayloadSize ≤ text.length) : parse (infoPayload text) = none := by
  have hmax : klipMaxPayloadSize = 244 := rfl
  rw [infoPayload, if_neg (Nat.not_lt.mpr hlong)]
  exact h.cut _ (by omega)

/-- What is sent is the payload. -/
theorem RoundTrip.payload_eq (h : RoundTrip text parse loads cfg payload) :
    payload = infoPayload text := by
  have hlistening : Listening ⟨0, true, OtaState.start⟩ := ⟨by decide, rfl⟩
  have hsent := h.sent ⟨false, some text, fun acc _ => acc⟩ ⟨0, true, OtaState.start⟩ rfl hlistening
  rw [sendDeviceInfo_eq rfl hlistening] at hsent
  simp only [List.cons.injEq, NodeCall.sendIndicate.injEq, true_and, and_true, klipPacket_eq]
    at hsent
  exact hsent.2.symm

/-- What the readers recover fits the packet and can be decoded. -/
theorem RoundTrip.fits (hprint : PrintsAs text parse loads (deviceInfo cfg))
    (h : RoundTrip text parse loads cfg payload) :
    text.length < klipMaxPayloadSize ∧ NamesDecode cfg ∧ CountsFit cfg := by
  have hlen : text.length < klipMaxPayloadSize := by
    by_contra hlong
    have hcomplete := h.complete
    rw [h.payload_eq, hprint.parse_cut (Nat.le_of_not_lt hlong)] at hcomplete
    cases hcomplete
  have hpayload : payload = text := h.payload_eq.trans (infoPayload_eq hlen)
  subst hpayload
  refine ⟨hlen, ?_, ?_⟩
  · -- an entry of the host
    let m := DeviceManager.start.insert (DeviceManager.newNode 0 0) rfl
    obtain ⟨n, -, hn⟩ := h.host 0 m 0 rfl
    rw [← isSome_py_deviceInfo, hn.capabilities]
    rfl
  · -- a slot of the router
    let node := Node.fresh (Vector.replicate 6 0) 0
    obtain ⟨node', hnode', hrec⟩ := h.router node
    obtain ⟨node'', hnode'', -, hcounts, -⟩ := nodeUpdateInfo_info hprint node
    rw [hnode'] at hnode''
    cases hnode''
    rw [← map_counts_iff, ← hcounts]
    exact hrec.neopixels

/-- **The device info round trip.**  The configuration arrives at both readers exactly
when its text is shorter than the largest payload, every name is UTF-8 and every count
is an `int`. -/
theorem roundTrip_iff (h : PrintsAs text parse loads (deviceInfo cfg)) :
    (∃ payload, RoundTrip text parse loads cfg payload) ↔
      text.length < klipMaxPayloadSize ∧ NamesDecode cfg ∧ CountsFit cfg := by
  constructor
  · rintro ⟨payload, hrt⟩
    exact hrt.fits h
  · rintro ⟨hlen, hnames, hcounts⟩
    have hpayload := infoPayload_eq hlen
    obtain ⟨info, hinfo⟩ := Option.isSome_iff_exists.mp ((isSome_py_deviceInfo cfg).mpr hnames)
    refine ⟨text, ⟨fun build s hbuild hs => ?_, ?_, fun node => ?_, fun now m nodeId hm => ?_⟩⟩
    · rw [sendDeviceInfo_eq hbuild hs, hpayload]
    · rw [h.parsed]
      rfl
    · obtain ⟨node', hnode, hname, hneo, hends⟩ := nodeUpdateInfo_info h node
      exact ⟨node', hnode, hname, hneo.trans ((map_counts_iff cfg).mpr hcounts), hends⟩
    · obtain ⟨n, hn⟩ := Option.isSome_iff_exists.mp hm
      obtain ⟨s, hget, hs⟩ := get_name_py hinfo n.name
      refine ⟨{ n with name := .str s, capabilities := info, lastSeen := now }, ?_,
        ⟨s, rfl, bytes_of_decodeUtf8 hs⟩, hinfo⟩
      rw [onPacket_info, hn, h.loaded, hinfo]
      simp only [Option.map_some, hget]

/-! ### Printed texts -/

namespace Json

/-- `json.loads`, as far as one text is concerned. -/
def loadsOnly (j : Json) (bs : List UInt8) : Option PyValue :=
  if bs = j.printUnformatted then j.py else none

theorem printsAs_printUnformatted {j : Json} (h : 0 ∉ j.printUnformatted) :
    PrintsAs j.printUnformatted j.parseOnly j.loadsOnly j where
  noNul := h
  parsed := if_pos rfl
  loaded := if_pos rfl
  cut n hn := by
    refine if_neg fun heq => ?_
    have hlen := congrArg List.length heq
    rw [List.length_take] at hlen
    omega

end Json

theorem roundTrip_iff_twoEndstops :
    (∃ payload, RoundTrip (deviceInfo twoEndstops).printUnformatted
        (deviceInfo twoEndstops).parseOnly (deviceInfo twoEndstops).loadsOnly twoEndstops payload) ↔
      (deviceInfo twoEndstops).printUnformatted.length < klipMaxPayloadSize ∧
        NamesDecode twoEndstops ∧ CountsFit twoEndstops :=
  roundTrip_iff (Json.printsAs_printUnformatted (by decide))

/-- A configuration file with eight endstops, whose names have 31 bytes. -/
def longFile : Json :=
  .object [("endstops", .array (List.replicate 8
    (.object [("name", .string (List.replicate 31 0x61)), ("pin", .number 4)])))]

/-- The text of its device info has more than 244 bytes. -/
theorem longFile_not_roundTrip :
    ∃ cfg, configLoaderInit longFile.parseOnly ⟨espOk, some longFile.printUnformatted, true⟩ =
        (cfg, espOk) ∧
      PrintsAs (deviceInfo cfg).printUnformatted (deviceInfo cfg).parseOnly
        (deviceInfo cfg).loadsOnly (deviceInfo cfg) ∧
      ¬ ∃ payload, RoundTrip (deviceInfo cfg).printUnformatted (deviceInfo cfg).parseOnly
        (deviceInfo cfg).loadsOnly cfg payload := by
  have hprint : PrintsAs (deviceInfo (parseConfig longFile.cjson)).printUnformatted
      (deviceInfo (parseConfig longFile.cjson)).parseOnly
      (deviceInfo (parseConfig longFile.cjson)).loadsOnly
      (deviceInfo (parseConfig longFile.cjson)) :=
    Json.printsAs_printUnformatted (by decide +kernel)
  have hread : CStr.cstring (longFile.printUnformatted.take (configBufSize - 1)) =
      longFile.printUnformatted := by decide +kernel
  refine ⟨parseConfig longFile.cjson, ?_, hprint, fun ⟨payload, h⟩ => ?_⟩
  · have hparse : longFile.parseOnly longFile.printUnformatted = some longFile.cjson := if_pos rfl
    simp only [configLoaderInit, hread, hparse, ne_eq, not_true_eq_false, false_and, if_false,
      if_true]
  · exact absurd (h.fits hprint).1 (by decide +kernel)

end Klippylink
