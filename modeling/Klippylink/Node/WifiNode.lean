import Klippylink.Node.Flashing

/-!
# WiFi credentials, from the host to the station configuration

`make_wifi_enable` packs the two texts behind their lengths, the node's switch
unpacks them into `char[33]` and `char[65]`, and `wifi_node_enable` copies them into
the two fields of a zeroed `wifi_sta_config_t`, of 32 and 64 bytes.

## Main definitions

* `makeWifiEnable` — the host's packet.
* `StaConfig`, `wifiNodeEnable` — the configuration that is set.
* `CredentialsArrive` — the fields hold the credentials, followed by zeros.
-/

namespace Klippylink

open Lib

/-- WIFI_ENABLE: `[ssid_len, ssid, pass_len, pass]`. -/
def wifiPacket (ssid password : List UInt8) : KlipPacket :=
  ⟨KlipCommand.wifiEnable.code,
    [UInt8.ofNat ssid.length] ++ (ssid ++ ([UInt8.ofNat password.length] ++ password))⟩

/-- `make_wifi_enable`, given the encoded texts; `none` where `bytes([...])` raises,
because a length does not fit its byte. -/
def makeWifiEnable (ssid password : List UInt8) : Option KlipPacket :=
  if ssid.length ≤ 255 ∧ password.length ≤ 255 then some (wifiPacket ssid password) else none

/-- The fields of `wifi_sta_config_t` that the node sets. -/
structure StaConfig where
  ssid : Vector UInt8 32
  password : Vector UInt8 64

/-- `wifi_node_enable`: the configuration it passes to `esp_wifi_set_config`, which
starts out zeroed. -/
def wifiNodeEnable (ssid : CStr 33) (pass : CStr 65) : StaConfig where
  ssid := (CStr.copy (by decide) ssid.bytes).field
  password := (CStr.copy (by decide) pass.bytes).field

/-- The configuration that a call of the node sets. -/
def NodeCall.staConfig : NodeCall → Option StaConfig
  | .wifiNodeEnable ssid pass => some (Klippylink.wifiNodeEnable ssid pass)
  | _ => none

/-- The packet made for the credentials makes the node set one configuration, whose
fields hold them followed only by zeros. -/
def CredentialsArrive (ssid password : List UInt8) : Prop :=
  ∃ p, makeWifiEnable ssid password = some p ∧
    ∀ (build : NodeBuild) (s : GattServer) (beyond : ℕ → UInt8) (out : Outcomes),
      ∃ config, (s.writeEvt build (p.written beyond) out).2.filterMap NodeCall.staConfig =
          [config] ∧
        config.ssid.toList = ssid ++ List.replicate (32 - ssid.length) 0 ∧
        config.password.toList = password ++ List.replicate (64 - password.length) 0

/-! ### The node unpacks what the host packed -/

/-- The node takes the packet's two texts for its strings. -/
theorem writeEvt_wifiPacket {ssid password : List UInt8}
    (hlen : 1 + ssid.length + 1 + password.length ≤ 255)
    (build : NodeBuild) (s : GattServer) (beyond : ℕ → UInt8) (out : Outcomes) :
    (s.writeEvt build ((wifiPacket ssid password).written beyond) out).2 =
      [.wifiNodeEnable (CStr.copy (by decide) ssid) (CStr.copy (by decide) password)] := by
  obtain ⟨hmagic, hcommand, hbyte⟩ := header_written (wifiPacket ssid password) .wifiEnable rfl
    beyond
  have hpayload : (wifiPacket ssid password).payload.length =
      1 + ssid.length + 1 + password.length := by
    simp only [wifiPacket, List.length_append, List.length_singleton]
    omega
  have hlength : (UInt8.ofNat (wifiPacket ssid password).payload.length).toNat =
      1 + ssid.length + 1 + password.length := by
    rw [toNat_byte (by omega), hpayload]
  have hssidLen : ((wifiPacket ssid password).written beyond).byte 4 = UInt8.ofNat ssid.length :=
    byte_written_middle beyond [] _ _ rfl
  have hpassLen : ((wifiPacket ssid password).written beyond).byte (4 + (1 + ssid.length)) =
      UInt8.ofNat password.length := by
    have := byte_written_middle (p := wifiPacket ssid password) beyond
      ([UInt8.ofNat ssid.length] ++ ssid) password (UInt8.ofNat password.length) (by
        simp [wifiPacket])
    rwa [List.length_append, List.length_singleton] at this
  have hssid : ((wifiPacket ssid password).written beyond).bytes 5 ssid.length = ssid :=
    bytes_written_middle beyond [UInt8.ofNat ssid.length] ssid _ rfl
  have hpass : ((wifiPacket ssid password).written beyond).bytes (6 + ssid.length)
      password.length = password := by
    have := bytes_written_middle (p := wifiPacket ssid password) beyond
      ([UInt8.ofNat ssid.length] ++ (ssid ++ [UInt8.ofNat password.length])) password [] (by
        simp [wifiPacket])
    rw [List.length_append, List.length_append, List.length_singleton] at this
    rwa [show 6 + ssid.length = 4 + (1 + (ssid.length + 1)) by omega]
  rw [writeEvt_packet, GattServer.dispatchPacket, hmagic, hcommand]
  simp only [ne_eq, not_true_eq_false, if_false]
  rw [GattServer.wifiEnable, hbyte, hlength, hssidLen, toNat_byte (by omega), hpassLen,
    toNat_byte (by omega), if_neg (by omega), if_neg (by omega), if_neg (by omega), hssid, hpass]

/-! ### What the fields hold -/

/-- A text goes through two copies: it arrives exactly when it leaves the smaller
field room for a NUL. -/
theorem field_copy_copy_iff {m n : ℕ} (hm : 0 < m) (hn : 0 < n) (hmn : n ≤ m) {text : List UInt8}
    (h : 0 ∉ text) :
    (CStr.copy hn (CStr.copy hm text).bytes).field.toList =
        text ++ List.replicate (n - text.length) 0 ↔ text.length < n := by
  have hfirst : 0 ∉ text.take (m - 1) := fun hmem => h (List.mem_of_mem_take hmem)
  rw [CStr.field_eq_iff _ h, CStr.bytes_copy hm h, CStr.bytes_copy hn hfirst, List.take_take]
  constructor
  · intro htake
    have hlen := congrArg List.length htake
    rw [List.length_take] at hlen
    omega
  · intro hlt
    exact List.take_of_length_le (by omega)

/-- Credentials that arrive leave room for a NUL in both fields. -/
theorem CredentialsArrive.fits {ssid password : List UInt8} (h : CredentialsArrive ssid password)
    (hssid : 0 ∉ ssid) (hpassword : 0 ∉ password) : ssid.length < 32 ∧ password.length < 64 := by
  obtain ⟨p, hp, hnode⟩ := h
  obtain ⟨config, hcalls, hsta, hpsk⟩ := hnode ⟨false, none, fun acc _ => acc⟩ GattServer.start
    (fun _ => 0) ⟨fun _ => false, ⟨none, espOk, 0⟩, espOk, ⟨false, fun _ => 0, espOk, espOk⟩⟩
  -- a text longer than its field cannot be what the field holds
  have hs : ssid.length ≤ 32 := by
    have := congrArg List.length hsta
    rw [Vector.length_toList, List.length_append] at this
    omega
  have hpass : password.length ≤ 64 := by
    have := congrArg List.length hpsk
    rw [Vector.length_toList, List.length_append] at this
    omega
  rw [makeWifiEnable, if_pos (by omega)] at hp
  cases hp
  rw [writeEvt_wifiPacket (by omega)] at hcalls
  cases hcalls
  exact ⟨(field_copy_copy_iff _ _ (by decide) hssid).mp hsta,
    (field_copy_copy_iff _ _ (by decide) hpassword).mp hpsk⟩

/-- **The credentials arrive exactly when both leave room for a NUL** in the fields of
the configuration. -/
theorem credentialsArrive_iff {ssid password : List UInt8} (hssid : 0 ∉ ssid)
    (hpassword : 0 ∉ password) :
    CredentialsArrive ssid password ↔ ssid.length < 32 ∧ password.length < 64 := by
  constructor
  · intro h
    exact h.fits hssid hpassword
  · rintro ⟨hs, hp⟩
    refine ⟨wifiPacket ssid password, by rw [makeWifiEnable, if_pos (by omega)], ?_⟩
    intro build s beyond out
    refine ⟨_, by rw [writeEvt_wifiPacket (by omega)]; rfl, ?_, ?_⟩
    · exact (field_copy_copy_iff (m := 33) _ _ (by decide) hssid).mpr hs
    · exact (field_copy_copy_iff (m := 65) _ _ (by decide) hpassword).mpr hp

/-- The node "home" with the password "pw". -/
theorem credentialsArrive_iff_home :
    CredentialsArrive [0x68, 0x6F, 0x6D, 0x65] [0x70, 0x77] ↔
      ([0x68, 0x6F, 0x6D, 0x65] : List UInt8).length < 32 ∧
        ([0x70, 0x77] : List UInt8).length < 64 :=
  credentialsArrive_iff (by decide) (by decide)

/-- A network name of 32 bytes loses its last one. -/
theorem longName_not_arrives : ¬ CredentialsArrive (List.replicate 32 0x61) [] := fun h =>
  absurd (h.fits (by decide) (by decide)).1 (by decide)

end Klippylink
