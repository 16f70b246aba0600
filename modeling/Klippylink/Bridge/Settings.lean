import Klippylink.Bridge.Payloads
import Klippylink.Klipper.Runs
import Klippylink.Lib.Selection

/-!
# Settings of a heater, and the host's frames

`SET_HEATER_TEMPERATURE` becomes a request of the extension and a frame of the host.  The request
may fail, and other clients of the host may do anything but set heaters, as long as what they send
is legal; what the host puts on the line are whole packets, and those that set a heater carry what
was asked for.

## Main definitions

* `Setting` — what a HEATER_SET carries.
* `KlipPacket.Proper`, `Frame.Proper` — what is on the line.
* `KlipperEvent.Beside` — what others may do.
* `frames_step` — the frames of an event.
-/

namespace Klippylink

open Lib

variable {F : Type}

/-! ## Settings -/

/-- What a HEATER_SET carries, each value as the four bytes of its `float`. -/
structure Setting where
  target : UInt32
  kp : UInt32
  ki : UInt32
  kd : UInt32

namespace Setting

/-- Its packet. -/
def packet (s : Setting) : KlipPacket := heaterSetPacket s.target s.kp s.ki s.kd

/-- What the node does for it. -/
def calls (s : Setting) : List NodeCall :=
  [.heaterSetTarget s.target, .heaterSetPid s.kp s.ki s.kd]

/-- It was packed from the order. -/
structure Of (floats : PyFloat F) (s : Setting) (order : HeaterBody F) : Prop where
  target : floats.bits order.targetTemp = some s.target
  kp : floats.bits order.kp = some s.kp
  ki : floats.bits order.ki = some s.ki
  kd : floats.bits order.kd = some s.kd

end Setting

/-- The setting in a packet. -/
def KlipPacket.setting (p : KlipPacket) : Option Setting :=
  let w := p.written fun _ => 0
  if p.command = KlipCommand.heaterSet.code then
    some ⟨w.word 4, w.word 8, w.word 12, w.word 16⟩
  else none

/-- The setting in a frame. -/
def Frame.setting (f : Frame) : Option Setting := f.packet.setting

/-- A packet that the parser can take, and whose setting is whole. -/
structure KlipPacket.Proper (p : KlipPacket) : Prop where
  legal : p.payload.length ≤ klipMaxPayloadSize
  whole : p.command = KlipCommand.heaterSet.code → ∃ s : Setting, p = s.packet

/-- Settings are for one node. -/
structure Frame.Proper (f : Frame) : Prop where
  packet : f.packet.Proper
  single : f.packet.command = KlipCommand.heaterSet.code → f.nodeId ≠ 0xFF

@[simp] theorem Setting.setting_packet (s : Setting) : s.packet.setting = some s := by
  have htarget : (s.packet.written fun _ => 0).word 4 = s.target :=
    word_written _ [] (le32 s.kp ++ (le32 s.ki ++ le32 s.kd)) rfl
  have hkp : (s.packet.written fun _ => 0).word 8 = s.kp :=
    word_written _ (le32 s.target) (le32 s.ki ++ le32 s.kd) rfl
  have hki : (s.packet.written fun _ => 0).word 12 = s.ki :=
    word_written _ (le32 s.target ++ le32 s.kp) (le32 s.kd) (by simp [packet, heaterSetPacket])
  have hkd : (s.packet.written fun _ => 0).word 16 = s.kd :=
    word_written _ (le32 s.target ++ (le32 s.kp ++ le32 s.ki)) []
      (by simp [packet, heaterSetPacket])
  have hcommand : s.packet.command = KlipCommand.heaterSet.code := rfl
  simp only [KlipPacket.setting, hcommand, if_true, htarget, hkp, hki, hkd]

theorem Setting.proper_packet (s : Setting) : s.packet.Proper :=
  ⟨by simp [packet, heaterSetPacket, klipMaxPayloadSize], fun _ => ⟨s, rfl⟩⟩

theorem KlipPacket.setting_of_ne {p : KlipPacket} (h : p.command ≠ KlipCommand.heaterSet.code) :
    p.setting = none := if_neg h

theorem KlipPacket.Proper.decode_bytes {p : KlipPacket} (hp : p.Proper) :
    KlipPacket.decode p.bytes = some p := by
  have hlen : p.payload.length ≤ 255 := Nat.le_trans hp.legal (by decide)
  have hdecode := KlipPacket.decode_klipPacket p.command p.payload [] hlen
  rw [List.append_nil] at hdecode
  exact hdecode

theorem settings_cons (f : Frame) (fs : List Frame) :
    (f :: fs).filterMap Frame.setting = f.packet.setting.toList ++ fs.filterMap Frame.setting := by
  rw [List.filterMap_cons, Frame.setting]
  cases f.packet.setting <;> rfl

/-! ## The frames of the host -/

/-- What others may do: other clients and modules of the host set no heater, and send no payload
that is longer than a packet holds; and no node has the id of a broadcast. -/
def KlipperEvent.Beside : KlipperEvent F → Prop
  | .host (.packet f _) => f.nodeId ≠ 0xFF
  | .host (.send _ pkt) =>
      pkt.command ≠ KlipCommand.heaterSet.code ∧ pkt.payload.length ≤ klipMaxPayloadSize
  | .host (.call _ (.setHeater _ _)) => False
  | .host (.call _ (.enableWifi _ ssid password)) =>
      (wifiPacket ssid.toUTF8.toList password.toUTF8.toList).payload.length ≤ klipMaxPayloadSize
  | _ => True

/-- The server has sent nothing more, or a packet that sets no heater. -/
def SendsOther (s s' : ApiServer) : Prop :=
  s'.sent = s.sent ∨ ∃ f : Frame, f.packet.command ≠ KlipCommand.heaterSet.code ∧
    f.packet.payload.length ≤ klipMaxPayloadSize ∧ s'.sent = s.sent ++ [f.bytes]

/-- The packet of another client is legal, and sets no heater. -/
theorem packet_of_beside {packFloat : F → Option UInt32} {writes : Bool} {c : ApiCall F}
    (hc : KlipperEvent.Beside (.host (.call writes c))) {name : String} {k : Handler}
    (hk : c.handler packFloat = some (name, k)) {pkt : KlipPacket} (hpkt : k.packet = .ok pkt) :
    pkt.command ≠ KlipCommand.heaterSet.code ∧ pkt.payload.length ≤ klipMaxPayloadSize := by
  have hcode : ∀ c : KlipCommand, c ≠ .heaterSet → c.code ≠ KlipCommand.heaterSet.code :=
    fun c hne heq => hne (KlipCommand.code_inj.mp heq)
  cases c with
  | setLedZone name body =>
      cases hk
      obtain ⟨zoneId, c, -, rfl⟩ := packet_setLedZone_ok hpkt
      exact ⟨hcode .ledZoneSet (by decide), (by decide : 13 ≤ klipMaxPayloadSize)⟩
  | clearLedZone name zoneId =>
      cases hk
      obtain ⟨id, -, rfl⟩ := packet_clearLedZone_ok hpkt
      exact ⟨hcode .ledZoneClr (by decide), (by decide : 1 ≤ klipMaxPayloadSize)⟩
  | setRadio name body =>
      cases hk
      obtain ⟨power, channel, interval, -, -, -, rfl⟩ :=
        makeRadioSet_eq_some.mp (orRaise_eq_ok.mp hpkt)
      exact ⟨hcode .radioSet (by decide), by simp [radioSetPacket, le16, klipMaxPayloadSize]⟩
  | enableWifi name ssid password =>
      cases hk
      have hwifi := orRaise_eq_ok.mp hpkt
      rw [makeWifiEnable] at hwifi
      split at hwifi
      · cases hwifi
        exact ⟨hcode .wifiEnable (by decide), hc⟩
      · cases hwifi
  | setHeater name body => exact hc.elim
  | getInfo | listNodes | nodeStatus _ | listLedZones _ | getRadio _ => cases hk

/-- **A request of another client** sends at most one packet, which sets no heater. -/
theorem sendsOther_call (packFloat : F → Option UInt32) (s : ApiServer) (writes : Bool)
    {c : ApiCall F} (hc : KlipperEvent.Beside (.host (.call writes c))) :
    SendsOther s (s.call writes packFloat c).2 := by
  refine keeps_call (P := SendsOther s) (.inl rfl) fun name k answer hk => ?_
  refine keeps_perform (P := SendsOther s) (.inl rfl) (fun node _ => .inl (sent_assign s _ _))
    fun node pkt bytes _ hpkt hsend => .inr ?_
  obtain ⟨hcommand, hlegal⟩ := packet_of_beside hc hk hpkt
  refine ⟨⟨node.nodeId, pkt⟩, hcommand, hlegal, ?_⟩
  rw [sent_assign, ApiHost.sendPacket_ok hsend (length_of_sendPacket hsend), sent_assign]

/-- Only a packet with its id makes a node known. -/
theorem DeviceManager.get_onPacket_none (loads : List UInt8 → Option PyValue) (now : ℕ)
    {m : DeviceManager} {f : Frame} {i : UInt8} (hf : f.nodeId ≠ i) (h : m.get i = none) :
    (m.onPacket loads now f).get i = none := by
  have hupdate : ∀ (g : NodeInfo → NodeInfo) (hg : ∀ n, (g n).nodeId = n.nodeId),
      (m.update f.nodeId g hg).get i = none := by
    intro g hg
    rw [get_update, if_neg (Ne.symm hf), h]
  rw [onPacket]
  split
  · split
    · rw [get_insert, if_neg (Ne.symm hf), h]
    · exact hupdate _ _
  · split
    · exact hupdate _ _
    · split
      · split
        · exact h
        · exact hupdate _ _
      · exact hupdate _ _

section Frames

variable {http : Http F} {floats : PyFloat F} {loads : List UInt8 → Option PyValue}
  {w w' : KlipperWorld F} {e : KlipperEvent F}

theorem ids_step (hhttp : http.Lawful) (hbeside : e.Beside)
    (hids : w.server.manager.get 0xFF = none) (hstep : klipper http floats loads w e = some w') :
    w'.server.manager.get 0xFF = none := by
  rcases manager_step hhttp hstep with hsame | ⟨f, now, rfl, hpacket⟩
  · rw [hsame]
    exact hids
  · rw [hpacket]
    exact DeviceManager.get_onPacket_none loads now hbeside hids

/-- A frame that sets no heater. -/
theorem Frame.proper_of_ne {f : Frame} (hcommand : f.packet.command ≠ KlipCommand.heaterSet.code)
    (hlegal : f.packet.payload.length ≤ klipMaxPayloadSize) : f.Proper :=
  ⟨⟨hlegal, fun h => absurd h hcommand⟩, fun h => absurd h hcommand⟩

/-- What the host has sent since, if anything: settings are packed from what was asked for. -/
def SendsSettings (floats : PyFloat F) (s s' : ApiServer) (order : Option (HeaterBody F)) : Prop :=
  ∃ frames : List Frame, s'.sent = s.sent ++ frames.map Frame.bytes ∧ (∀ f ∈ frames, f.Proper) ∧
    List.SublistForall₂ (Setting.Of floats) (frames.filterMap Frame.setting) order.toList

theorem SendsSettings.nothing {s s' : ApiServer} (order : Option (HeaterBody F))
    (h : s'.sent = s.sent) : SendsSettings floats s s' order :=
  ⟨[], by rw [h, List.map_nil, List.append_nil], (fun f hf => by cases hf), .nil⟩

theorem SendsOther.settings {s s' : ApiServer} (h : SendsOther s s')
    (order : Option (HeaterBody F)) : SendsSettings floats s s' order := by
  rcases h with hsame | ⟨f, hcommand, hlegal, hsent⟩
  · exact .nothing order hsame
  · refine ⟨[f], hsent, fun g hg => ?_, ?_⟩
    · rw [List.mem_singleton.mp hg]
      exact Frame.proper_of_ne hcommand hlegal
    · rw [settings_cons, KlipPacket.setting_of_ne hcommand]
      exact .nil

/-- **The frames of an event**: those that set a heater carry out what the event asks for. -/
theorem frames_step (hhttp : http.Lawful) (hbeside : e.Beside)
    (hids : w.server.manager.get 0xFF = none) (hstep : klipper http floats loads w e = some w') :
    SendsSettings floats w.server w'.server (request floats w.printer.orders e) := by
  obtain ⟨-, ⟨se, rfl, hserver⟩ | hsame | ⟨order, horder, pkt, hpkt, n, hknown, hsends⟩⟩ :=
    klipper_step hhttp hstep
  · cases se with
    | call writes c =>
        rw [← Option.some.inj hserver]
        exact (sendsOther_call floats.bits w.server writes hbeside).settings _
    | packet f now =>
        rw [← Option.some.inj hserver]
        exact .nothing _ rfl
    | send nodeId pkt =>
        rw [apiServer] at hserver
        split at hserver
        · cases hserver
        · split at hserver
          · cases hserver
          · next bytes hsend =>
              refine SendsOther.settings (.inr ⟨⟨nodeId, pkt⟩, hbeside.1, hbeside.2, ?_⟩) _
              rw [← Option.some.inj hserver,
                ApiHost.sendPacket_ok hsend (length_of_sendPacket hsend)]
    | port isOpen =>
        rw [← Option.some.inj hserver]
        exact .nothing _ rfl
  · exact .nothing _ (congrArg ApiServer.sent hsame)
  · obtain ⟨target, p, i, d, htarget, hp, hi, hd, rfl⟩ := makeHeaterSet_eq_some hpkt
    let setting : Setting := ⟨target, p, i, d⟩
    refine ⟨[⟨n, setting.packet⟩], by rw [hsends]; rfl, fun f hf => ?_, ?_⟩
    · rw [List.mem_singleton.mp hf]
      refine ⟨setting.proper_packet, fun _ hn => hknown ?_⟩
      have hn : n = 0xFF := hn
      rw [hn]
      exact hids
    · rw [settings_cons, setting.setting_packet, Option.mem_def.mp horder]
      exact .cons ⟨htarget, hp, hi, hd⟩ .nil

end Frames

end Klippylink
