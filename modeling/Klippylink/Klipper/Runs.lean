import Klippylink.Bridge.DeviceInfo
import Klippylink.Klipper.Requests

/-!
# The printer and the host at work

Runs of the extension with everything that the host does beside it.  There is no route for the
state of an endstop and none for the colour of a strip: no run ever reports a trigger, and every
SET_KLIPPYLINK_LED may be left out of one.  What a heater reports is in the device info of a
node or nowhere, and what it sends was asked for.

## Main definitions

* `endstops_stay_open` — what is reported of an endstop.
* `run_without_setLed` — a run without the commands that set a colour.
* `requested`, `heater_frames_requested` — what heaters ask for, and what is sent.
* `Reads`, `temperature_not_reported` — what a heater reports.
-/

namespace Klippylink

open Lib

variable {F : Type} {http : Http F} {floats : PyFloat F} {loads : List UInt8 → Option PyValue}
  {w w' : KlipperWorld F} {es : List (KlipperEvent F)}

/-! ## Endstops -/

/-- One object of several is replaced. -/
theorem forall_update {α : Type} {objects : String → Option α} {P : α → Prop}
    (h : ∀ name a, objects name = some a → P a) {name : String} {a : α} (ha : P a) :
    ∀ name' a', Function.update objects name (some a) name' = some a' → P a' := by
  intro name' a' ha'
  rw [Function.update_apply] at ha'
  split at ha'
  · cases ha'
    exact ha
  · exact h name' a' ha'

/-- No endstop is triggered. -/
def Printer.Open (p : Printer F) : Prop :=
  ∀ name e, p.endstops name = some e → e.triggered = .bool false

/-- One event more. -/
theorem open_step (hhttp : http.Lawful) {e : KlipperEvent F} (hw : w.printer.Open)
    (hstep : klipper http floats loads w e = some w') : w'.printer.Open := by
  cases e with
  | pollEndstop name reach =>
      obtain ⟨polled, hpolled, rfl⟩ := Option.map_eq_some_iff.mp hstep
      exact forall_update hw
        (poll_triggered floats w.server reach hhttp w.printer polled (hw _ _ hpolled))
  | connectHeater name reach =>
      obtain ⟨heater, -, hstep⟩ := Option.bind_eq_some_iff.mp hstep
      split at hstep
      · cases hstep
        exact hw
      · cases hstep
  | _ =>
      obtain ⟨_, -, rfl⟩ := Option.map_eq_some_iff.mp hstep
      exact hw

theorem cmdQuery_of_not_triggered {p : Printer F} {self : String} {endstop : KlippylinkEndstop}
    {name : Option String} {obj : KlippylinkEndstop}
    (hobj : (p.endstops (name.getD self)).getD endstop = obj)
    (h : obj.triggered = .bool false) :
    p.cmdQueryKlippylinkEndstop self endstop name =
      "KlippyLink endstop '" ++ obj.endstopName ++ "' on '" ++ obj.nodeName ++ "': " ++ "open" := by
  have hopen : obj.triggered.truthy = false := by
    rw [h]
    rfl
  unfold Printer.cmdQueryKlippylinkEndstop
  simp only [hobj]
  rw [hopen, if_neg Bool.false_ne_true]

/-- **No endstop is ever reported as triggered.**  Whatever the nodes send and whatever is
asked of the host, every status and every answer to QUERY_KLIPPYLINK_ENDSTOP says that the
endstop is open. -/
theorem endstops_stay_open (hhttp : http.Lawful) (hfresh : w.printer.Fresh)
    (hrun : System.run (klipper http floats loads) w es = some w') {self : String}
    {endstop : KlippylinkEndstop} (hself : w'.printer.endstops self = some endstop) :
    endstop.getStatus = .dict [("triggered", .bool false), ("node", .str endstop.nodeName),
      ("endstop", .str endstop.endstopName)] ∧
      ∀ name : Option String, ∃ obj : KlippylinkEndstop,
        obj = (w'.printer.endstops (name.getD self)).getD endstop ∧
        w'.printer.cmdQueryKlippylinkEndstop self endstop name =
          "KlippyLink endstop '" ++ obj.endstopName ++ "' on '" ++ obj.nodeName ++ "': " ++
            "open" := by
  have hopen : w'.printer.Open :=
    System.run_induction (fun w => w.printer.Open) (fun _ _ _ => open_step hhttp) es w w'
      hfresh.1 hrun
  refine ⟨by rw [KlippylinkEndstop.getStatus, hopen self endstop hself], fun name => ⟨_, rfl, ?_⟩⟩
  have hobj : ((w'.printer.endstops (name.getD self)).getD endstop).triggered = .bool false := by
    cases hget : w'.printer.endstops (name.getD self) with
    | none => exact hopen self endstop hself
    | some obj => exact hopen _ obj hget
  exact cmdQuery_of_not_triggered rfl hobj

theorem endstops_stay_open_xMin :
    ∃ w' endstop, System.run (klipper plainHttp bitFloat fun _ => none)
        ⟨onePrinter, ApiServer.start⟩ (nodeThere ++ [.pollEndstop "x_min" ⟨true, true, true⟩]) =
          some w' ∧
      w'.printer.endstops "x_min" = some endstop ∧
      endstop.getStatus = .dict [("triggered", .bool false), ("node", .str endstop.nodeName),
        ("endstop", .str endstop.endstopName)] :=
  ⟨_, _, rfl, rfl, (@endstops_stay_open UInt32 plainHttp bitFloat (fun _ => none)
    ⟨onePrinter, ApiServer.start⟩ _ (nodeThere ++ [.pollEndstop "x_min" ⟨true, true, true⟩])
    lawful_plainHttp fresh_onePrinter rfl "x_min" _ rfl).1⟩

/-! ## Strips -/

/-- The event is a SET_KLIPPYLINK_LED. -/
def KlipperEvent.isSetLed : KlipperEvent F → Bool
  | .setLed .. => true
  | _ => false

/-- **A run without SET_KLIPPYLINK_LED.**  Leaving every such command out of a run changes
neither what the printer has nor what the host has and has sent. -/
theorem run_without_setLed (hhttp : http.Lawful)
    (hrun : System.run (klipper http floats loads) w es = some w') :
    System.run (klipper http floats loads) w (es.filter fun e => !e.isSetLed) = some w' := by
  refine System.run_filter ?_ hrun
  intro w e w' hkeep hstep
  cases e with
  | setLed self strip red green blue index reach =>
      obtain ⟨neopixel, -, rfl⟩ := Option.map_eq_some_iff.mp hstep
      simp only [Printer.cmdSetKlippylinkLed, setNeopixel_eq floats w.server reach hhttp]
      split
      · split <;> rfl
      · rfl
  | _ => simp [KlipperEvent.isSetLed] at hkeep

theorem run_without_setLed_leds :
    ∃ w', System.run (klipper plainHttp bitFloat fun _ => none) ⟨onePrinter, ApiServer.start⟩
      nodeThere = some w' := by
  have hrun : ∃ w', System.run (klipper plainHttp bitFloat fun _ => none)
      ⟨onePrinter, ApiServer.start⟩
      (nodeThere ++ [.setLed "leds" none 0 255 0 (-1) ⟨true, true, true⟩]) = some w' := ⟨_, rfl⟩
  obtain ⟨w', hrun⟩ := hrun
  exact ⟨w', run_without_setLed lawful_plainHttp hrun⟩

/-! ## What heaters send -/

/-- The temperature and the gains of every heater. -/
def Printer.orders (p : Printer F) (name : String) : Option (HeaterBody F) :=
  (p.heaters name).map fun h => ⟨h.targetTemp, h.kp, h.ki, h.kd⟩

/-- What an event asks the host for. -/
def request (floats : PyFloat F) (orders : String → Option (HeaterBody F)) :
    KlipperEvent F → Option (HeaterBody F)
  | .setTemp name degrees _ => (orders name).map fun order => { order with targetTemp := degrees }
  | .connectHeater name _ => (orders name).filter fun order => floats.positive order.targetTemp
  | _ => none

/-- The temperatures after an event. -/
def ordered (orders : String → Option (HeaterBody F)) :
    KlipperEvent F → String → Option (HeaterBody F)
  | .setTemp name degrees _ =>
      Function.update orders name ((orders name).map fun order =>
        { order with targetTemp := degrees })
  | _ => orders

/-- Nobody but the printer asks anything of the host.  Its other modules then send nothing either:
an upload takes a client, and the heartbeat monitor sends to nodes with an active heater, which
nothing makes one by `set_heater_active`. -/
def KlipperEvent.Quiet : KlipperEvent F → Prop
  | .host (.packet _ _) | .host (.port _) => True
  | .host _ => False
  | _ => True

/-- The temperatures are those of the printer with one heater replaced. -/
theorem orders_update (p : Printer F) (name : String) (h : KlippylinkHeater F) :
    ({ p with heaters := Function.update p.heaters name (some h) } : Printer F).orders =
      Function.update p.orders name (some ⟨h.targetTemp, h.kp, h.ki, h.kd⟩) := by
  funext name'
  simp only [Printer.orders, Function.update_apply]
  split <;> rfl

variable (floats) in
/-- A poll keeps what was asked for. -/
theorem pollStatus_keeps (hhttp : http.Lawful) (s : ApiServer) (reach : Reach) (p : Printer F)
    (h : KlippylinkHeater F) :
    (h.pollStatus http floats reach p s).2 = s ∧
      ∃ temp duty,
        (h.pollStatus http floats reach p s).1 = { h with temp := temp, duty := duty } := by
  have hget := get_answer floats s reach hhttp ("/api/nodes/" ++ h.nodeName ++ "/status")
  rw [KlippylinkHeater.pollStatus]
  split
  · dsimp only
    split
    · exact ⟨hget.1, _, _, rfl⟩
    · exact ⟨hget.1, h.temp, h.duty, rfl⟩
  · exact ⟨rfl, h.temp, h.duty, rfl⟩

/-- What an event of the printer does to the host: nothing, or it sends what was asked for. -/
def Posts (floats : PyFloat F) (s s' : ApiServer) (order : Option (HeaterBody F)) : Prop :=
  s' = s ∨ ∃ body ∈ order, ∃ pkt,
    makeHeaterSet floats.bits body.targetTemp body.kp body.ki body.kd = some pkt ∧
      SendsFrame s s' pkt

/-- One event: the temperatures that it leaves, and what it does to the host. -/
theorem klipper_step (hhttp : http.Lawful) {e : KlipperEvent F}
    (hstep : klipper http floats loads w e = some w') :
    w'.printer.orders = ordered w.printer.orders e ∧
      ((∃ se, e = .host se ∧ apiServer floats.bits loads w.server se = some w'.server) ∨
        Posts floats w.server w'.server (request floats w.printer.orders e)) := by
  have hpost : ∀ (reach : Reach) (node : String) (body : HeaterBody F) (order : Option _),
      body ∈ order → Posts floats w.server
        (w.server.postHeater http floats reach node body.targetTemp body.kp body.ki body.kd)
        order := by
    intro reach node body order hbody
    rcases postHeater_sends floats w.server reach hhttp node body.targetTemp body.kp body.ki
      body.kd with hsame | hsends
    · exact .inl hsame
    · exact .inr ⟨body, hbody, hsends⟩
  cases e with
  | setLed self strip red green blue index reach =>
      obtain ⟨neopixel, -, rfl⟩ := Option.map_eq_some_iff.mp hstep
      simp only [Printer.cmdSetKlippylinkLed, setNeopixel_eq floats w.server reach hhttp]
      refine ⟨rfl, .inr (.inl ?_)⟩
      split
      · split <;> rfl
      · rfl
  | pollEndstop name reach =>
      obtain ⟨polled, hpolled, rfl⟩ := Option.map_eq_some_iff.mp hstep
      exact ⟨rfl, .inr (.inl (poll_server floats w.server reach hhttp _ polled))⟩
  | connectHeater name reach =>
      obtain ⟨heater, hheater, hstep⟩ := Option.bind_eq_some_iff.mp hstep
      split at hstep
      · cases hstep
        refine ⟨rfl, .inr ?_⟩
        simp only [KlippylinkHeater.handleConnect]
        split
        · next hpositive =>
            refine hpost reach heater.nodeName
              ⟨heater.targetTemp, heater.kp, heater.ki, heater.kd⟩ _ ?_
            simp [request, Printer.orders, hheater, hpositive]
        · exact .inl rfl
      · cases hstep
  | pollHeater name reach =>
      obtain ⟨heater, hheater, rfl⟩ := Option.map_eq_some_iff.mp hstep
      obtain ⟨hserver, temp, duty, hpolled⟩ :=
        pollStatus_keeps floats hhttp w.server reach w.printer heater
      refine ⟨?_, .inr (.inl hserver)⟩
      simp only [hpolled, orders_update, ordered]
      have hsame : w.printer.orders name =
          some ⟨heater.targetTemp, heater.kp, heater.ki, heater.kd⟩ := by
        rw [Printer.orders, hheater]
        rfl
      rw [← hsame, Function.update_eq_self]
  | setTemp name degrees reach =>
      obtain ⟨heater, hheater, rfl⟩ := Option.map_eq_some_iff.mp hstep
      have horder : (w.printer.orders name).map
          (fun order => ({ order with targetTemp := degrees } : HeaterBody F)) =
            some ⟨degrees, heater.kp, heater.ki, heater.kd⟩ := by
        rw [Printer.orders, hheater]
        rfl
      refine ⟨by simp only [KlippylinkHeater.setTemp, orders_update, ordered, horder],
        .inr ?_⟩
      simp only [KlippylinkHeater.setTemp]
      split
      · exact hpost reach heater.nodeName ⟨degrees, heater.kp, heater.ki, heater.kd⟩ _ horder
      · exact .inl rfl
  | host e =>
      obtain ⟨server, hserver, rfl⟩ := Option.map_eq_some_iff.mp hstep
      exact ⟨rfl, .inl ⟨e, rfl, hserver⟩⟩

/-- The device info of some node, among the events, has the value under the key. -/
def Reads (loads : List UInt8 → Option PyValue) (es : List (KlipperEvent F)) (key : String)
    (v : PyValue) : Prop :=
  ∃ f now items, .host (.packet f now) ∈ es ∧ f.packet.command = KlipCommand.deviceInfoResp.code ∧
    loads f.packet.payload = some (.dict items) ∧ (key, v) ∈ items

/-- What is known of a node is nothing, or the device info of some node. -/
def KnownFrom (loads : List UInt8 → Option PyValue) (es : List (KlipperEvent F))
    (node : NodeInfo) : Prop :=
  node.capabilities = .dict [] ∨ ∃ f now, .host (.packet f now) ∈ es ∧
    f.packet.command = KlipCommand.deviceInfoResp.code ∧
      loads f.packet.payload = some node.capabilities

/-- What is reported is what there was at first, or was in a device info. -/
structure ReportedFrom (loads : List UInt8 → Option PyValue) (es : List (KlipperEvent F))
    (w : KlipperWorld F) : Prop where
  nodes : ∀ node ∈ w.server.manager.nodes, KnownFrom loads es node
  temp : ∀ name h, w.printer.heaters name = some h →
    h.temp = .float "0.0" ∨ Reads loads es "temp_current" h.temp
  duty : ∀ name h, w.printer.heaters name = some h →
    h.duty = .int 0 ∨ Reads loads es "duty" h.duty

/-- What a status has under a key is in a device info, or the default. -/
theorem reads_of_get {node : NodeInfo} (hnode : KnownFrom loads es node) {key : String}
    {d v : PyValue} (hget : node.capabilities.get key d = some v) :
    v = d ∨ Reads loads es key v := by
  rcases PyValue.get_eq_some hget with hdefault | ⟨items, hitems, hmem⟩
  · exact .inl hdefault
  · rcases hnode with hempty | ⟨f, now, hevent, hcommand, hloads⟩
    · rw [hempty] at hitems
      cases hitems
      cases hmem
    · exact .inr ⟨f, now, items, hevent, hcommand, by rw [hloads, hitems], hmem⟩

/-- The keys of a device info. -/
theorem keys_deviceInfo {cfg : DeviceCfg} {items : List (String × PyValue)}
    (h : (deviceInfo cfg).py = some (.dict items)) :
    items.map Prod.fst = ["name", "role", "neopixels", "endstops"] := by
  have hmembers : ∀ (ms : List (String × Json)) (vs : List (String × PyValue)),
      Json.pyMembers ms = some vs → vs.map Prod.fst = ms.map Prod.fst := by
    intro ms
    induction ms with
    | nil =>
        intro vs hvs
        cases hvs
        rfl
    | cons m ms ih =>
        intro vs hvs
        obtain ⟨v, -, hvs⟩ := Option.bind_eq_some_iff.mp hvs
        obtain ⟨rest, hrest, rfl⟩ := Option.map_eq_some_iff.mp hvs
        rw [List.map_cons, List.map_cons, ih rest hrest]
  rw [deviceInfo, Json.py] at h
  obtain ⟨items', hitems, heq⟩ := Option.map_eq_some_iff.mp h
  cases heq
  rw [hmembers _ _ hitems]
  rfl

variable (floats) in
/-- A poll of a heater. -/
theorem pollStatus_reads (hhttp : http.Lawful) (s : ApiServer) (reach : Reach) (p : Printer F)
    (h : KlippylinkHeater F) (hnodes : ∀ node ∈ s.manager.nodes, KnownFrom loads es node) :
    ((h.pollStatus http floats reach p s).1.temp = h.temp ∨
      Reads loads es "temp_current" (h.pollStatus http floats reach p s).1.temp) ∧
    ((h.pollStatus http floats reach p s).1.duty = h.duty ∨
      Reads loads es "duty" (h.pollStatus http floats reach p s).1.duty) := by
  have hget := get_answer floats s reach hhttp ("/api/nodes/" ++ h.nodeName ++ "/status")
  -- what `caps` can be
  have hcaps : ∀ caps, ((s.urlopen http floats reach
      (.get ("/api/nodes/" ++ h.nodeName ++ "/status"))).1.bind
        fun data => data.get "capabilities" (.dict [])) = some caps →
      ∀ key d v, caps.get key d = some v → v = d ∨ Reads loads es key v := by
    intro caps hcaps key d v hv
    obtain ⟨data, hdata, hcaps⟩ := Option.bind_eq_some_iff.mp hcaps
    rcases (hget.2 data hdata).2 with hno | ⟨node, hnode, hstatus⟩
    · rw [PyValue.get_of_not_hasKey hno hcaps] at hv
      cases hv
      exact .inl rfl
    · rw [hstatus] at hcaps
      cases hcaps
      exact reads_of_get (hnodes node hnode) hv
  rw [KlippylinkHeater.pollStatus]
  split
  · dsimp only
    split
    · next temp duty htemp hduty =>
        obtain ⟨caps, hsome, htemp⟩ := Option.bind_eq_some_iff.mp htemp
        obtain ⟨caps', hsome', hduty⟩ := Option.bind_eq_some_iff.mp hduty
        exact ⟨hcaps caps hsome _ _ _ htemp, hcaps caps' hsome' _ _ _ hduty⟩
    · exact ⟨.inl rfl, .inl rfl⟩
  · exact ⟨.inl rfl, .inl rfl⟩

/-- Only a packet of a node changes the table of nodes. -/
theorem manager_step (hhttp : http.Lawful) {e : KlipperEvent F}
    (hstep : klipper http floats loads w e = some w') :
    w'.server.manager = w.server.manager ∨
      ∃ f now, e = .host (.packet f now) ∧
        w'.server.manager = w.server.manager.onPacket loads now f := by
  obtain ⟨-, ⟨se, rfl, hserver⟩ | hsame | ⟨_, -, _, -, _, -, hsends⟩⟩ :=
    klipper_step hhttp hstep
  · cases se with
    | call writes c =>
        rw [← Option.some.inj hserver]
        exact .inl (call_manager floats.bits w.server writes c)
    | packet f now =>
        rw [← Option.some.inj hserver]
        exact .inr ⟨f, now, rfl, rfl⟩
    | send nodeId pkt =>
        left
        rw [apiServer] at hserver
        split at hserver
        · cases hserver
        · split at hserver
          · cases hserver
          · rw [← Option.some.inj hserver]
    | port isOpen =>
        rw [← Option.some.inj hserver]
        exact .inl rfl
  · exact .inl (congrArg ApiServer.manager hsame)
  · exact .inl (by rw [hsends])

/-- One event, among those that there are. -/
theorem reportedFrom_step (hhttp : http.Lawful) {e : KlipperEvent F} (he : e ∈ es)
    (hw : ReportedFrom loads es w) (hstep : klipper http floats loads w e = some w') :
    ReportedFrom loads es w' := by
  have hnodes : ∀ node ∈ w'.server.manager.nodes, KnownFrom loads es node := by
    rcases manager_step hhttp hstep with hsame | ⟨f, now, rfl, hpacket⟩
    · rw [hsame]
      exact hw.nodes
    · intro node hnode
      rw [hpacket] at hnode
      rcases capabilities_onPacket loads now w.server.manager f hnode with
        ⟨before, hbefore, hsame⟩ | hempty | ⟨hcommand, hloads⟩
      · rw [KnownFrom, hsame]
        exact hw.nodes before hbefore
      · exact .inl hempty
      · exact .inr ⟨f, now, he, hcommand, hloads⟩
  cases e with
  | pollHeater name reach =>
      obtain ⟨heater, hheater, rfl⟩ := Option.map_eq_some_iff.mp hstep
      have hpoll := pollStatus_reads floats hhttp w.server reach w.printer heater hw.nodes
      refine ⟨hnodes, forall_update hw.temp ?_, forall_update hw.duty ?_⟩
      · rcases hpoll.1 with hsame | hread
        · rw [hsame]
          exact hw.temp name heater hheater
        · exact .inr hread
      · rcases hpoll.2 with hsame | hread
        · rw [hsame]
          exact hw.duty name heater hheater
        · exact .inr hread
  | setTemp name degrees reach =>
      obtain ⟨heater, hheater, rfl⟩ := Option.map_eq_some_iff.mp hstep
      exact ⟨hnodes, forall_update hw.temp (hw.temp name heater hheater),
        forall_update hw.duty (hw.duty name heater hheater)⟩
  | connectHeater name reach =>
      obtain ⟨heater, -, hstep⟩ := Option.bind_eq_some_iff.mp hstep
      split at hstep
      · cases hstep
        exact ⟨hnodes, hw.temp, hw.duty⟩
      · cases hstep
  | _ =>
      obtain ⟨_, -, rfl⟩ := Option.map_eq_some_iff.mp hstep
      exact ⟨hnodes, hw.temp, hw.duty⟩

/-- **The temperature and the duty of a heater do not reach the printer.**  Where every device
info is one that the firmware makes of a configuration, a heater of the extension reports what
it started with, in every run. -/
theorem temperature_not_reported (hhttp : http.Lawful) (hfresh : w.printer.Fresh)
    (hnodes : w.server.manager = DeviceManager.start)
    (hinfo : ∀ f now, .host (.packet f now) ∈ es →
      f.packet.command = KlipCommand.deviceInfoResp.code →
        ∃ cfg, loads f.packet.payload = (deviceInfo cfg).py)
    (hrun : System.run (klipper http floats loads) w es = some w') {name : String}
    {h : KlippylinkHeater F} (hh : w'.printer.heaters name = some h) :
    h.temp = .float "0.0" ∧ h.duty = .int 0 := by
  have hstart : ReportedFrom loads es w :=
    ⟨by rw [hnodes]; exact fun _ hnode => (nomatch hnode),
      fun name h hh => .inl (hfresh.2 name h hh).1, fun name h hh => .inl (hfresh.2 name h hh).2⟩
  have hreported : ReportedFrom loads es w' :=
    System.run_induction_mem (ReportedFrom loads es)
      (fun _ _ _ he hw => reportedFrom_step hhttp he hw) hstart hrun
  have hno : ∀ key v, key ∉ ["name", "role", "neopixels", "endstops"] →
      ¬ Reads loads es key v := by
    rintro key v hkey ⟨f, now, items, hevent, hcommand, hloads, hmem⟩
    obtain ⟨cfg, hcfg⟩ := hinfo f now hevent hcommand
    rw [hloads] at hcfg
    exact hkey (keys_deviceInfo hcfg.symm ▸ List.mem_map_of_mem hmem)
  exact ⟨(hreported.temp name h hh).resolve_right (hno _ _ (by decide)),
    (hreported.duty name h hh).resolve_right (hno _ _ (by decide))⟩

theorem temperature_not_reported_chamber :
    ∃ w' h, System.run (klipper plainHttp bitFloat fun _ => (deviceInfo defaultCfg).py)
        ⟨onePrinter, ApiServer.start⟩
        (nodeThere ++ [.host (.packet ⟨1, ⟨KlipCommand.deviceInfoResp.code, []⟩⟩ 1),
          .pollHeater "chamber" ⟨true, true, true⟩]) = some w' ∧
      w'.printer.heaters "chamber" = some h ∧ h.temp = .float "0.0" ∧ h.duty = .int 0 :=
  ⟨_, _, rfl, rfl, @temperature_not_reported UInt32 plainHttp bitFloat
    (fun _ => (deviceInfo defaultCfg).py) ⟨onePrinter, ApiServer.start⟩ _
    (nodeThere ++ [.host (.packet ⟨1, ⟨KlipCommand.deviceInfoResp.code, []⟩⟩ 1),
      .pollHeater "chamber" ⟨true, true, true⟩])
    lawful_plainHttp fresh_onePrinter rfl (fun _ _ _ _ => ⟨defaultCfg, rfl⟩) rfl "chamber" _ rfl⟩

end Klippylink
