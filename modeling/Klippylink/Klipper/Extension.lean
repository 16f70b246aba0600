import Klippylink.Bridge.Listing

/-!
# The Klipper extension

`klippylink.py` runs inside Klipper and reaches the nodes through the host's HTTP interface.
Every method of `KlippylinkRouter` catches what its request raises, so that an object of the
extension goes on with what it has: a request that finds no route, a body that is refused and
a host that is not there are the same to it.

What carries a request (`urllib`, `uvicorn`, FastAPI, `pydantic`) is a parameter, `Http`.  The
routes are those of `api_server.py`; whatever they do not match goes to the files of `static`.

## Main definitions

* `Http`, `Http.Lawful` — what carries a request.
* `ApiServer.serve` — the routes.
* `KlippylinkNeopixel`, `KlippylinkEndstop`, `KlippylinkHeater`, `Printer` — the objects.
* `klipper` — the printer and the host at work.
-/

namespace Klippylink

open Lib

/-- What is done with a `float`. -/
structure PyFloat (F : Type) where
  /-- The bits of `pack("<f", x)`; `none` where it raises. -/
  bits : F → Option UInt32
  /-- `x > 0`. -/
  positive : F → Bool
  /-- `int(x * 255)`; `none` where `get_float` does not let `x` through. -/
  channel : F → Option ℤ

/-! ## Requests -/

/-- A value in a body. -/
inductive BodyValue (F : Type)
  | int (n : ℤ)
  | float (x : F)

/-- The body of a POST. -/
abbrev Body (F : Type) := List (String × BodyValue F)

/-- A request, with the path after `_base`. -/
inductive HttpRequest (F : Type)
  | get (path : String)
  | post (path : String) (body : Body F)

/-- The path of a request. -/
def HttpRequest.path {F : Type} : HttpRequest F → String
  | get path => path
  | post path _ => path

/-- What carries a request to a handler. -/
structure Http (F : Type) where
  /-- The path as the server splits it; `none` where `urlopen` raises. -/
  target : String → Option (List String)
  /-- The JSON of a file of `static`, or of a page of FastAPI. -/
  file : List String → Option PyValue
  /-- The body as a `LedZoneBody`; `none` where it is refused. -/
  ledZoneBody : Body F → Option LedZoneBody
  wifiBody : Body F → Option (String × String)
  heaterBody : Body F → Option (HeaterBody F)

/-- The keys of a body. -/
def Body.keys {F : Type} (body : Body F) : List String := body.map Prod.fst

/-- A body without a field that has no default is refused, floats arrive as they are, and no
file is about a node. -/
structure Http.Lawful {F : Type} (http : Http F) : Prop where
  file : ∀ segs items, http.file segs = some (.dict items) →
    "triggered" ∉ items.map Prod.fst ∧ "capabilities" ∉ items.map Prod.fst
  ledZoneBody : ∀ body b, http.ledZoneBody body = some b → "zone_id" ∈ body.keys
  wifiBody : ∀ body b, http.wifiBody body = some b → "ssid" ∈ body.keys
  heaterBody : ∀ body b, http.heaterBody body = some b → "target_temp" ∈ body.keys
  floats : ∀ t p i d b, http.heaterBody [("target_temp", .float t), ("kp", .float p),
    ("ki", .float i), ("kd", .float d)] = some b → b = ⟨t, p, i, d⟩

/-- A `{name}` of a route is not empty. -/
def named {α : Type} (name : String) (a : α) : Option α := if name = "" then none else some a

/-- The route of a GET. -/
def getRoute {F : Type} : List String → Option (ApiCall F)
  | ["api", "info"] => some .getInfo
  | ["api", "nodes"] => some .listNodes
  | ["api", "nodes", name, "status"] => named name (.nodeStatus name)
  | ["api", "nodes", name, "leds", "zones"] => named name (.listLedZones name)
  | ["api", "nodes", name, "radio"] => named name (.getRadio name)
  | _ => none

/-- The route of a POST: what its handler is called with, or `none` where the body is
refused. -/
def postRoute {F : Type} (http : Http F) (body : Body F) :
    List String → Option (Option (ApiCall F))
  | ["api", "nodes", name, "leds", "zones"] =>
      named name ((http.ledZoneBody body).map fun b => .setLedZone name b)
  | ["api", "nodes", name, "wifi", "enable"] =>
      named name ((http.wifiBody body).map fun b => .enableWifi name b.1 b.2)
  | ["api", "nodes", name, "heater", "set"] =>
      named name ((http.heaterBody body).map fun b => .setHeater name b)
  -- a firmware is a form, which this is not
  | ["api", "nodes", name, "firmware"] => named name none
  | _ => none

/-- The status of an answer that is no JSON. -/
def RequestError.status : RequestError → ℕ
  | .raised .notFound => 404
  | _ => 500

/-- How far a request gets: to the server, from it to the port, and back. -/
structure Reach where
  arrives : Bool
  writes : Bool
  returns : Bool

section Server

variable {F : Type} (http : Http F) (floats : PyFloat F) (s : ApiServer)

/-- The server's answer to a request: a status, or JSON. -/
def ApiServer.serve (writes : Bool) (segs : List String) :
    HttpRequest F → Except ℕ PyValue × ApiServer
  | .get _ =>
      match getRoute segs with
      | some c =>
          let a := s.call writes floats.bits (c : ApiCall F)
          (a.1.mapError RequestError.status, a.2)
      | none =>
          match http.file segs with
          | none => (.error 404, s)
          | some json => (.ok json, s)
  | .post _ body =>
      match postRoute http body segs with
      | none => (.error 405, s)
      | some none => (.error 422, s)
      | some (some c) =>
          let a := s.call writes floats.bits c
          (a.1.mapError RequestError.status, a.2)

/-- `_get` and `_post`: what they return, `none` where they raise, and the server. -/
def ApiServer.urlopen (reach : Reach) (req : HttpRequest F) : Option PyValue × ApiServer :=
  match http.target req.path with
  | none => (none, s)
  | some segs =>
      if reach.arrives then
        let r := s.serve http floats reach.writes segs req
        (if reach.returns then r.1.toOption else none, r.2)
      else (none, s)

/-! ## `KlippylinkRouter` -/

/-- `set_neopixel`. -/
def ApiServer.setNeopixel (reach : Reach) (node strip : String) (r g b : ℤ) (index : Option ℤ) :
    ApiServer :=
  let body := [("r", .int r), ("g", .int g), ("b", .int b)] ++
    index.toList.map fun i => ("index", .int i)
  (s.urlopen http floats reach
    (.post ("/api/nodes/" ++ node ++ "/neopixels/" ++ strip ++ "/set") body)).2

/-- `query_endstop`. -/
def ApiServer.queryEndstop (reach : Reach) (node endstop : String) : PyValue × ApiServer :=
  let r := s.urlopen http floats reach (.get ("/api/nodes/" ++ node ++ "/endstops/" ++ endstop))
  match r.1.bind fun data => data.get "triggered" (.bool false) with
  | none => (.none, r.2)
  | some state => (state, r.2)

/-- `set_heater` of the extension. -/
def ApiServer.postHeater (reach : Reach) (node : String) (targetTemp kp ki kd : F) : ApiServer :=
  (s.urlopen http floats reach
    (.post ("/api/nodes/" ++ node ++ "/heater/set")
      [("target_temp", .float targetTemp), ("kp", .float kp), ("ki", .float ki),
        ("kd", .float kd)])).2

end Server

/-! ## The objects -/

/-- `KlippylinkNeopixel`. -/
structure KlippylinkNeopixel where
  routerName : String
  nodeName : String
  stripName : String

/-- `KlippylinkEndstop`. -/
structure KlippylinkEndstop where
  routerName : String
  nodeName : String
  endstopName : String
  triggered : PyValue := .bool false

/-- `KlippylinkHeater`. -/
structure KlippylinkHeater (F : Type) where
  routerName : String
  nodeName : String
  targetTemp : F
  kp : F
  ki : F
  kd : F
  temp : PyValue := .float "0.0"
  duty : PyValue := .int 0

/-- The objects of the printer, by their names. -/
structure Printer (F : Type) where
  routers : List String
  neopixels : String → Option KlippylinkNeopixel
  endstops : String → Option KlippylinkEndstop
  heaters : String → Option (KlippylinkHeater F)

/-- The truth of a value. -/
def PyValue.truthy : PyValue → Bool
  | none => false
  | bool b => b
  | int n => n ≠ 0
  | float text => text ∉ ["0.0", "-0.0"]
  | str s => s ≠ ""
  | list items => !items.isEmpty
  | dict items => !items.isEmpty

/-- The value is `None`. -/
def PyValue.isNone : PyValue → Bool
  | none => true
  | _ => false

section Objects

variable {F : Type} (http : Http F) (floats : PyFloat F) (reach : Reach) (p : Printer F)
  (s : ApiServer)

/-- `cmd_SET_KLIPPYLINK_LED` of the object `self`: the server after it. -/
def Printer.cmdSetKlippylinkLed (self : String) (neopixel : KlippylinkNeopixel)
    (strip : Option String) (red green blue : F) (index : ℤ) : ApiServer :=
  match floats.channel red, floats.channel green, floats.channel blue with
  | some r, some g, some b =>
      let obj := (p.neopixels (strip.getD self)).getD neopixel
      if obj.routerName ∈ p.routers then
        s.setNeopixel http floats reach obj.nodeName obj.stripName r g b
          (if index < 0 then none else some index)
      else s
  | _, _, _ => s

/-- `_poll`. -/
def KlippylinkEndstop.poll (e : KlippylinkEndstop) : KlippylinkEndstop × ApiServer :=
  if e.routerName ∈ p.routers then
    let r := s.queryEndstop http floats reach e.nodeName e.endstopName
    (if r.1.isNone then e else { e with triggered := r.1 }, r.2)
  else (e, s)

/-- `get_status` of an endstop. -/
def KlippylinkEndstop.getStatus (e : KlippylinkEndstop) : PyValue :=
  .dict [("triggered", e.triggered), ("node", .str e.nodeName), ("endstop", .str e.endstopName)]

/-- `cmd_QUERY_KLIPPYLINK_ENDSTOP` of the object `self`: the text of the answer. -/
def Printer.cmdQueryKlippylinkEndstop (self : String) (endstop : KlippylinkEndstop)
    (name : Option String) : String :=
  let obj := (p.endstops (name.getD self)).getD endstop
  "KlippyLink endstop '" ++ obj.endstopName ++ "' on '" ++ obj.nodeName ++ "': " ++
    if obj.triggered.truthy then "TRIGGERED" else "open"

/-- `_handle_connect`, when the router is there. -/
def KlippylinkHeater.handleConnect (h : KlippylinkHeater F) : ApiServer :=
  if floats.positive h.targetTemp then
    s.postHeater http floats reach h.nodeName h.targetTemp h.kp h.ki h.kd
  else s

/-- `_poll_status`. -/
def KlippylinkHeater.pollStatus (h : KlippylinkHeater F) : KlippylinkHeater F × ApiServer :=
  if h.routerName ∈ p.routers then
    let r := s.urlopen http floats reach (.get ("/api/nodes/" ++ h.nodeName ++ "/status"))
    let caps := r.1.bind fun data => data.get "capabilities" (.dict [])
    match caps.bind fun caps => caps.get "temp_current" h.temp,
      caps.bind fun caps => caps.get "duty" h.duty with
    | some temp, some duty => ({ h with temp := temp, duty := duty }, r.2)
    | _, _ => (h, r.2)
  else (h, s)

/-- `set_temp`. -/
def KlippylinkHeater.setTemp (h : KlippylinkHeater F) (degrees : F) :
    KlippylinkHeater F × ApiServer :=
  ({ h with targetTemp := degrees },
    if h.routerName ∈ p.routers then
      s.postHeater http floats reach h.nodeName degrees h.kp h.ki h.kd
    else s)

end Objects

/-- The printer and the host. -/
structure KlipperWorld (F : Type) where
  printer : Printer F
  server : ApiServer

/-- What can happen. -/
inductive KlipperEvent (F : Type)
  /-- `SET_KLIPPYLINK_LED`, of the object `self`. -/
  | setLed (self : String) (strip : Option String) (red green blue : F) (index : ℤ)
      (reach : Reach)
  | pollEndstop (name : String) (reach : Reach)
  /-- `klippy:connect`, for a heater. -/
  | connectHeater (name : String) (reach : Reach)
  | pollHeater (name : String) (reach : Reach)
  | setTemp (name : String) (degrees : F) (reach : Reach)
  /-- Something at the host, a request of somebody else included. -/
  | host (e : ServerEvent F)

/-- The printer and the host at work. -/
def klipper {F : Type} (http : Http F) (floats : PyFloat F)
    (loads : List UInt8 → Option PyValue) : System (KlipperWorld F) (KlipperEvent F) := fun w e =>
  match e with
  | .setLed self strip red green blue index reach =>
      (w.printer.neopixels self).map fun neopixel =>
        let server := w.printer.cmdSetKlippylinkLed http floats reach w.server self neopixel
          strip red green blue index
        ⟨w.printer, server⟩
  | .pollEndstop name reach =>
      (w.printer.endstops name).map fun endstop =>
        let r := endstop.poll http floats reach w.printer w.server
        ⟨{ w.printer with endstops := Function.update w.printer.endstops name (some r.1) }, r.2⟩
  | .connectHeater name reach =>
      (w.printer.heaters name).bind fun heater =>
        if heater.routerName ∈ w.printer.routers then
          some { w with server := heater.handleConnect http floats reach w.server }
        else none
  | .pollHeater name reach =>
      (w.printer.heaters name).map fun heater =>
        let r := heater.pollStatus http floats reach w.printer w.server
        ⟨{ w.printer with heaters := Function.update w.printer.heaters name (some r.1) }, r.2⟩
  | .setTemp name degrees reach =>
      (w.printer.heaters name).map fun heater =>
        let r := heater.setTemp http floats reach w.printer w.server degrees
        ⟨{ w.printer with heaters := Function.update w.printer.heaters name (some r.1) }, r.2⟩
  | .host e => (apiServer floats.bits loads w.server e).map fun server => ⟨w.printer, server⟩

/-- The objects as `__init__` leaves them. -/
def Printer.Fresh {F : Type} (p : Printer F) : Prop :=
  (∀ name e, p.endstops name = some e → e.triggered = .bool false) ∧
    ∀ name h, p.heaters name = some h → h.temp = .float "0.0" ∧ h.duty = .int 0

/-! ## A printer with one node -/

/-- Paths of plain names, and a heater's body. -/
def plainHttp : Http UInt32 where
  target path :=
    if path = "/api/nodes/node_1/heater/set" then some ["api", "nodes", "node_1", "heater", "set"]
    else if path = "/api/nodes/node_1/status" then some ["api", "nodes", "node_1", "status"]
    else some ["api", "nodes", "node_1", "endstops", "x_min"]
  file _ := none
  ledZoneBody _ := none
  wifiBody _ := none
  heaterBody
    | [("target_temp", .float t), ("kp", .float p), ("ki", .float i), ("kd", .float d)] =>
        some ⟨t, p, i, d⟩
    | _ => none

theorem lawful_plainHttp : plainHttp.Lawful where
  file _ _ h := nomatch h
  ledZoneBody _ _ h := nomatch h
  wifiBody _ _ h := nomatch h
  heaterBody body b h := by
    simp only [plainHttp] at h
    split at h
    · exact List.mem_cons_self
    · cases h
  floats _ _ _ _ _ h := (Option.some.inj h).symm

/-- Floats as their bits. -/
def bitFloat : PyFloat UInt32 := ⟨some, fun x => x ≠ 0, fun x => some x.toNat⟩

/-- A printer with a strip, an endstop and a heater on `node_1`. -/
def onePrinter : Printer UInt32 where
  routers := ["router"]
  neopixels name := if name = "leds" then some ⟨"router", "node_1", "status"⟩ else none
  endstops name :=
    if name = "x_min" then some ⟨"router", "node_1", "x_min", .bool false⟩ else none
  heaters name :=
    if name = "chamber" then some ⟨"router", "node_1", 0, 1, 2, 3, .float "0.0", .int 0⟩ else none

theorem fresh_onePrinter : onePrinter.Fresh := by
  refine ⟨fun name e he => ?_, fun name h hh => ?_⟩
  · simp only [onePrinter] at he
    split at he
    · cases he
      rfl
    · cases he
  · simp only [onePrinter] at hh
    split at hh
    · cases hh
      exact ⟨rfl, rfl⟩
    · cases hh

/-- The port opens, and the node is there. -/
def nodeThere : List (KlipperEvent UInt32) :=
  [.host (.port true), .host (.packet ⟨1, ⟨KlipCommand.ping.code, []⟩⟩ 0)]

end Klippylink
