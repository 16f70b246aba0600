import Klippylink.Host.ZoneEditor

/-!
# The page and the host that it talks to

`app.js` awaits what it requests.  Between a request and its answer, and between the answer and
what comes of it, the user goes on, the other requests do, and the timer of `pollNodes` runs.
What awaits is a task here; the host gets its request, or the request or its answer is lost, and
it goes on where the answer has come.

One node is selected.  "Apply all" posts every zone of its list without waiting for any of them.

## Main definitions

* `PageTask`, `Page` — what awaits, and what the page keeps.
* `PageAct`, `Page.act` — what the user and the timer do.
* `Page.resume`, `Page.lose` — how a task goes on.
* `ApiServer.serveTask` — what the host does for it.
* `PageHost`, `pageHost` — the page and the host as a system of events.
-/

namespace Klippylink

open Lib

/-- A zone id, with the body of a `set_led_zone` or, for `clear_led_zone`, none. -/
abbrev ZoneCall := ℤ × Option LedZoneBody

/-! ## What the page keeps -/

/-- Where a request of the page is. -/
inductive PageTask
  /-- A request about a zone is on its way; it may be the dialog that awaits it. -/
  | request (call : ZoneCall) (dialog : Bool)
  /-- Its answer is. -/
  | answer (ok : Bool) (dialog : Bool)
  /-- `refreshNodeData` has asked for the zones. -/
  | list
  /-- The answer is on its way, `none` for an error. -/
  | listed (zones : Option (List LedZone))
  /-- `refreshNodeData` has the zones, and awaits the settings of the radio. -/
  | holds (zones : List LedZone)

/-- `nodeZones` of the selected node, the dialog when it is open, and what awaits. -/
structure Page where
  zones : List LedZone
  dialog : Option ZoneForm
  tasks : List PageTask

/-- What the user does, and the timer. -/
inductive PageAct
  /-- `pollNodes` has got the nodes. -/
  | poll
  /-- LEDs of a strip are selected. -/
  | drag (strip first last : ℕ)
  /-- "Edit". -/
  | editZone (zoneId : ℤ)
  /-- Something is done to an input. -/
  | type (e : FormEdit)
  /-- "Cancel". -/
  | cancel
  /-- "Save & Apply". -/
  | save
  /-- "Delete", which is confirmed. -/
  | delete
  /-- "Apply". -/
  | applyZone (zoneId : ℤ)
  /-- "Apply all". -/
  | applyAll

/-- A zone is posted as it is listed. -/
def LedZone.posted (z : LedZone) : PageTask := .request (z.zoneId, some z.body) false

namespace Page

/-- More is requested. -/
def awaits (p : Page) (tasks : List PageTask) : Page := { p with tasks := p.tasks ++ tasks }

/-- The dialog opens, if there is something in it, or closes. -/
def withDialog (p : Page) (dialog : Option ZoneForm) : Page := { p with dialog }

/-- A task has gone on, or has ended. -/
def withTask (p : Page) (i : ℕ) : Option PageTask → Page
  | none => { p with tasks := p.tasks.eraseIdx i }
  | some t => { p with tasks := p.tasks.set i t }

/-- The zone of a button. -/
def zone (p : Page) (zoneId : ℤ) : Option LedZone := p.zones.find? fun z => z.zoneId = zoneId

/-- While the dialog is closed. -/
def browse (p : Page) : PageAct → Option Page
  | .poll => some (p.awaits [.list])
  | .drag strip first last =>
      let lo := min first last
      let hi := max first last
      some (p.withDialog (some (openNewDialog p.zones strip lo ((hi : ℤ) - lo + 1))))
  | .editZone zoneId => some (p.withDialog ((p.zone zoneId).bind openZoneDialog))
  | .applyZone zoneId => some (p.awaits ((p.zone zoneId).toList.map LedZone.posted))
  | .applyAll => some (p.awaits (p.zones.map LedZone.posted))
  | _ => none

/-- While it is open: only its own buttons are there to be clicked. -/
def fill (p : Page) (form : ZoneForm) : PageAct → Option Page
  | .poll => some (p.awaits [.list])
  | .type e => some (p.withDialog (some (form.edit e)))
  | .cancel => some (p.withDialog none)
  | .save =>
      some (p.awaits [match form.zone with
        | none => .answer false true
        | some body => .request (body.zoneId, some body) true])
  | .delete =>
      if form.canDelete then
        some (p.awaits [match parseInt 10 form.zoneId with
          | none => .answer false true
          | some zoneId => .request (zoneId, none) true])
      else none
  | _ => none

/-- What the user or the timer does. -/
def act (p : Page) (a : PageAct) : Option Page :=
  match p.dialog with
  | none => p.browse a
  | some form => p.fill form a

/-- A task goes on, where its answer has come.  The dialog closes, whatever is in it by then,
and the page asks for the zones; when it has them, it shows them. -/
def resume (p : Page) (i : ℕ) : PageTask → Option Page
  | .answer ok dialog =>
      some (if ok ∧ dialog then (p.withTask i (some .list)).withDialog none else p.withTask i none)
  | .listed zones => some (p.withTask i (some (.holds (zones.getD p.zones))))
  | .holds zones => some { p.withTask i none with zones := zones }
  | .request _ _ | .list => none

/-- The request of a task is lost, or its answer.  `refreshNodeData` goes on with the zones that
there are. -/
def lose (p : Page) (i : ℕ) : PageTask → Option Page
  | .request _ _ | .answer _ _ => some (p.withTask i none)
  | .list | .listed _ => some (p.withTask i (some (.holds p.zones)))
  | .holds _ => none

end Page

/-! ## The host -/

/-- The zones that `list_led_zones` lists. -/
def ApiServer.zonesOf (s : ApiServer) (name : String) : Option (List LedZone) :=
  (s.state.host.getNode name).toOption.map fun node => (s.ledZones node.nodeId).values

/-- `list_led_zones` answers with them. -/
theorem ApiServer.listLedZones_eq (s : ApiServer) (name : String) :
    (s.listLedZones name).1.toOption =
      (s.zonesOf name).map fun zones => .list (zones.map LedZone.json) := by
  rw [ApiServer.listLedZones, ApiServer.withNode, ApiServer.zonesOf]
  cases s.state.host.getNode name <;> rfl

/-- A request about a zone. -/
def ApiServer.zoneRequest (s : ApiServer) (writes : Bool) (name : String) : ZoneCall → ApiAnswer
  | (_, some body) => s.setLedZone writes name body
  | (zoneId, none) => s.clearLedZone writes name zoneId

/-- The host does what a task requests, and answers. -/
def ApiServer.serveTask (s : ApiServer) (writes : Bool) (name : String) :
    PageTask → Option (PageTask × ApiServer)
  | .request call dialog =>
      let answer := s.zoneRequest writes name call
      some (.answer answer.1.toOption.isSome dialog, answer.2)
  | .list => some (.listed (s.zonesOf name), s)
  | _ => none

/-! ## Both -/

/-- The host, and the page. -/
structure PageHost where
  server : ApiServer
  page : Page

/-- What can happen. -/
inductive PageEvent
  | act (a : PageAct)
  /-- The host gets the request of a task; the port takes a frame or not. -/
  | serve (i : ℕ) (writes : Bool)
  | resume (i : ℕ)
  | lose (i : ℕ)

/-- One event. -/
def PageHost.step (name : String) (w : PageHost) : PageEvent → Option PageHost
  | .act a => (w.page.act a).map fun page => ⟨w.server, page⟩
  | .serve i writes => do
      let task ← w.page.tasks[i]?
      let (task, server) ← w.server.serveTask writes name task
      some ⟨server, w.page.withTask i (some task)⟩
  | .resume i => do
      let task ← w.page.tasks[i]?
      (w.page.resume i task).map fun page => ⟨w.server, page⟩
  | .lose i => do
      let task ← w.page.tasks[i]?
      (w.page.lose i task).map fun page => ⟨w.server, page⟩

/-- The page and the host as a system of events. -/
def pageHost (name : String) : System PageHost PageEvent := fun w e => w.step name e

end Klippylink
