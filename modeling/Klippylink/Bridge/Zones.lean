import Klippylink.Host.Api
import Klippylink.Lib.Journal
import Klippylink.Lib.System
import Klippylink.Node.LedNode
import Klippylink.Router.NodeRegistry

/-!
# LED zones, on the host and on a node

The host records a zone when it has sent it; the node takes what arrives and answers
nothing.  The frames between them are a lossless queue, so that at any time the node has
carried out a beginning of the calls that returned ok.  Those calls are kept beside the
state, as a journal of writes to zone ids.

## Main definitions

* `ZoneSetup`, `ZoneWorld`, `zoneWorld` — the system.
* `ZoneMatches`, `ZonesAgree` — the two tables are the same.
* `Packs` — what a body becomes on the line.
* `zones_agree_iff` — when they are.
-/

namespace Klippylink

open Lib

/-- What is fixed: the node's id on the host, and how the node was built. -/
structure ZoneSetup where
  nodeId : UInt8
  build : NodeBuild

/-- The host, the frames on their way to the node, the node's server and its zones, and
the calls that returned ok: each a zone id, with the body of a `set_led_zone`. -/
structure ZoneWorld where
  host : ApiHost
  line : List (List UInt8)
  server : GattServer
  effects : LedEffects
  calls : List (ℤ × Option LedZoneBody)

/-- What can happen. -/
inductive ZoneEvent
  | set (name : String) (body : LedZoneBody)
  | clear (name : String) (zoneId : ℤ)
  /-- The node gets the packet of the next frame. -/
  | deliver (beyond : ℕ → UInt8) (out : Outcomes)
  /-- The effects task draws a zone. -/
  | draw (i : Fin ledMaxZones) (tick : UInt32)

namespace ZoneWorld

/-- A call has returned: an exception changes nothing. -/
def called (x : ZoneSetup) (w : ZoneWorld) (call : ℤ × Option LedZoneBody) :
    Except ApiError (ApiHost × UInt8 × List UInt8) → Option ZoneWorld
  | .error _ => some w
  | .ok (host, nodeId, bytes) =>
      if nodeId = x.nodeId then
        some { w with host := host, line := w.line ++ [bytes], calls := w.calls ++ [call] }
      else none

/-- One event; every call is for the node. -/
def step (x : ZoneSetup) (w : ZoneWorld) : ZoneEvent → Option ZoneWorld
  | .set name body => w.called x (body.zoneId, some body) (w.host.setLedZone name body)
  | .clear name zoneId => w.called x (zoneId, none) (w.host.clearLedZone name zoneId)
  | .deliver beyond out =>
      match w.line with
      | [] => none
      | bytes :: rest =>
          let written := w.server.writeEvt x.build ⟨bytes.tail, beyond⟩ out
          (written.2.foldlM LedEffects.perform w.effects).map fun effects =>
            { w with line := rest, server := written.1, effects := effects }
  | .draw i tick => some { w with effects := w.effects.drawn i tick }

end ZoneWorld

/-- The zones as a system of events. -/
def zoneWorld (x : ZoneSetup) : System ZoneWorld ZoneEvent := fun w e => w.step x e

/-- A zone of the node, by the id that the host has for it. -/
def LedEffects.zoneAt (e : LedEffects) : ℤ → Option LedZoneCfg
  | .ofNat i => e.zone i
  | .negSucc _ => none

theorem LedEffects.zoneAt_natCast (e : LedEffects) (i : ℕ) : e.zoneAt i = e.zone i := rfl

/-- The zone that is recorded is the one that is shown. -/
structure ZoneMatches (z : LedZone) (c : LedZoneCfg) : Prop where
  strip : z.strip = c.stripIdx.toNat
  start : z.start = c.start.toNat
  count : z.count = c.count.toNat
  effect : z.effect = c.effect.toNat
  color : z.color = [(c.color.1.toNat : ℤ), c.color.2.1.toNat, c.color.2.2.toNat]
  color2 : z.color2 = [(c.color2.1.toNat : ℤ), c.color2.2.1.toNat, c.color2.2.2.toNat]
  brightness : z.brightness = c.brightness.toNat
  speed : z.speed = c.speed.toNat

/-- The host has recorded the zones that are active on the node, and each of them as it
is there. -/
def ZonesAgree (x : ZoneSetup) (w : ZoneWorld) : Prop :=
  ∀ id, Option.Rel ZoneMatches (w.host.zones x.nodeId id) (w.effects.zoneAt id)

/-- The call that a zone id stands at: the body it was last set with, if it has not been
cleared since. -/
def standing (calls : List (ℤ × Option LedZoneBody)) : ℤ → Option LedZoneBody :=
  replay (fun _ => none) calls

/-! ### Bodies -/

/-- A body is packed as the zone id and the configuration. -/
structure Packs (b : LedZoneBody) (zoneId : UInt8) (c : LedZoneCfg) : Prop where
  zoneId : b.zoneId = zoneId.toNat
  strip : b.strip = c.stripIdx.toNat
  start : b.start = c.start.toNat
  count : b.count = c.count.toNat
  effect : b.effect = c.effect.toNat
  color : ∃ rest, b.color =
    [(c.color.1.toNat : ℤ), c.color.2.1.toNat, c.color.2.2.toNat] ++ rest
  color2 : ∃ rest, b.color2 =
    [(c.color2.1.toNat : ℤ), c.color2.2.1.toNat, c.color2.2.2.toNat] ++ rest
  brightness : b.brightness = c.brightness.toNat
  speed : b.speed = c.speed.toNat

theorem mapM_packByte {ns : List ℤ} {bs : List UInt8} (h : ns.mapM packByte = some bs) :
    ns = bs.map fun b => (b.toNat : ℤ) := by
  induction ns generalizing bs with
  | nil =>
      cases h
      rfl
  | cons n ns ih =>
      rw [List.mapM_cons] at h
      obtain ⟨b, hb, hrest⟩ := Option.bind_eq_some_iff.mp h
      obtain ⟨bs', hbs, hret⟩ := Option.bind_eq_some_iff.mp hrest
      cases hret
      rw [List.map_cons, ← ih hbs, packByte_eq_some.mp hb]

/-- **What is packed**: every number is a byte, and the colours have three entries at
least. -/
theorem pack_ok {b : LedZoneBody} {payload : List UInt8} (h : b.pack = .ok payload) :
    ∃ zoneId c, Packs b zoneId c ∧ payload = (zoneSetPacket zoneId c).payload := by
  rw [LedZoneBody.pack] at h
  split at h
  · next r g bl rest r2 g2 b2 rest2 hcolor hcolor2 =>
      obtain ⟨front, hfront, h⟩ := bind_eq_ok.mp h
      obtain ⟨speed, hspeed, hret⟩ := bind_eq_ok.mp h
      cases hret
      have hbytes := mapM_packByte (orRaise_eq_ok.mp hfront)
      have hspeed := packByte_eq_some.mp (orRaise_eq_ok.mp hspeed)
      -- one byte for each of the twelve numbers
      rw [eq_comm] at hbytes
      simp only [List.map_eq_cons_iff, List.map_eq_nil_iff] at hbytes
      obtain ⟨zoneId, _, rfl, hzone, strip, _, rfl, hstrip, start, _, rfl, hstart, count, _, rfl,
        hcount, effect, _, rfl, heffect, cr, _, rfl, rfl, cg, _, rfl, rfl, cb, _, rfl, rfl,
        cr2, _, rfl, rfl, cg2, _, rfl, rfl, cb2, _, rfl, rfl, brightness, _, rfl, hbright,
        rfl⟩ := hbytes
      exact ⟨zoneId,
        ⟨strip, start, count, effect, (cr, cg, cb), (cr2, cg2, cb2), brightness, speed⟩,
        ⟨hzone.symm, hstrip.symm, hstart.symm, hcount.symm, heffect.symm, ⟨rest, hcolor⟩,
          ⟨rest2, hcolor2⟩, hbright.symm, hspeed⟩, rfl⟩
  · cases h

/-- The recorded zone is the packed one when the colours have no more than three
entries. -/
theorem Packs.matches_iff {b : LedZoneBody} {zoneId : UInt8} {c : LedZoneCfg}
    (h : Packs b zoneId c) :
    ZoneMatches b.zone c ↔ b.color.length = 3 ∧ b.color2.length = 3 := by
  obtain ⟨rest, hcolor⟩ := h.color
  obtain ⟨rest2, hcolor2⟩ := h.color2
  constructor
  · intro hm
    have h1 : b.color = _ := hm.color
    have h2 : b.color2 = _ := hm.color2
    exact ⟨by rw [h1]; rfl, by rw [h2]; rfl⟩
  · rintro ⟨h1, h2⟩
    rw [hcolor, List.length_append] at h1
    rw [hcolor2, List.length_append] at h2
    have hrest : rest = [] := List.length_eq_zero_iff.mp (Nat.add_left_cancel h1)
    have hrest2 : rest2 = [] := List.length_eq_zero_iff.mp (Nat.add_left_cancel h2)
    rw [hrest, List.append_nil] at hcolor
    rw [hrest2, List.append_nil] at hcolor2
    exact ⟨h.strip, h.start, h.count, h.effect, hcolor, hcolor2, h.brightness, h.speed⟩

/-! ### Calls -/

/-- A frame on its way carries a call: the body that was packed, or the id that was
cleared. -/
inductive Carries (nodeId : UInt8) : ℤ × Option LedZoneBody → List UInt8 → Prop
  | set {b : LedZoneBody} {zoneId : UInt8} {c : LedZoneCfg} : Packs b zoneId c →
      Carries nodeId (b.zoneId, some b) (Frame.bytes ⟨nodeId, zoneSetPacket zoneId c⟩)
  | clear (zoneId : UInt8) :
      Carries nodeId ((zoneId.toNat : ℤ), none) (Frame.bytes ⟨nodeId, zoneClrPacket zoneId⟩)

/-- The zone that a call records. -/
def recorded (call : ℤ × Option LedZoneBody) : Option LedZone := call.2.map LedZoneBody.zone

/-- A call that returns ok has sent its frame and recorded its zone. -/
structure Called (h h' : ApiHost) (nodeId : UInt8) (call : ℤ × Option LedZoneBody)
    (bytes : List UInt8) : Prop where
  carries : Carries nodeId call bytes
  zones : h'.zones nodeId = Function.update (h.zones nodeId) call.1 (recorded call)

/-- The packet of a zone that is set. -/
theorem packet_setLedZone_ok {b : LedZoneBody} {pkt : KlipPacket}
    (hpkt : (Handler.setLedZone b).packet = .ok pkt) :
    ∃ zoneId c, Packs b zoneId c ∧ pkt = zoneSetPacket zoneId c := by
  obtain ⟨payload, hpack, hret⟩ := bind_eq_ok.mp hpkt
  cases hret
  obtain ⟨zoneId, c, hpacks, rfl⟩ := pack_ok hpack
  exact ⟨zoneId, c, hpacks, rfl⟩

/-- The packet of a zone that is cleared. -/
theorem packet_clearLedZone_ok {zoneId : ℤ} {pkt : KlipPacket}
    (hpkt : (Handler.clearLedZone zoneId).packet = .ok pkt) :
    ∃ id : UInt8, zoneId = id.toNat ∧ pkt = zoneClrPacket id := by
  obtain ⟨id, hid, hret⟩ := bind_eq_ok.mp hpkt
  cases hret
  exact ⟨id, packByte_eq_some.mp (orRaise_eq_ok.mp hid), rfl⟩

theorem setLedZone_ok {h h' : ApiHost} {name : String} {b : LedZoneBody} {nodeId : UInt8}
    {bytes : List UInt8} (hok : h.setLedZone name b = .ok (h', nodeId, bytes)) :
    Called h h' nodeId (b.zoneId, some b) bytes := by
  obtain ⟨node, pkt, hnode, rfl, hpkt, hsend, rfl⟩ := ApiHost.perform_eq_ok.mp hok
  obtain ⟨zoneId, c, hpacks, rfl⟩ := packet_setLedZone_ok hpkt
  have hbytes := ApiHost.sendPacket_ok hsend (Nat.le_of_ble_eq_true rfl)
  subst hbytes
  exact ⟨.set hpacks, ApiHost.zones_putZone (ApiHost.getNode_ok hnode) _ _⟩

theorem clearLedZone_ok {h h' : ApiHost} {name : String} {zoneId : ℤ} {nodeId : UInt8}
    {bytes : List UInt8} (hok : h.clearLedZone name zoneId = .ok (h', nodeId, bytes)) :
    Called h h' nodeId (zoneId, none) bytes := by
  obtain ⟨node, pkt, hnode, rfl, hpkt, hsend, rfl⟩ := ApiHost.perform_eq_ok.mp hok
  obtain ⟨id, rfl, rfl⟩ := packet_clearLedZone_ok hpkt
  have hbytes := ApiHost.sendPacket_ok hsend (Nat.le_of_ble_eq_true rfl)
  subst hbytes
  exact ⟨.clear id, ApiHost.zones_putZone (ApiHost.getNode_ok hnode) _ _⟩

/-- The zones as they are shown: each zone id below the limit stands at a body that was
packed as the zone's configuration. -/
def Shows (e : LedEffects) (calls : List (ℤ × Option LedZoneBody)) : Prop :=
  ∀ i < ledMaxZones, Option.Rel (fun c b => ∃ zoneId, Packs b zoneId c) (e.zone i)
    (standing calls i)

/-- **A call that arrives is shown**, when its zone id is below the limit, and changes
nothing when it is not. -/
theorem Shows.deliver {e e' : LedEffects} {done : List (ℤ × Option LedZoneBody)}
    (h : Shows e done) {nodeId : UInt8} {call : ℤ × Option LedZoneBody} {bytes : List UInt8}
    (hcall : Carries nodeId call bytes) {s : GattServer} {build : NodeBuild} {beyond : ℕ → UInt8}
    {out : Outcomes}
    (hdeliver : (s.writeEvt build ⟨bytes.tail, beyond⟩ out).2.foldlM LedEffects.perform e =
      some e') :
    Shows e' (done ++ [call]) := by
  cases hcall with
  | @set b zoneId c hpacks =>
      have hwritten : s.writeEvt build ⟨(Frame.bytes ⟨nodeId, zoneSetPacket zoneId c⟩).tail, beyond⟩
          out = _ := writeEvt_zoneSetPacket s build beyond out zoneId c
      rw [hwritten] at hdeliver
      simp only [List.foldlM_cons, List.foldlM_nil, bind_pure, LedEffects.perform] at hdeliver
      obtain ⟨r, hr, rfl⟩ := Option.map_eq_some_iff.mp hdeliver
      intro i hi
      rw [LedEffects.zone_setZone hr, standing, replay_concat, hpacks.zoneId]
      by_cases heq : i = zoneId.toNat
      · rw [if_pos ⟨heq, hi⟩, if_pos (by rw [heq])]
        exact .some ⟨zoneId, hpacks⟩
      · rw [if_neg fun hand => heq hand.1, if_neg (by exact_mod_cast heq)]
        exact h i hi
  | clear zoneId =>
      have hwritten : s.writeEvt build ⟨(Frame.bytes ⟨nodeId, zoneClrPacket zoneId⟩).tail, beyond⟩
          out = _ := writeEvt_zoneClrPacket s build beyond out zoneId
      rw [hwritten] at hdeliver
      simp only [List.foldlM_cons, List.foldlM_nil, bind_pure, LedEffects.perform] at hdeliver
      obtain ⟨r, hr, rfl⟩ := Option.map_eq_some_iff.mp hdeliver
      intro i hi
      rw [LedEffects.zone_clearZone hr, standing, replay_concat]
      by_cases heq : i = zoneId.toNat
      · rw [if_pos heq, if_pos (by rw [heq])]
        exact .none
      · rw [if_neg heq, if_neg (by exact_mod_cast heq)]
        exact h i hi

/-! ### The invariant -/

/-- The host has recorded every call; the node has carried out a beginning of them, and
the frames of the rest are on their way. -/
structure ZonesKept (x : ZoneSetup) (w : ZoneWorld) : Prop where
  host : ∀ id, w.host.zones x.nodeId id = (standing w.calls id).map LedZoneBody.zone
  ids : ∀ call ∈ w.calls, 0 ≤ call.1
  split : ∃ done pending, w.calls = done ++ pending ∧
    List.Forall₂ (Carries x.nodeId) pending w.line ∧ Shows w.effects done

variable {x : ZoneSetup} {w w' : ZoneWorld}

/-- A call that returns ok is recorded, and its frame is the last one on the line. -/
theorem ZonesKept.called (h : ZonesKept x w) {call : ℤ × Option LedZoneBody}
    {r : Except ApiError (ApiHost × UInt8 × List UInt8)}
    (hr : ∀ host nodeId bytes, r = .ok (host, nodeId, bytes) →
      Called w.host host nodeId call bytes)
    (hstep : w.called x call r = some w') : ZonesKept x w' := by
  cases r with
  | error e =>
      cases hstep
      exact h
  | ok r =>
      obtain ⟨host, nodeId, bytes⟩ := r
      simp only [ZoneWorld.called] at hstep
      split at hstep
      · next hnode =>
          subst hnode
          cases hstep
          have hcalled := hr _ _ _ rfl
          obtain ⟨k, value⟩ := call
          obtain ⟨done, pending, hcalls, hline, hshows⟩ := h.split
          refine ⟨fun id => ?_, fun c hc => ?_, done, pending ++ [(k, value)], ?_, ?_, hshows⟩
          · simp only [hcalled.zones, Function.update_apply, standing, replay_concat]
            by_cases hid : id = k
            · rw [if_pos hid, if_pos hid]
              rfl
            · rw [if_neg hid, if_neg hid]
              exact h.host id
          · rcases List.mem_append.mp hc with hold | hnew
            · exact h.ids c hold
            · rw [List.mem_singleton.mp hnew]
              cases hcalled.carries with
              | set hpacks =>
                  rw [hpacks.zoneId]
                  exact Int.natCast_nonneg _
              | clear zoneId => exact Int.natCast_nonneg _
          · simp only [hcalls, List.append_assoc]
          · exact List.rel_append hline (.cons hcalled.carries .nil)
      · cases hstep

/-- **Every step keeps the calls, the line and the two tables together.** -/
theorem zonesKept_step (w : ZoneWorld) (e : ZoneEvent) (w' : ZoneWorld) (h : ZonesKept x w)
    (hstep : zoneWorld x w e = some w') : ZonesKept x w' := by
  cases e with
  | set name body => exact h.called (fun _ _ _ hok => setLedZone_ok hok) hstep
  | clear name zoneId => exact h.called (fun _ _ _ hok => clearLedZone_ok hok) hstep
  | deliver beyond out =>
      obtain ⟨done, pending, hcalls, hline, hshows⟩ := h.split
      simp only [zoneWorld, ZoneWorld.step] at hstep
      split at hstep
      · cases hstep
      · next bytes rest hbytes =>
          obtain ⟨effects, hdeliver, rfl⟩ := Option.map_eq_some_iff.mp hstep
          rw [hbytes] at hline
          cases hline with
          | @cons call _ pending _ hcarries hrest =>
              refine ⟨h.host, h.ids, done ++ [call], pending, ?_, hrest,
                hshows.deliver hcarries hdeliver⟩
              rw [hcalls, List.append_assoc]
              rfl
  | draw i tick =>
      cases hstep
      obtain ⟨done, pending, hcalls, hline, hshows⟩ := h.split
      refine ⟨h.host, h.ids, done, pending, hcalls, hline, fun k hk => ?_⟩
      rw [LedEffects.zone_drawn]
      exact hshows k hk

/-! ### The two tables -/

/-- The zone id is one of the node's, and the colours have three entries. -/
structure Fits (id : ℤ) (b : LedZoneBody) : Prop where
  id : id < ledMaxZones
  color : b.color.length = 3
  color2 : b.color2.length = 3

/-- What is recorded for a body is the zone it was packed as, when its colours have three
entries. -/
theorem rel_zoneMatches_iff {z : Option LedZoneCfg} {s : Option LedZoneBody}
    (h : Option.Rel (fun c b => ∃ zoneId, Packs b zoneId c) z s) :
    Option.Rel ZoneMatches (s.map LedZoneBody.zone) z ↔
      ∀ b, s = some b → b.color.length = 3 ∧ b.color2.length = 3 := by
  cases h with
  | none => exact iff_of_true .none (by simp)
  | some hpacks =>
      obtain ⟨zoneId, hpacks⟩ := hpacks
      simp [← hpacks.matches_iff]

/-- Where nothing is on its way a zone id is the same in both tables when the call it
stands at fits. -/
theorem ZonesKept.agree_at_iff (h : ZonesKept x w) (hline : w.line = []) (id : ℤ) :
    Option.Rel ZoneMatches (w.host.zones x.nodeId id) (w.effects.zoneAt id) ↔
      ∀ b, standing w.calls id = some b → Fits id b := by
  obtain ⟨done, pending, hcalls, hpending, hshows⟩ := h.split
  rw [hline] at hpending
  cases hpending
  rw [List.append_nil] at hcalls
  rw [← hcalls] at hshows
  rw [h.host]
  cases id with
  | negSucc i =>
      -- no call that returned ok had a negative id
      have hnone : standing w.calls (Int.negSucc i) = none :=
        replay_of_forall_ne _ fun call hcall heq => by
          have := h.ids call hcall
          rw [heq] at this
          exact absurd this (by omega)
      rw [hnone]
      exact iff_of_true .none (by simp)
  | ofNat i =>
      have hid : Int.ofNat i = (i : ℤ) := rfl
      rw [hid, LedEffects.zoneAt_natCast]
      by_cases hlt : i < ledMaxZones
      · rw [rel_zoneMatches_iff (hshows i hlt)]
        refine forall₂_congr fun b _ => ⟨fun hcolors => ?_, fun hfits => ?_⟩
        · exact ⟨Int.ofNat_lt.mpr hlt, hcolors.1, hcolors.2⟩
        · exact ⟨hfits.color, hfits.color2⟩
      · -- the node has no zone there
        rw [LedEffects.zone_of_le _ (Nat.le_of_not_lt hlt)]
        cases hb : standing w.calls (i : ℤ) with
        | none => exact iff_of_true .none (by simp)
        | some b =>
            refine iff_of_false (fun hrel => by cases hrel) fun hfits => ?_
            exact hlt (Int.ofNat_lt.mp (hfits b rfl).id)

/-- Where nothing is on its way the tables agree when every call that stands fits. -/
theorem ZonesKept.agree_iff (h : ZonesKept x w) (hline : w.line = []) :
    ZonesAgree x w ↔ ∀ id b, standing w.calls id = some b → Fits id b :=
  forall_congr' (h.agree_at_iff hline)

/-- **The host's zone table and the node's** start empty.  In every state reached in
which no frame is on its way, they are the same exactly when every call that stands, that
is, every `set_led_zone` whose zone id has not been set or cleared since, had an id below
`LED_MAX_ZONES` and two colours of three entries. -/
theorem zones_agree_iff (x : ZoneSetup) (host : ApiHost) (server : GattServer)
    (effects : LedEffects) (hhost : ∀ id, host.zones x.nodeId id = none)
    (heffects : ∀ i, effects.zone i = none) :
    ∀ es w, System.run (zoneWorld x) ⟨host, [], server, effects, []⟩ es = some w →
      w.line = [] →
      (ZonesAgree x w ↔ ∀ id b, standing w.calls id = some b → Fits id b) := by
  have hstart : ZonesKept x ⟨host, [], server, effects, []⟩ := by
    refine ⟨hhost, by simp, [], [], rfl, .nil, fun i hi => ?_⟩
    rw [heffects]
    exact .none
  intro es w hrun hline
  exact (System.run_induction (ZonesKept x) zonesKept_step es _ w hstart hrun).agree_iff hline

/-- A host with one connected node, called "lamp". -/
def lampHost : ApiHost :=
  ⟨⟨[⟨0, .str "lamp", true, .dict [], 0⟩], List.nodup_singleton _⟩, ⟨true, []⟩, fun _ _ => none⟩

/-- Before the first call. -/
def lampWorld : ZoneWorld :=
  ⟨lampHost, [], GattServer.start, ledEffectsInit LedEffects.start, []⟩

/-- A red zone with the id 2. -/
def secondZone : LedZoneBody := ⟨2, 0, 0, 4, 0, [255, 0, 0], [0, 0, 0], 255, 128, ""⟩

theorem zones_agree_iff_lamp :
    ∃ w, System.run (zoneWorld ⟨0, ⟨false, none, crc32⟩⟩) lampWorld
        [.set "lamp" secondZone, .deliver (fun _ => 0) noOutcomes] = some w ∧
      ZonesAgree ⟨0, ⟨false, none, crc32⟩⟩ w := by
  have hends : ∃ w, System.run (zoneWorld ⟨0, ⟨false, none, crc32⟩⟩) lampWorld
      [.set "lamp" secondZone, .deliver (fun _ => 0) noOutcomes] = some w ∧ w.line = [] ∧
      w.calls = [(2, some secondZone)] := ⟨_, rfl, rfl, rfl⟩
  obtain ⟨w, hrun, hline, hcalls⟩ := hends
  refine ⟨w, hrun, (zones_agree_iff ⟨0, ⟨false, none, crc32⟩⟩ lampHost GattServer.start
    (ledEffectsInit LedEffects.start) (fun _ => rfl) (LedEffects.zone_init _) _ w hrun
      hline).mpr ?_⟩
  intro id b hb
  rw [hcalls, standing, replay_cons, replay_nil, Function.update_apply] at hb
  split at hb
  · next hid =>
      cases hb
      exact ⟨by rw [hid]; decide, rfl, rfl⟩
  · cases hb

/-- A red zone with the id 9. -/
def ninthZone : LedZoneBody := ⟨9, 0, 0, 4, 0, [255, 0, 0], [0, 0, 0], 255, 128, ""⟩

/-- The host records it, and the node does not take it. -/
theorem ninthZone_not_agrees :
    ∃ w, System.run (zoneWorld ⟨0, ⟨false, none, crc32⟩⟩) lampWorld
        [.set "lamp" ninthZone, .deliver (fun _ => 0) noOutcomes] = some w ∧
      w.line = [] ∧ ¬ ZonesAgree ⟨0, ⟨false, none, crc32⟩⟩ w := by
  refine ⟨_, rfl, rfl, fun hagree => ?_⟩
  have hrel := hagree 9
  cases hrel

end Klippylink
