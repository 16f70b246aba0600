import Klippylink.Bridge.Zones
import Klippylink.Host.ApiServer

/-!
# The zones that the host lists

A zone is listed when it has been recorded, and recorded when it has been sent.  The bytes that
the port has taken say for themselves which zones a node was told to set and to clear; the
listing is what they say, zone by zone and in the same order.

## Main definitions

* `zonesSent` — the zones of a node, by the frames.
* `apiServer` — requests, packets of nodes and the sends of other modules.
* `listing_is_sent` — a listing has the zones of the frames.
-/

namespace Klippylink

open Lib

/-- The zones after one more packet: LED_ZONE_SET writes its payload under its first byte, and
LED_ZONE_CLR removes that. -/
def zonePacket (zones : Dict UInt8 (List UInt8)) : KlipPacket → Dict UInt8 (List UInt8)
  | ⟨_, []⟩ => zones
  | ⟨command, zoneId :: rest⟩ =>
      if command = KlipCommand.ledZoneSet.code then zones.put zoneId (zoneId :: rest)
      else if command = KlipCommand.ledZoneClr.code then zones.pop zoneId
      else zones

/-- The zones of a node after one more frame. -/
def zoneFrame (nodeId : UInt8) (zones : Dict UInt8 (List UInt8)) :
    List UInt8 → Dict UInt8 (List UInt8)
  | [] => zones
  | n :: packet =>
      if n ≠ nodeId then zones else (KlipPacket.decode packet).elim zones (zonePacket zones)

/-- The zones of a node, by the frames. -/
def zonesSent (sent : List (List UInt8)) (nodeId : UInt8) : Dict UInt8 (List UInt8) :=
  sent.foldl (zoneFrame nodeId) Dict.empty

/-- What can happen at the host. -/
inductive ServerEvent (F : Type)
  /-- A request, and whether the port takes its frame. -/
  | call (writes : Bool) (c : ApiCall F)
  /-- A packet of a node, at time `now`. -/
  | packet (f : Frame) (now : ℕ)
  /-- Another module sends a packet, which is about no zone. -/
  | send (nodeId : UInt8) (pkt : KlipPacket)
  /-- The port opens or closes. -/
  | port (isOpen : Bool)

/-- The packet is about a zone. -/
def KlipPacket.AboutZone (pkt : KlipPacket) : Prop :=
  pkt.command = KlipCommand.ledZoneSet.code ∨ pkt.command = KlipCommand.ledZoneClr.code

instance (pkt : KlipPacket) : Decidable pkt.AboutZone := inferInstanceAs (Decidable (_ ∨ _))

theorem not_aboutZone {c : KlipCommand} (hset : c ≠ .ledZoneSet) (hclr : c ≠ .ledZoneClr)
    {payload : List UInt8} : ¬ KlipPacket.AboutZone ⟨c.code, payload⟩ := by
  intro h
  rcases h with h | h
  · exact hset (KlipCommand.code_inj.mp h)
  · exact hclr (KlipCommand.code_inj.mp h)

/-- The host at work: requests are served one after another. -/
def apiServer {F : Type} (packFloat : F → Option UInt32) (loads : List UInt8 → Option PyValue) :
    System ApiServer (ServerEvent F) := fun s e =>
  match e with
  | .call writes c => some (s.call writes packFloat c).2
  | .packet f now => some { s with manager := s.manager.onPacket loads now f }
  | .send nodeId pkt =>
      if pkt.AboutZone then none
      else
        match s.state.host.sendPacket nodeId pkt with
        | .error _ => none
        | .ok bytes => some { s with sent := s.sent ++ [bytes] }
  | .port isOpen => some { s with transport := { s.transport with isOpen := isOpen } }

/-- Nothing is known and nothing was sent. -/
def ApiServer.start : ApiServer :=
  ⟨DeviceManager.start, ⟨false, []⟩, fun _ => Dict.empty, fun _ => {}, []⟩

/-- The entry of `led_zones` is what the payload was packed from. -/
structure ListedAs (e : ℤ × LedZone) (f : UInt8 × List UInt8) : Prop where
  key : e.1 = f.1.toNat
  zoneId : e.2.zoneId = f.1.toNat
  packs : e.2.body.pack = .ok f.2

/-- Every node has the zones of the frames. -/
def ApiServer.Lists (s : ApiServer) : Prop :=
  ∀ i, Dict.Match ListedAs (s.ledZones i) (zonesSent s.sent i)

/-! ### A frame more -/

theorem zonesSent_snoc (sent : List (List UInt8)) (frame : List UInt8) (i : UInt8) :
    zonesSent (sent ++ [frame]) i = zoneFrame i (zonesSent sent i) frame := by
  rw [zonesSent, List.foldl_append]
  rfl

/-- A frame is read as the packet that it was made of. -/
theorem zoneFrame_bytes {nodeId i : UInt8} {zones : Dict UInt8 (List UInt8)} {pkt : KlipPacket}
    (hlen : pkt.payload.length ≤ 255) :
    zoneFrame i zones (Frame.bytes ⟨nodeId, pkt⟩) =
      if nodeId ≠ i then zones else zonePacket zones pkt := by
  have hdecode := KlipPacket.decode_klipPacket pkt.command pkt.payload [] hlen
  rw [List.append_nil] at hdecode
  rw [Frame.bytes, zoneFrame, hdecode]
  rfl

theorem zonePacket_other {zones : Dict UInt8 (List UInt8)} {pkt : KlipPacket}
    (hzone : ¬ pkt.AboutZone) : zonePacket zones pkt = zones := by
  rw [KlipPacket.AboutZone, not_or] at hzone
  rcases pkt with ⟨command, _ | ⟨zoneId, rest⟩⟩
  · rfl
  · rw [zonePacket, if_neg hzone.1, if_neg hzone.2]

/-- A packet that is sent has a length that fits its byte. -/
theorem length_of_sendPacket {h : ApiHost} {nodeId : UInt8} {pkt : KlipPacket} {bytes : List UInt8}
    (hsend : h.sendPacket nodeId pkt = .ok bytes) : pkt.payload.length ≤ 255 := by
  by_contra hlong
  have hencode : pkt.encode = none := if_neg hlong
  rw [ApiHost.sendPacket, SerialTransport.sendPacket, hencode] at hsend
  cases hopen : h.transport.isOpen <;> simp [hopen] at hsend

/-- The keys of two entries that correspond are one number. -/
theorem ListedAs.key_iff {e : ℤ × LedZone} {f : UInt8 × List UInt8} (h : ListedAs e f) {n : ℤ}
    {b : UInt8} (hn : n = b.toNat) : e.1 = n ↔ f.1 = b := by
  rw [h.key, hn, Int.natCast_inj, UInt8.toNat_inj]

namespace ApiServer.Lists

variable {s : ApiServer} {nodeId : UInt8} {pkt : KlipPacket} {bytes : List UInt8}

/-- A frame more, by what its packet does to the zones of its node. -/
theorem of_sent {zones : UInt8 → Dict ℤ LedZone} (h : s.Lists)
    (hsend : s.state.host.sendPacket nodeId pkt = .ok bytes)
    (hother : ∀ i, i ≠ nodeId → zones i = s.ledZones i)
    (hnode : Dict.Match ListedAs (s.ledZones nodeId) (zonesSent s.sent nodeId) →
      Dict.Match ListedAs (zones nodeId) (zonePacket (zonesSent s.sent nodeId) pkt)) :
    ApiServer.Lists { s with sent := s.sent ++ [bytes], ledZones := zones } := by
  intro i
  have hlen := length_of_sendPacket hsend
  rw [ApiHost.sendPacket_ok hsend hlen, zonesSent_snoc, zoneFrame_bytes hlen]
  by_cases hi : nodeId = i
  · subst hi
    rw [if_neg (not_not.mpr rfl)]
    exact hnode (h nodeId)
  · rw [if_pos hi]
    simp only [hother i (Ne.symm hi)]
    exact h i

/-- A packet that is about no zone. -/
theorem sendOther (h : s.Lists) (hzone : ¬ pkt.AboutZone)
    (hsend : s.state.host.sendPacket nodeId pkt = .ok bytes) :
    ApiServer.Lists { s with sent := s.sent ++ [bytes] } :=
  of_sent h hsend (fun _ _ => rfl) fun hnode => by rwa [zonePacket_other hzone]

/-- A zone that is sent and recorded. -/
theorem setZone (h : s.Lists) (hnode : s.manager.get nodeId ≠ none) {b : LedZoneBody}
    {payload : List UInt8} (hpack : b.pack = .ok payload)
    (hsend : s.state.host.sendPacket nodeId ⟨KlipCommand.ledZoneSet.code, payload⟩ = .ok bytes) :
    (ApiServer.setZone { s with sent := s.sent ++ [bytes] } nodeId b.zone).Lists := by
  obtain ⟨zoneId, c, hpacks, rfl⟩ := pack_ok hpack
  rw [ApiServer.setZone, if_neg hnode]
  refine of_sent h hsend (fun i hi => Function.update_of_ne hi _ _) fun hmatch => ?_
  rw [Function.update_self]
  exact hmatch.put (fun e f hR => hR.key_iff hpacks.zoneId)
    ⟨hpacks.zoneId, hpacks.zoneId, hpack⟩

/-- A zone that is cleared and forgotten. -/
theorem clearZone (h : s.Lists) (hnode : s.manager.get nodeId ≠ none) {zoneId : ℤ} {id : UInt8}
    (hid : zoneId = id.toNat)
    (hsend : s.state.host.sendPacket nodeId ⟨KlipCommand.ledZoneClr.code, [id]⟩ = .ok bytes) :
    (ApiServer.clearZone { s with sent := s.sent ++ [bytes] } nodeId zoneId).Lists := by
  rw [ApiServer.clearZone, if_neg hnode]
  refine of_sent h hsend (fun i hi => Function.update_of_ne hi _ _) fun hmatch => ?_
  rw [Function.update_self]
  exact hmatch.pop fun e f hR => hR.key_iff hid

/-- A handler whose packet is about no zone, and that records none. -/
theorem performOther (h : s.Lists) (writes : Bool) (name : String) (k : Handler) (answer : PyValue)
    (hfirst : ∀ nodeId, (s.assign nodeId k.first).Lists) (hlast : k.last = none)
    (hpacket : ∀ pkt, k.packet = .ok pkt → ¬ pkt.AboutZone) :
    (s.perform writes name k answer).2.Lists := by
  refine keeps_perform h (fun node _ => hfirst node.nodeId) fun node pkt bytes _ hpkt hsend => ?_
  rw [hlast]
  exact (hfirst node.nodeId).sendOther (hpacket pkt hpkt) hsend

/-- **A request keeps the listings to the frames.** -/
theorem call {F : Type} (packFloat : F → Option UInt32) (h : s.Lists) (writes : Bool)
    (c : ApiCall F) : (s.call writes packFloat c).2.Lists := by
  cases c with
  | getInfo => exact h
  | listNodes => exact h
  | nodeStatus name => exact keeps_withNode h fun _ _ => h
  | listLedZones name => exact keeps_withNode h fun _ _ => h
  | setLedZone name body =>
      refine keeps_perform h (fun _ _ => h) fun node pkt bytes hnode hpkt hsend => ?_
      obtain ⟨payload, hpack, hret⟩ := bind_eq_ok.mp hpkt
      cases hret
      exact setZone h hnode hpack hsend
  | clearLedZone name zoneId =>
      refine keeps_perform h (fun _ _ => h) fun node pkt bytes hnode hpkt hsend => ?_
      obtain ⟨id, hid, rfl⟩ := packet_clearLedZone_ok hpkt
      exact clearZone h hnode hid hsend
  | getRadio name => exact keeps_withNode h fun _ _ => h
  | setRadio name body =>
      refine h.performOther writes name _ _ (fun _ => h) rfl fun pkt hpkt => ?_
      obtain ⟨p, c, i, -, -, -, rfl⟩ := makeRadioSet_eq_some.mp (orRaise_eq_ok.mp hpkt)
      exact not_aboutZone (by decide) (by decide)
  | enableWifi name ssid password =>
      refine h.performOther writes name _ _ (fun _ => h) rfl fun pkt hpkt => ?_
      have hpkt := orRaise_eq_ok.mp hpkt
      rw [makeWifiEnable] at hpkt
      split at hpkt
      · cases hpkt
        exact not_aboutZone (by decide) (by decide)
      · cases hpkt
  | setHeater name body =>
      refine h.performOther writes name _ _ (fun _ => h) rfl fun pkt hpkt => ?_
      obtain ⟨words, -, rfl⟩ := Option.map_eq_some_iff.mp (orRaise_eq_ok.mp hpkt)
      exact not_aboutZone (by decide) (by decide)

end ApiServer.Lists

/-- In every run the listings are those of the frames. -/
theorem ApiServer.lists_run {F : Type} {packFloat : F → Option UInt32}
    {loads : List UInt8 → Option PyValue} {s : ApiServer} {es : List (ServerEvent F)}
    (hrun : System.run (apiServer packFloat loads) ApiServer.start es = some s) : s.Lists := by
  refine System.run_induction ApiServer.Lists ?_ es ApiServer.start s
    (fun _ => Dict.match_empty) hrun
  intro s e s' h hstep
  cases e with
  | call writes c =>
      cases hstep
      exact h.call packFloat writes c
  | packet f now =>
      cases hstep
      exact h
  | send nodeId pkt =>
      rw [apiServer] at hstep
      split at hstep
      · cases hstep
      · next hzone =>
          split at hstep
          · cases hstep
          · next bytes hsend =>
              cases hstep
              exact h.sendOther hzone hsend
  | port isOpen =>
      cases hstep
      exact h

/-- What is listed is what a payload was packed from. -/
theorem ApiServer.Lists.listedAs {s : ApiServer} (h : s.Lists) {i : UInt8} {e : ℤ × LedZone}
    (he : e ∈ (s.ledZones i).entries) : ∃ f, ListedAs e f := by
  have hmatch : List.Forall₂ ListedAs (s.ledZones i).entries (zonesSent s.sent i).entries := h i
  obtain ⟨n, hn, rfl⟩ := List.mem_iff_getElem.mp he
  exact ⟨_, hmatch.get hn (hmatch.length_eq ▸ hn)⟩

/-- **A listing has the zones of the frames.**  Whatever requests, packets and sends there have
been, the zones that are listed for a node are those that the bytes for it set and did not
clear, in the order of the bytes, and each packs into the payload that was sent. -/
theorem listing_is_sent {F : Type} (packFloat : F → Option UInt32)
    (loads : List UInt8 → Option PyValue) {s : ApiServer} {es : List (ServerEvent F)}
    (hrun : System.run (apiServer packFloat loads) ApiServer.start es = some s) {name : String}
    {node : NodeInfo} (hnode : s.state.host.getNode name = .ok node) :
    ∃ zs : List LedZone, s.listLedZones name = (.ok (.list (zs.map LedZone.json)), s) ∧
      List.Forall₂ (fun z f => z.zoneId = f.1.toNat ∧ z.body.pack = .ok f.2) zs
        (zonesSent s.sent node.nodeId).entries := by
  refine ⟨(s.ledZones node.nodeId).values, ?_, ?_⟩
  · rw [ApiServer.listLedZones, ApiServer.withNode, hnode]
    rfl
  · rw [Dict.values, List.forall₂_map_left_iff]
    exact (ApiServer.lists_run hrun node.nodeId).imp fun e f h => ⟨h.zoneId, h.packs⟩

/-- The port is open, node 1 is there, and its zone 0 has been set. -/
def oneZoneRun : List (ServerEvent Unit) :=
  [.port true, .packet ⟨1, ⟨KlipCommand.ping.code, []⟩⟩ 0,
    .call true (.setLedZone "node_1" ⟨0, 0, 0, 10, 1, [255, 0, 0], [0, 0, 0], 255, 128, ""⟩)]

theorem listing_is_sent_oneZone :
    ∃ s node, System.run (apiServer (fun _ : Unit => none) fun _ => none) ApiServer.start
        oneZoneRun = some s ∧ s.state.host.getNode "node_1" = .ok node ∧
      ∃ zs : List LedZone, s.listLedZones "node_1" = (.ok (.list (zs.map LedZone.json)), s) ∧
        List.Forall₂ (fun z f => z.zoneId = f.1.toNat ∧ z.body.pack = .ok f.2) zs
          (zonesSent s.sent node.nodeId).entries :=
  ⟨_, _, rfl, rfl, @listing_is_sent Unit _ _ _ oneZoneRun rfl _ _ rfl⟩

end Klippylink
