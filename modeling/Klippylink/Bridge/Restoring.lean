import Klippylink.Bridge.Listing
import Klippylink.Node.Boot

/-!
# Zones that are applied again

A node keeps its zones in memory and loses them when it starts again; the host still has what
it has sent.  The page of the host lists the zones of a node, and "Apply all" posts them again,
all at once, as they were listed.

## Main definitions

* `ApiServer.applyAll` — the requests of "Apply all", as they are served.
* `applyAll_restores` — the node has the zones of the listing.
-/

namespace Klippylink

open Lib

/-- The requests of "Apply all": the zones in the order in which they are served, and the
answers.  The port takes every frame. -/
def ApiServer.applyAll (name : String) :
    List LedZone → ApiServer → List (Except RequestError PyValue) × ApiServer
  | [], s => ([], s)
  | z :: zs, s =>
      let a := s.setLedZone true name z.body
      let rest := applyAll name zs a.2
      (a.1 :: rest.1, rest.2)

/-! ## The host -/

section Host

variable {s : ApiServer} {name : String} {node : NodeInfo}

/-- A zone that is listed is sent again, and recorded as it was. -/
theorem setLedZone_again (hnode : s.state.host.getNode name = .ok node)
    (hopen : s.transport.isOpen = true) {z : LedZone} {zoneId : UInt8} {c : LedZoneCfg}
    (hz : (s.ledZones node.nodeId).get z.zoneId = some z)
    (hpack : z.body.pack = .ok (zoneSetPacket zoneId c).payload) :
    s.setLedZone true name z.body = (.ok okJson,
      { s with sent := s.sent ++ [Frame.bytes ⟨node.nodeId, zoneSetPacket zoneId c⟩] }) := by
  have hlen : (zoneSetPacket zoneId c).payload.length ≤ 255 := Nat.le_of_ble_eq_true rfl
  have hsend : s.state.host.sendPacket node.nodeId (zoneSetPacket zoneId c) =
      .ok (Frame.bytes ⟨node.nodeId, zoneSetPacket zoneId c⟩) := by
    obtain ⟨bytes, hbytes⟩ := (ApiHost.sendPacket_isOk (h := s.state.host) hlen).mpr hopen
    rw [hbytes, ApiHost.sendPacket_ok hbytes hlen]
  have hknown : s.manager.get node.nodeId ≠ none := ApiHost.getNode_ok hnode
  have hpacket : (Handler.setLedZone z.body).packet = .ok (zoneSetPacket zoneId c) :=
    bind_eq_ok.mpr ⟨_, hpack, rfl⟩
  have hlast : (Handler.setLedZone z.body).last = some (.setZone z) := rfl
  have hfirst : (Handler.setLedZone z.body).first = none := rfl
  simp only [ApiServer.setLedZone, ApiServer.perform, ApiServer.withNode, hnode, ApiServer.raising,
    hfirst, hpacket, ApiServer.sending, ApiServer.assign, hsend, if_true, hlast, ApiServer.setZone,
    if_neg hknown, Dict.put_of_get hz, Function.update_eq_self]

/-- The frames of some zones. -/
def zoneFrames (nodeId : UInt8) (ws : List (UInt8 × LedZoneCfg)) : List (List UInt8) :=
  ws.map fun w => Frame.bytes ⟨nodeId, zoneSetPacket w.1 w.2⟩

/-- Zones that are listed are all sent again. -/
theorem applyAll_eq {d : Dict ℤ LedZone} {zones : List LedZone} {ws : List (UInt8 × LedZoneCfg)}
    (hzones : List.Forall₂ (fun z w => d.get z.zoneId = some z ∧
      z.body.pack = .ok (zoneSetPacket w.1 w.2).payload) zones ws)
    (hnode : s.state.host.getNode name = .ok node) (hopen : s.transport.isOpen = true)
    (hd : s.ledZones node.nodeId = d) :
    s.applyAll name zones =
      (zones.map fun _ => .ok okJson, { s with sent := s.sent ++ zoneFrames node.nodeId ws }) := by
  induction hzones generalizing s with
  | nil => simp [ApiServer.applyAll, zoneFrames]
  | @cons z w zones ws hzw _ ih =>
      obtain ⟨hz, hpack⟩ := hzw
      have hnext := @ih
        { s with sent := s.sent ++ [Frame.bytes ⟨node.nodeId, zoneSetPacket w.1 w.2⟩] }
        hnode hopen hd
      simp only [ApiServer.applyAll, setLedZone_again hnode hopen (hd ▸ hz) hpack, hnext]
      simp [zoneFrames]

end Host

/-! ## The node -/

/-- The node is given these zones, one write after another. -/
def GivenZones (es : List (Written × Outcomes)) (ws : List (UInt8 × LedZoneCfg)) : Prop :=
  List.Forall₂ (fun e w => ∃ beyond, e.1 = (zoneSetPacket w.1 w.2).written beyond) es ws

/-- The zones that there are become those that are given. -/
theorem bootedNode_givenZones {build : NodeBuild} {booted : LedEffects}
    {es : List (Written × Outcomes)} {ws : List (UInt8 × LedZoneCfg)} (hes : GivenZones es ws)
    {n : BootedNode} (hrunning : n.stopped = false) (hmutex : n.effects.mutex = true) :
    ∃ n', (bootedNode build booted).run n es = some n' ∧ n'.stopped = false ∧
      ∀ i < ledMaxZones, n'.effects.zone i =
        replay n.effects.zone (ws.map fun w => (w.1.toNat, some w.2)) i := by
  induction hes generalizing n with
  | nil => exact ⟨n, rfl, hrunning, fun i _ => rfl⟩
  | @cons e w es ws he _ ih =>
      obtain ⟨beyond, he⟩ := he
      -- the step of the first write
      obtain ⟨effects, heffects, hzone, hmutex'⟩ : ∃ effects,
          [NodeCall.ledEffectsSetZone w.1 w.2].foldlM LedEffects.perform n.effects = some effects ∧
            (∀ i < ledMaxZones, effects.zone i =
              Function.update n.effects.zone w.1.toNat (some w.2) i) ∧ effects.mutex = true := by
        cases hset : ledEffectsSetZone n.effects w.1 w.2 with
        | none =>
            rw [ledEffectsSetZone, hmutex] at hset
            split at hset <;> cases hset
        | some r =>
            have hperform : [NodeCall.ledEffectsSetZone w.1 w.2].foldlM LedEffects.perform
                n.effects = some r.effects := by
              simp [LedEffects.perform, hset]
            refine ⟨r.effects, hperform, fun i hi => ?_, ?_⟩
            · rw [LedEffects.zone_setZone hset, Function.update_apply]
              simp [hi]
            · rw [mutex_foldlM_perform hperform, hmutex]
      have hstep : bootedNode build booted n e = some ⟨n.server, effects, false⟩ := by
        simp only [bootedNode, hrunning, Bool.false_eq_true, if_false, he, writeEvt_zoneSetPacket,
          heffects, List.mem_singleton, reduceCtorEq]
      obtain ⟨n', hrun, hrunning', hzones⟩ := @ih ⟨n.server, effects, false⟩ rfl hmutex'
      refine ⟨n', System.run_cons_eq_some.mpr ⟨_, hstep, hrun⟩, hrunning', fun i hi => ?_⟩
      rw [hzones i hi, List.map_cons, replay_cons]
      exact replay_congr _ (hzone i hi)

/-! ## Both -/

/-- What there is of a zone that is listed: its entry, and what it packs into. -/
structure ListedZone (d : Dict ℤ LedZone) (z : LedZone) (w : UInt8 × LedZoneCfg) : Prop where
  entry : d.get z.zoneId = some z
  packs : Packs z.body w.1 w.2
  pack : z.body.pack = .ok (zoneSetPacket w.1 w.2).payload

/-- Every entry is under its own id, and has been sent before. -/
theorem ApiServer.Lists.listedZone {s : ApiServer} (h : s.Lists) {i : UInt8} {e : ℤ × LedZone}
    (he : e ∈ (s.ledZones i).entries) :
    e.1 = e.2.zoneId ∧ ∃ w, ListedZone (s.ledZones i) e.2 w := by
  obtain ⟨f, hlisted⟩ := h.listedAs he
  obtain ⟨zoneId, c, hpacks, hpayload⟩ := pack_ok hlisted.packs
  have hkey : e.1 = e.2.zoneId := hlisted.key.trans hlisted.zoneId.symm
  exact ⟨hkey, (zoneId, c), Dict.get_eq_some.mpr (hkey ▸ he), hpacks,
    by rw [hlisted.packs, hpayload]⟩

/-- A node with the zones of a dictionary, as far as it has room, and what it had besides. -/
def HasZones (d : Dict ℤ LedZone) (before after : ℕ → Option LedZoneCfg) : Prop :=
  ∀ id : UInt8, id.toNat < ledMaxZones →
    match d.get id.toNat with
    | some z => ∃ c, after id.toNat = some c ∧ Packs z.body id c
    | none => after id.toNat = before id.toNat

theorem hasZones_replay {d : Dict ℤ LedZone} {zones : List LedZone}
    (hperm : zones.Perm d.values) (hkeys : ∀ e ∈ d.entries, e.1 = e.2.zoneId)
    {zoneOf : LedZone → UInt8 × LedZoneCfg} (hlisted : ∀ z ∈ zones, ListedZone d z (zoneOf z))
    {before after : ℕ → Option LedZoneCfg}
    (hafter : ∀ i < ledMaxZones, after i =
      replay before ((zones.map zoneOf).map fun w => (w.1.toNat, some w.2)) i) :
    HasZones d before after := by
  intro id hid
  -- a write of `id` is that of its entry
  have hentry : ∀ z ∈ zones, (zoneOf z).1.toNat = id.toNat → d.get id.toNat = some z := by
    intro z hz heq
    have hzoneId : z.zoneId = (zoneOf z).1.toNat := (hlisted z hz).packs.zoneId
    rw [← heq, ← hzoneId]
    exact (hlisted z hz).entry
  rw [List.map_map] at hafter
  cases hget : d.get id.toNat with
  | some z =>
      have hmem : ((id.toNat : ℤ), z) ∈ d.entries := Dict.get_eq_some.mp hget
      have hz : z ∈ zones := hperm.symm.subset (List.mem_map_of_mem hmem)
      have hzoneId : z.zoneId = (zoneOf z).1.toNat := (hlisted z hz).packs.zoneId
      have hid' : (zoneOf z).1.toNat = id.toNat := by
        rw [← hkeys _ hmem] at hzoneId
        exact (Int.natCast_inj.mp hzoneId).symm
      refine ⟨(zoneOf z).2, ?_, ?_⟩
      · rw [hafter _ hid]
        refine replay_of_key before (List.mem_map.mpr ⟨z, hz, ?_⟩) fun w hw heq => ?_
        · rw [Function.comp_apply, hid']
        · obtain ⟨z', hz', rfl⟩ := List.mem_map.mp hw
          have hsame : z' = z := Option.some.inj ((hentry z' hz' heq).symm.trans hget)
          rw [hsame]
          rfl
      · have hpacks := (hlisted z hz).packs
        rw [UInt8.toNat_inj.mp hid'] at hpacks
        exact hpacks
  | none =>
      simp only
      rw [hafter _ hid]
      refine replay_of_forall_ne _ fun w hw heq => ?_
      obtain ⟨z, hz, rfl⟩ := List.mem_map.mp hw
      rw [hentry z hz heq] at hget
      cases hget

/-- **"Apply all" restores the zones of a node.**  In whatever order the requests are served,
all of them succeed, the host lists what it listed before, and a node that carries the frames
out has every zone of the listing that it has room for, as it was set, whatever it had before;
nothing else changes. -/
theorem applyAll_restores {F : Type} (packFloat : F → Option UInt32)
    (loads : List UInt8 → Option PyValue) {s : ApiServer} {es : List (ServerEvent F)}
    (hrun : System.run (apiServer packFloat loads) ApiServer.start es = some s) {name : String}
    {node : NodeInfo} (hnode : s.state.host.getNode name = .ok node)
    (hopen : s.transport.isOpen = true) {zones : List LedZone}
    (hperm : zones.Perm (s.ledZones node.nodeId).values) :
    ∃ ws : List (UInt8 × LedZoneCfg),
      s.applyAll name zones = (zones.map fun _ => .ok okJson,
        { s with sent := s.sent ++ zoneFrames node.nodeId ws }) ∧
      ∀ (build : NodeBuild) (booted : LedEffects) (n : BootedNode) (es : List (Written × Outcomes)),
        n.stopped = false → n.effects.mutex = true → GivenZones es ws →
          ∃ n', (bootedNode build booted).run n es = some n' ∧ n'.stopped = false ∧
            HasZones (s.ledZones node.nodeId) n.effects.zone n'.effects.zone := by
  have hlists := ApiServer.lists_run hrun
  have hkeys : ∀ e ∈ (s.ledZones node.nodeId).entries, e.1 = e.2.zoneId :=
    fun e he => (hlists.listedZone he).1
  have hzone : ∀ z : LedZone, ∃ w, z ∈ zones → ListedZone (s.ledZones node.nodeId) z w := by
    intro z
    by_cases hz : z ∈ zones
    · obtain ⟨e, he, rfl⟩ := List.mem_map.mp (hperm.subset hz)
      obtain ⟨w, hw⟩ := (hlists.listedZone he).2
      exact ⟨w, fun _ => hw⟩
    · exact ⟨(0, ZoneState.zero.cfg), fun h => absurd h hz⟩
  choose zoneOf hzoneOf using hzone
  have hlisted : ∀ z ∈ zones, ListedZone (s.ledZones node.nodeId) z (zoneOf z) :=
    fun z hz => hzoneOf z hz
  refine ⟨zones.map zoneOf, ?_, fun build booted n es hrunning hmutex hes => ?_⟩
  · refine applyAll_eq (d := s.ledZones node.nodeId) ?_ hnode hopen rfl
    rw [List.forall₂_map_right_iff, List.forall₂_same]
    exact fun z hz => ⟨(hlisted z hz).entry, (hlisted z hz).pack⟩
  · obtain ⟨n', hn', hrunning', hzones⟩ := bootedNode_givenZones hes hrunning hmutex
    exact ⟨n', hn', hrunning', hasZones_replay hperm hkeys hlisted hzones⟩

/-- Two zones have been set. -/
def twoZonesRun : List (ServerEvent Unit) :=
  oneZoneRun ++
    [.call true (.setLedZone "node_1" ⟨1, 0, 10, 5, 0, [0, 0, 255], [0, 0, 0], 255, 128, ""⟩)]

/-- The zones are applied in the other order, and a node that has started again gets them. -/
theorem applyAll_restores_twoZones :
    ∃ s node ws, System.run (apiServer (fun _ : Unit => none) fun _ => none) ApiServer.start
        twoZonesRun = some s ∧ s.state.host.getNode "node_1" = .ok node ∧
      (s.ledZones node.nodeId).values.length = 2 ∧
      s.applyAll "node_1" (s.ledZones node.nodeId).values.reverse =
        ((s.ledZones node.nodeId).values.reverse.map fun _ => .ok okJson,
          { s with sent := s.sent ++ zoneFrames node.nodeId ws }) ∧
      ∃ n', (bootedNode ⟨false, none, crc32⟩ (ledEffectsInit LedEffects.start)).run
          ⟨GattServer.start, ledEffectsInit LedEffects.start, false⟩
          (ws.map fun w => ((zoneSetPacket w.1 w.2).written fun _ => 0, noOutcomes)) = some n' ∧
        n'.stopped = false ∧
          HasZones (s.ledZones node.nodeId) (ledEffectsInit LedEffects.start).zone
            n'.effects.zone := by
  obtain ⟨ws, hsent, hnode⟩ := @applyAll_restores Unit (fun _ => none) (fun _ => none) _
    twoZonesRun rfl "node_1" _ rfl rfl _ (List.reverse_perm _)
  refine ⟨_, _, ws, rfl, rfl, rfl, hsent, hnode _ _ _ _ rfl rfl ?_⟩
  rw [GivenZones, List.forall₂_map_left_iff, List.forall₂_same]
  exact fun w _ => ⟨_, rfl⟩

end Klippylink
