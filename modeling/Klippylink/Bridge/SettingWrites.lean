import Klippylink.Bridge.Settings
import Klippylink.Bridge.Subscription
import Klippylink.Node.Commands
import Klippylink.Router.RoundTrip

/-!
# Settings between the router and the node

A frame becomes writes of the router to the nodes, and a setting at most one of them.  The writes
wait for the node, which carries them out in order, or are lost with the link.  What the node's
server calls for its heater is what the settings say; nothing else reaches it.

## Main definitions

* `ProperWrites` — the writes to the command characteristic are of whole packets.
* `attWrites_dispatches` — the writes of some frames.
* `orders_attWriteEvt` — the calls of a write.
* `Passes`, `passes_link` — what an event of the link does to the settings on their way.
-/

namespace Klippylink

open Lib

/-! ## The writes of the router -/

/-- The setting in a write, which is for the command characteristic. -/
def AttWrite.setting (x : Attributes) (wr : AttWrite) : Option Setting :=
  if wr.handle = x.cmd then (KlipPacket.decode wr.value).bind KlipPacket.setting else none

section Router

variable {x : Attributes} {r : Router}

/-- What is sent to a slot is the packet, if anything. -/
theorem attWrites_sendToSlot (c : UInt16) (packet : List UInt8) (node : Option Node) :
    attWrites c (sendToSlot r packet node) = [] ∨
      ∃ handle, attWrites c (sendToSlot r packet node) = [⟨handle, packet⟩] := by
  cases node with
  | none => exact .inl rfl
  | some n =>
      rw [sendToSlot, bleCentralSendToNode]
      split
      · split
        · exact .inl rfl
        · next rec _ =>
            split
            · by_cases hc : n.connId = c
              · exact .inr ⟨rec.cmdHandle, by simp [attWrites, Action.attWrite, hc]⟩
              · exact .inl (by simp [attWrites, Action.attWrite, hc])
            · exact .inl rfl
      · exact .inl rfl

theorem AttWrite.setting_eq {p : KlipPacket} (hp : p.Proper) (wr : AttWrite)
    (hvalue : wr.value = p.bytes) : wr.setting x = none ∨ wr.setting x = p.setting := by
  rw [AttWrite.setting, hvalue, hp.decode_bytes]
  split
  · exact .inr rfl
  · exact .inl rfl

/-- A frame is written to a connection as its packet, and a setting at most once. -/
theorem attWrites_dispatch {f : Frame} (hf : f.Proper) (c : UInt16) :
    (∀ wr ∈ attWrites c (r.dispatch f.dispatch), wr.value = f.packet.bytes) ∧
      ((attWrites c (r.dispatch f.dispatch)).filterMap (AttWrite.setting x)).Sublist
        f.packet.setting.toList := by
  have hslot : ∀ node, ∀ wr ∈ attWrites c (sendToSlot r f.dispatch.packet node),
      wr.value = f.packet.bytes := by
    intro node wr hwr
    rcases attWrites_sendToSlot (r := r) c f.dispatch.packet node with hnone | ⟨handle, hone⟩
    · rw [hnone] at hwr
      cases hwr
    · rw [hone] at hwr
      rw [List.mem_singleton.mp hwr]
      rfl
  rw [Router.dispatch]
  split
  · next hall =>
      have hvalues : ∀ wr ∈ attWrites c ((List.range r.nodes.count).flatMap fun i =>
          sendToSlot r f.dispatch.packet (nodeGet r.nodes i)), wr.value = f.packet.bytes := by
        intro wr hwr
        obtain ⟨a, ha, hwr⟩ := List.mem_filterMap.mp hwr
        obtain ⟨i, -, ha⟩ := List.mem_flatMap.mp ha
        exact hslot _ wr (List.mem_filterMap.mpr ⟨a, ha, hwr⟩)
      refine ⟨hvalues, ?_⟩
      -- what goes to every node sets no heater
      have hother : f.packet.setting = none :=
        KlipPacket.setting_of_ne fun hcommand => hf.single hcommand hall
      have hnone : (attWrites c ((List.range r.nodes.count).flatMap fun i =>
          sendToSlot r f.dispatch.packet (nodeGet r.nodes i))).filterMap (AttWrite.setting x) =
            [] := by
        rw [List.filterMap_eq_nil_iff]
        intro wr hwr
        rcases AttWrite.setting_eq (x := x) hf.packet wr (hvalues wr hwr) with h | h
        · exact h
        · rw [h, hother]
      rw [hnone]
      exact List.nil_sublist _
  · refine ⟨hslot _, ?_⟩
    rcases attWrites_sendToSlot (r := r) c f.dispatch.packet (nodeGet r.nodes
      f.dispatch.nodeId.toNat) with hnone | ⟨handle, hone⟩
    · rw [hnone]
      exact List.nil_sublist _
    · rw [hone]
      rcases AttWrite.setting_eq (x := x) hf.packet ⟨handle, f.dispatch.packet⟩ rfl with h | h
      · rw [List.filterMap_cons_none h]
        exact List.nil_sublist _
      · cases hset : f.packet.setting with
        | none =>
            rw [List.filterMap_cons_none (h.trans hset)]
            exact List.nil_sublist _
        | some s =>
            rw [List.filterMap_cons_some (h.trans hset)]
            exact List.Sublist.refl _

/-- Every write to the command characteristic is of a proper packet. -/
def ProperWrites (x : Attributes) (queue : List AttWrite) : Prop :=
  ∀ wr ∈ queue, wr.handle = x.cmd → ∃ p : KlipPacket, p.Proper ∧ wr.value = p.bytes

theorem ProperWrites.append {queue queue' : List AttWrite} (h : ProperWrites x queue)
    (h' : ProperWrites x queue') : ProperWrites x (queue ++ queue') := fun wr hwr =>
  (List.mem_append.mp hwr).elim (h wr) (h' wr)

/-- Frames are written one after another. -/
theorem attWrites_dispatches {done : List Frame} (hdone : ∀ f ∈ done, f.Proper) (c : UInt16) :
    ProperWrites x (attWrites c ((done.map Frame.dispatch).flatMap r.dispatch)) ∧
      ((attWrites c ((done.map Frame.dispatch).flatMap r.dispatch)).filterMap
        (AttWrite.setting x)).Sublist (done.filterMap Frame.setting) := by
  induction done with
  | nil => exact ⟨(fun wr hwr => by cases hwr), List.Sublist.slnil⟩
  | cons f done ih =>
      obtain ⟨hf, hdone⟩ := List.forall_mem_cons.mp hdone
      obtain ⟨hproper, hsub⟩ := ih hdone
      obtain ⟨hvalue, hfirst⟩ := attWrites_dispatch (x := x) (r := r) hf c
      rw [List.map_cons, List.flatMap_cons, attWrites_append, List.filterMap_append]
      constructor
      · exact ProperWrites.append (fun wr hwr _ => ⟨f.packet, hf.packet, hvalue wr hwr⟩) hproper
      · rw [settings_cons]
        exact hfirst.append hsub

end Router

/-! ## The calls of the node -/

/-- The call is about what the heater is set to. -/
def NodeCall.ordersHeater (call : NodeCall) : Bool := call.command = some .heaterSet

section Deliver

variable {x : Attributes} {build : NodeBuild} {s : GattServer} {wr : AttWrite}
  {beyond : ℕ → UInt8} {out : Outcomes}

/-- **A write sets the heater to its setting**, or does not set it. -/
theorem orders_attWriteEvt
    (hproper : wr.handle = x.cmd → ∃ p : KlipPacket, p.Proper ∧ wr.value = p.bytes) :
    (s.attWriteEvt x build wr beyond out).2.filter NodeCall.ordersHeater = [] ∨
      ∃ setting, wr.setting x = some setting ∧
        (s.attWriteEvt x build wr beyond out).2 = setting.calls := by
  rw [GattServer.attWriteEvt]
  split
  · exact .inl rfl
  · split
    · next hcmd =>
        obtain ⟨p, hp, hvalue⟩ := hproper hcmd
        rw [hvalue]
        by_cases hcommand : p.command = KlipCommand.heaterSet.code
        · obtain ⟨setting, rfl⟩ := hp.whole hcommand
          rw [Setting.packet, writeEvt_heaterSetPacket]
          cases build.variantFull with
          | false => exact .inl rfl
          | true =>
              refine .inr ⟨setting, ?_, rfl⟩
              rw [AttWrite.setting, if_pos hcmd, hvalue, hp.decode_bytes]
              exact setting.setting_packet
        · left
          rw [List.filter_eq_nil_iff]
          intro call hcall horders
          have hcode := (command_of_mem_writeEvt hcall (of_decide_eq_true horders)).2
          exact hcommand (KlipCommand.code_of_ofCode hcode).symm
    · exact .inl rfl

end Deliver

/-! ## What the link does -/

/-- The event is that bytes are read from the serial port. -/
def LinkEvent.isSerial : LinkEvent → Bool
  | .router (.serialRx _) => true
  | _ => false

/-- What the node's server calls in an event. -/
def LinkEvent.calls (x : Attributes) (build : NodeBuild) (w : NodeLink) : LinkEvent → List NodeCall
  | .deliver beyond out =>
      match w.queue with
      | [] => []
      | wr :: _ => (w.server.attWriteEvt x build wr beyond out).2
  | .nodeDisconnect => (w.server.disconnectEvt build).2
  | _ => []

section Link

variable {parse : List UInt8 → Option CJson} {x : Attributes} {build : NodeBuild}
  {w w' : NodeLink} {e : LinkEvent}

/-- A callback of the stack leaves the parser. -/
theorem rx_gattc {r r' : Router} {e : GattcEvent} {acts : List Action}
    (h : gattcEventHandler parse r e = .ok (r', acts)) : r'.rx = r.rx := by
  cases e with
  | connect gattcIf c bda =>
      have hr : r' = (connectEvt r gattcIf c bda).1 := (congrArg Prod.fst (Except.ok.inj h)).symm
      rw [hr]
      cases halloc : allocConn r.conns c gattcIf with
      | none => rw [connectEvt_of_none halloc]
      | some conns => rw [connectEvt_of_some halloc]
  | searchCmpl gattcIf c db =>
      rw [gattcEventHandler, searchCmplEvt] at h
      split at h
      · cases h
        rfl
      · obtain ⟨rec, -, hret⟩ := bind_eq_ok.mp h
        cases hret
        rfl
  | notify n =>
      rw [gattcEventHandler, notifyEvt] at h
      split at h
      · cases h
        rfl
      · split at h
        · cases h
          rfl
        · obtain ⟨nodes, -, hret⟩ := bind_eq_ok.mp h
          cases hret
          rfl
  | _ =>
      cases h
      rfl

/-- The writes of the router by itself carry no setting. -/
theorem attWrites_router {r r' : Router} {e : GattcEvent} {acts : List Action} {c : UInt16}
    (hdb : ∀ i db, e = .searchCmpl i c db → db = x.db)
    (h : gattcEventHandler parse r e = .ok (r', acts)) :
    ProperWrites x (attWrites c acts) ∧ (attWrites c acts).filterMap (AttWrite.setting x) = [] := by
  have hnone : attWrites c acts = [] → ProperWrites x (attWrites c acts) ∧
      (attWrites c acts).filterMap (AttWrite.setting x) = [] := by
    intro hnil
    rw [hnil]
    exact ⟨(fun wr hwr => by cases hwr), rfl⟩
  cases e with
  | searchCmpl gattcIf d db =>
      obtain ⟨hnothing, hasks⟩ := attWrites_searchCmpl h c
      by_cases hto : findConn r.conns c = none ∨ d ≠ c
      · exact hnone (hnothing hto)
      · obtain ⟨hsome, hd⟩ := not_or.mp hto
        have hd := not_not.mp hd
        subst hd
        rw [hasks x rfl (hdb gattcIf db rfl) hsome]
        let req : KlipPacket := ⟨KlipCommand.deviceInfoReq.code, []⟩
        have hreq : req.command ≠ KlipCommand.heaterSet.code := by decide
        have hproper : req.Proper := ⟨Nat.zero_le _, fun heq => absurd heq hreq⟩
        have henable : AttWrite.setting x x.enable = none := if_neg (Ne.symm x.cmd_ne_cccd)
        have hask : AttWrite.setting x ⟨x.cmd, bareHeader .deviceInfoReq⟩ = none := by
          rcases AttWrite.setting_eq (x := x) hproper ⟨x.cmd, req.bytes⟩ rfl with h | h
          · exact h
          · exact h.trans (KlipPacket.setting_of_ne hreq)
        constructor
        · intro wr hwr hcmd
          rcases List.mem_pair.mp hwr with rfl | rfl
          · exact absurd hcmd.symm x.cmd_ne_cccd
          · exact ⟨req, hproper, rfl⟩
        · rw [List.filterMap_cons_none henable, List.filterMap_cons_none hask]
          rfl
  | _ => exact hnone (attWrites_gattc (fun i d db heq => by cases heq) h c)

/-- Only reading from the line moves the parser. -/
theorem rx_other {v v' : World} {e : Event} {acts : List Action} (he : ∀ data, e ≠ .serialRx data)
    (hstep : v.step parse e = some (v', acts)) : v'.router.rx = v.router.rx := by
  cases e with
  | gap e =>
      cases hstep
      rw [World.router_perform]
  | serialRx data => exact absurd rfl (he data)
  | gattc e =>
      obtain ⟨-, r, acts', hhandler, rfl⟩ := world_gattc (world_eq_some.mpr ⟨acts, hstep⟩)
      rw [World.router_perform]
      exact rx_gattc hhandler

/-- The other events of the router write no settings. -/
theorem attWrites_other {v v' : World} {e : Event} {acts : List Action} {c : UInt16}
    (he : ∀ data, e ≠ .serialRx data) (hdb : ∀ i db, e = .gattc (.searchCmpl i c db) → db = x.db)
    (hstep : v.step parse e = some (v', acts)) :
    ProperWrites x (attWrites c acts) ∧ (attWrites c acts).filterMap (AttWrite.setting x) = [] := by
  cases e with
  | gap e =>
      cases hstep
      have hnone : attWrites c (gapEventHandler v.router e) = [] := by
        cases e with
        | scanResult res adv bda addrType =>
            rw [gapEventHandler]
            split <;> rfl
        | _ => rfl
      rw [hnone]
      exact ⟨(fun wr hwr => by cases hwr), rfl⟩
  | serialRx data => exact absurd rfl (he data)
  | gattc e =>
      simp only [World.step] at hstep
      split at hstep
      · split at hstep
        · cases hstep
        · next r acts' hhandler =>
            cases hstep
            exact attWrites_router (fun i db heq => hdb i db (congrArg Event.gattc heq)) hhandler
      · cases hstep

/-- What is on its way to the heater: the next setting is carried out, or some are lost. -/
def Passes (x : Attributes) (queue queue' : List AttWrite) (calls : List NodeCall) : Prop :=
  (calls.filter NodeCall.ordersHeater = [] ∧
      (queue'.filterMap (AttWrite.setting x)).Sublist (queue.filterMap (AttWrite.setting x))) ∨
    ∃ s : Setting, calls = s.calls ∧
      (s :: queue'.filterMap (AttWrite.setting x)).Sublist (queue.filterMap (AttWrite.setting x))

/-- The node takes the next write. -/
theorem passes_deliver {s : GattServer} {wr : AttWrite} {rest queue' : List AttWrite}
    {beyond : ℕ → UInt8} {out : Outcomes} (hproper : ProperWrites x (wr :: rest))
    (hrest : (queue'.filterMap (AttWrite.setting x)).Sublist
      (rest.filterMap (AttWrite.setting x))) :
    Passes x (wr :: rest) queue' (s.attWriteEvt x build wr beyond out).2 := by
  rcases @orders_attWriteEvt x build s wr beyond out (hproper wr (List.mem_cons_self ..)) with
    hnone | ⟨setting, hset, hcalls⟩
  · refine .inl ⟨hnone, hrest.trans ?_⟩
    exact (List.sublist_cons_self wr rest).filterMap (AttWrite.setting x)
  · refine .inr ⟨setting, hcalls, ?_⟩
    rw [List.filterMap_cons_some hset]
    exact hrest.cons_cons setting

/-- **An event of the link** that reads nothing from the line. -/
theorem passes_link (he : e.isSerial = false) (hproper : ProperWrites x w.queue)
    (hstep : nodeLink parse x build w e = some w') :
    w'.world.router.rx = w.world.router.rx ∧ ProperWrites x w'.queue ∧
      Passes x w.queue w'.queue (e.calls x build w) := by
  have hempty : ProperWrites x [] := fun wr hwr => by cases hwr
  have hlost : Passes x w.queue [] [] := .inl ⟨rfl, List.nil_sublist _⟩
  cases e with
  | up c =>
      simp only [nodeLink] at hstep
      split at hstep
      · cases hstep
        exact ⟨rfl, hempty, hlost⟩
      · cases hstep
  | down =>
      simp only [nodeLink] at hstep
      split at hstep
      · cases hstep
      · cases hstep
        exact ⟨rfl, hempty, hlost⟩
  | router e =>
      simp only [nodeLink] at hstep
      split at hstep
      · next hallows =>
          obtain ⟨⟨world', acts⟩, hworld, rfl⟩ := Option.map_eq_some_iff.mp hstep
          have hnoSerial : ∀ data, e ≠ .serialRx data := by
            rintro data rfl
            cases he
          refine ⟨rx_other hnoSerial hworld, ?_⟩
          cases hup : w.up with
          | none => exact ⟨hempty, hlost⟩
          | some c =>
              have hdb : ∀ i db, e = .gattc (.searchCmpl i c db) → db = x.db := by
                rintro i db rfl
                exact hallows hup
              obtain ⟨hwrites, hnone⟩ := attWrites_other hnoSerial hdb hworld
              refine ⟨hproper.append hwrites, .inl ⟨rfl, ?_⟩⟩
              simp only [Option.elim, List.filterMap_append, hnone, List.append_nil]
              exact List.Sublist.refl _
      · cases hstep
  | nodeConnect k =>
      simp only [nodeLink] at hstep
      split at hstep
      · cases hstep
        exact ⟨rfl, hproper, .inl ⟨rfl, List.Sublist.refl _⟩⟩
      · cases hstep
  | nodeDisconnect =>
      simp only [nodeLink] at hstep
      split at hstep
      · cases hstep
        refine ⟨rfl, hproper, .inl ⟨?_, List.Sublist.refl _⟩⟩
        simp only [LinkEvent.calls, GattServer.disconnectEvt]
        cases build.variantFull <;> rfl
      · cases hstep
  | deliver beyond out =>
      simp only [nodeLink] at hstep
      split at hstep
      · cases hqueue : w.queue with
        | nil =>
            rw [hqueue] at hstep
            cases hstep
        | cons wr rest =>
            rw [hqueue] at hproper
            simp only [hqueue] at hstep
            simp only [LinkEvent.calls, hqueue]
            split at hstep
            · cases hstep
              exact ⟨rfl, hempty, passes_deliver hproper (List.nil_sublist _)⟩
            · cases hstep
              exact ⟨rfl, fun wr' hwr' => hproper wr' (List.mem_cons_of_mem _ hwr'),
                passes_deliver hproper (List.Sublist.refl _)⟩
      · cases hstep

end Link

end Klippylink
