import Klippylink.Host.Names
import Klippylink.Klipper.Extension

/-!
# The requests of the Klipper extension

What the routes make of a path and a body, whatever is in the names that the path was put
together from.  A GET changes nothing, and what it returns has no state of an endstop; of the
bodies that the extension posts only a heater's is taken.

## Main definitions

* `NodeAnswer` — what a GET may return.
* `get_answer`, `queryEndstop_eq` — a GET.
* `SendsFrame`, `setNeopixel_eq`, `postHeater_sends` — a POST.
-/

namespace Klippylink

open Lib

/-- The value is a dictionary with the key. -/
def PyValue.HasKey (v : PyValue) (key : String) : Prop :=
  ∃ items, v = .dict items ∧ key ∈ items.map Prod.fst

/-- A key that is not there gives the default. -/
theorem PyValue.get_of_not_hasKey {v d u : PyValue} {key : String} (h : ¬ v.HasKey key)
    (hget : v.get key d = some u) : u = d := by
  cases v with
  | dict items =>
      have hfind : items.find? (fun p => p.1 = key) = Option.none := by
        rw [List.find?_eq_none]
        intro p hp heq
        exact h ⟨items, rfl, List.mem_map.mpr ⟨p, hp, by simpa using heq⟩⟩
      rw [PyValue.get, hfind] at hget
      cases hget
      rfl
  | _ => cases hget

/-- What a key gives is in the dictionary, or the default. -/
theorem PyValue.get_eq_some {v d u : PyValue} {key : String} (hget : v.get key d = some u) :
    u = d ∨ ∃ items, v = .dict items ∧ (key, u) ∈ items := by
  cases v with
  | dict items =>
      rw [PyValue.get] at hget
      cases hfind : items.find? (fun p => p.1 = key) with
      | none =>
          rw [hfind] at hget
          cases hget
          exact .inl rfl
      | some p =>
          rw [hfind] at hget
          cases hget
          have hkey : p.1 = key := by simpa using List.find?_some hfind
          exact .inr ⟨items, rfl, hkey ▸ List.mem_of_find?_eq_some hfind⟩
  | _ => cases hget

/-! ## What a GET returns -/

/-- The calls that read. -/
def ApiCall.IsGet {F : Type} : ApiCall F → Prop
  | getInfo | listNodes | nodeStatus _ | listLedZones _ | getRadio _ => True
  | _ => False

theorem isGet_of_getRoute {F : Type} {segs : List String} {c : ApiCall F}
    (h : getRoute segs = some c) : c.IsGet := by
  have hnamed : ∀ {name : String} {c' : ApiCall F}, c'.IsGet → named name c' = some c →
      c.IsGet := by
    intro name c' hget hnamed
    rw [named] at hnamed
    split at hnamed
    · cases hnamed
    · cases hnamed
      exact hget
  unfold getRoute at h
  split at h
  · cases h
    trivial
  · cases h
    trivial
  · exact hnamed (by trivial) h
  · exact hnamed (by trivial) h
  · exact hnamed (by trivial) h
  · cases h

/-- What a GET may return: nothing about an endstop, and the capabilities of a node or
none. -/
def NodeAnswer (s : ApiServer) (v : PyValue) : Prop :=
  ¬ v.HasKey "triggered" ∧
    (¬ v.HasKey "capabilities" ∨
      ∃ node ∈ s.manager.nodes, ∀ d, v.get "capabilities" d = some node.capabilities)

section Get

variable {F : Type} {http : Http F} (floats : PyFloat F) (s : ApiServer) (reach : Reach)

/-- A dictionary whose keys are all others. -/
theorem not_hasKey {items : List (String × PyValue)} {key : String}
    (h : key ∉ items.map Prod.fst) : ¬ (PyValue.dict items).HasKey key := by
  rintro ⟨items', heq, hmem⟩
  cases heq
  exact h hmem

theorem not_hasKey_list {items : List PyValue} {key : String} :
    ¬ (PyValue.list items).HasKey key := by
  rintro ⟨items', heq, -⟩
  cases heq

/-- A call that reads. -/
theorem call_isGet {c : ApiCall F} (h : c.IsGet) (writes : Bool) :
    (s.call writes floats.bits c).2 = s ∧
      ∀ v, (s.call writes floats.bits c).1 = .ok v → NodeAnswer s v := by
  have hnode : ∀ (name : String) (answer : NodeInfo → PyValue),
      (∀ node ∈ s.manager.nodes, NodeAnswer s (answer node)) →
        (s.withNode name fun node => (.ok (answer node), s)).2 = s ∧
          ∀ v, (s.withNode name fun node => (.ok (answer node), s)).1 = .ok v → NodeAnswer s v := by
    intro name answer hanswer
    rw [ApiServer.withNode]
    cases hget : s.state.host.getNode name with
    | error e => exact ⟨rfl, fun v hv => by cases hv⟩
    | ok node =>
        refine ⟨rfl, fun v hv => ?_⟩
        cases hv
        exact hanswer node (List.mem_of_find?_eq_some (DeviceManager.getNode_eq_ok.mp hget).1)
  cases c with
  | getInfo =>
      refine ⟨rfl, fun v hv => ?_⟩
      cases hv
      exact ⟨not_hasKey (by simp), .inl (not_hasKey (by simp))⟩
  | listNodes =>
      refine ⟨rfl, fun v hv => ?_⟩
      cases hv
      exact ⟨not_hasKey_list, .inl not_hasKey_list⟩
  | nodeStatus name =>
      exact hnode name _ fun node hmem =>
        ⟨not_hasKey (by simp), .inr ⟨node, hmem, fun d => rfl⟩⟩
  | listLedZones name => exact hnode name _ fun _ _ => ⟨not_hasKey_list, .inl not_hasKey_list⟩
  | getRadio name =>
      exact hnode name _ fun _ _ => ⟨not_hasKey (by simp), .inl (not_hasKey (by simp))⟩
  | _ => exact h.elim

/-- **A GET leaves the server as it is.** -/
theorem get_answer (hhttp : http.Lawful) (path : String) :
    (s.urlopen http floats reach (.get path)).2 = s ∧
      ∀ v, (s.urlopen http floats reach (.get path)).1 = some v → NodeAnswer s v := by
  have hserve : ∀ segs, (s.serve http floats reach.writes segs (.get path)).2 = s ∧
      ∀ v, (s.serve http floats reach.writes segs (.get path)).1.toOption = some v →
        NodeAnswer s v := by
    intro segs
    rw [ApiServer.serve]
    cases hroute : getRoute segs with
    | some c =>
        have hcall := call_isGet floats s (isGet_of_getRoute hroute) reach.writes
        refine ⟨hcall.1, fun v hv => ?_⟩
        cases hresult : (s.call reach.writes floats.bits c).1 with
        | error e => simp [hresult, Except.mapError, Except.toOption] at hv
        | ok u =>
            simp only [hresult, Except.mapError, Except.toOption, Option.some.injEq] at hv
            exact hcall.2 v (hv ▸ hresult)
    | none =>
        cases hfile : http.file segs with
        | none => exact ⟨rfl, fun v hv => by cases hv⟩
        | some json =>
            refine ⟨rfl, fun v hv => ?_⟩
            cases hv
            refine ⟨?_, .inl ?_⟩
            · rintro ⟨items, rfl, hmem⟩
              exact (hhttp.file segs items hfile).1 hmem
            · rintro ⟨items, rfl, hmem⟩
              exact (hhttp.file segs items hfile).2 hmem
  rw [ApiServer.urlopen]
  cases http.target (HttpRequest.get path : HttpRequest F).path with
  | none => exact ⟨rfl, fun v hv => by cases hv⟩
  | some segs =>
      cases harrives : reach.arrives with
      | false => exact ⟨rfl, fun v hv => by cases hv⟩
      | true =>
          refine ⟨(hserve segs).1, fun v hv => ?_⟩
          cases hreturns : reach.returns with
          | false => simp [hreturns] at hv
          | true =>
              simp only [hreturns, if_true] at hv
              exact (hserve segs).2 v hv

/-- No state of an endstop comes back. -/
theorem queryEndstop_eq (hhttp : http.Lawful) (node endstop : String) :
    (s.queryEndstop http floats reach node endstop).2 = s ∧
      ((s.queryEndstop http floats reach node endstop).1 = .none ∨
        (s.queryEndstop http floats reach node endstop).1 = .bool false) := by
  have hget := get_answer floats s reach hhttp ("/api/nodes/" ++ node ++ "/endstops/" ++ endstop)
  rw [ApiServer.queryEndstop]
  cases hdata : (s.urlopen http floats reach
      (.get ("/api/nodes/" ++ node ++ "/endstops/" ++ endstop))).1 with
  | none => exact ⟨hget.1, .inl rfl⟩
  | some data =>
      cases hstate : data.get "triggered" (.bool false) with
      | none => simp [hstate, hget.1]
      | some state =>
          have hfalse := PyValue.get_of_not_hasKey (hget.2 data hdata).1 hstate
          simp [hstate, hget.1, hfalse]

/-- A poll of an endstop leaves the server as it is, -/
theorem poll_server (hhttp : http.Lawful) (p : Printer F) (e : KlippylinkEndstop) :
    (e.poll http floats reach p s).2 = s := by
  rw [KlippylinkEndstop.poll]
  split
  · exact (queryEndstop_eq floats s reach hhttp e.nodeName e.endstopName).1
  · rfl

/-- and brings no trigger. -/
theorem poll_triggered (hhttp : http.Lawful) (p : Printer F) (e : KlippylinkEndstop)
    (he : e.triggered = .bool false) :
    (e.poll http floats reach p s).1.triggered = .bool false := by
  have hquery := queryEndstop_eq floats s reach hhttp e.nodeName e.endstopName
  rw [KlippylinkEndstop.poll]
  split
  · rcases hquery.2 with hnone | hfalse
    · simp [hnone, PyValue.isNone, he]
    · simp [hfalse, PyValue.isNone]
  · exact he

end Get

/-! ## What a POST sends -/

/-- What a POST can reach: the heater, or a handler that asks for more. -/
theorem postRoute_cases {F : Type} {http : Http F} {body : Body F} {segs : List String}
    {c : ApiCall F} (hhttp : http.Lawful) (h : postRoute http body segs = some (some c)) :
    "zone_id" ∈ body.keys ∨ "ssid" ∈ body.keys ∨
      ∃ name b, c = .setHeater name b ∧ http.heaterBody body = some b := by
  have hnamed : ∀ {name : String} {o : Option (ApiCall F)}, named name o = some (some c) →
      o = some c := by
    intro name o hnamed
    rw [named] at hnamed
    split at hnamed
    · cases hnamed
    · exact Option.some.inj hnamed
  unfold postRoute at h
  split at h
  · obtain ⟨b, hb, -⟩ := Option.map_eq_some_iff.mp (hnamed h)
    exact .inl (hhttp.ledZoneBody body b hb)
  · obtain ⟨b, hb, -⟩ := Option.map_eq_some_iff.mp (hnamed h)
    exact .inr (.inl (hhttp.wifiBody body b hb))
  · next name =>
      obtain ⟨b, hb, rfl⟩ := Option.map_eq_some_iff.mp (hnamed h)
      exact .inr (.inr ⟨name, b, rfl, hb⟩)
  · exact nomatch hnamed h
  · cases h

/-- The server has sent one more frame, of a packet to a node that it knows. -/
def SendsFrame (s s' : ApiServer) (pkt : KlipPacket) : Prop :=
  ∃ nodeId, s.manager.get nodeId ≠ none ∧
    s' = { s with sent := s.sent ++ [Frame.bytes ⟨nodeId, pkt⟩] }

section Post

variable {F : Type} {http : Http F} (floats : PyFloat F) (s : ApiServer) (reach : Reach)

/-- A POST does nothing, or what its handler does. -/
theorem post_cases (path : String) (body : Body F) :
    (s.urlopen http floats reach (.post path body)).2 = s ∨
      ∃ segs c, postRoute http body segs = some (some c) ∧
        (s.urlopen http floats reach (.post path body)).2 =
          (s.call reach.writes floats.bits c).2 := by
  rw [ApiServer.urlopen]
  cases http.target (HttpRequest.post path body).path with
  | none => exact .inl rfl
  | some segs =>
      cases reach.arrives with
      | false => exact .inl rfl
      | true =>
          simp only [if_true, ApiServer.serve]
          cases hroute : postRoute http body segs with
          | none => exact .inl rfl
          | some o =>
              cases o with
              | none => exact .inl rfl
              | some c => exact .inr ⟨segs, c, hroute, rfl⟩

/-- No handler takes the colour of a pixel. -/
theorem setNeopixel_eq (hhttp : http.Lawful) (node strip : String) (r g b : ℤ)
    (index : Option ℤ) : s.setNeopixel http floats reach node strip r g b index = s := by
  rw [ApiServer.setNeopixel]
  rcases post_cases floats s reach _ _ with hsame | ⟨segs, c, hroute, -⟩
  · exact hsame
  · exfalso
    rcases postRoute_cases hhttp hroute with hzone | hssid | ⟨name, b, -, hbody⟩
    · cases index <;> simp [Body.keys] at hzone
    · cases index <;> simp [Body.keys] at hssid
    · have htarget := hhttp.heaterBody _ _ hbody
      cases index <;> simp [Body.keys] at htarget

/-- What `set_heater` sends is the packet of its body. -/
theorem setHeater_sends (writes : Bool) (name : String) (b : HeaterBody F) :
    (s.setHeater writes name floats.bits b).2 = s ∨
      ∃ pkt, makeHeaterSet floats.bits b.targetTemp b.kp b.ki b.kd = some pkt ∧
        SendsFrame s (s.setHeater writes name floats.bits b).2 pkt := by
  let P : ApiServer → Prop := fun s' => s' = s ∨
    ∃ pkt, makeHeaterSet floats.bits b.targetTemp b.kp b.ki b.kd = some pkt ∧ SendsFrame s s' pkt
  have hsame : P s := .inl rfl
  refine keeps_perform (P := P) hsame (fun _ _ => hsame) fun node pkt bytes hnode hpkt hsend => ?_
  rw [ApiHost.sendPacket_ok hsend (length_of_sendPacket hsend)]
  exact .inr ⟨pkt, orRaise_eq_ok.mp hpkt, node.nodeId, hnode, rfl⟩

/-- What a heater posts is sent as it is, or not at all. -/
theorem postHeater_sends (hhttp : http.Lawful) (node : String) (t p i d : F) :
    s.postHeater http floats reach node t p i d = s ∨
      ∃ pkt, makeHeaterSet floats.bits t p i d = some pkt ∧
        SendsFrame s (s.postHeater http floats reach node t p i d) pkt := by
  rw [ApiServer.postHeater]
  rcases post_cases floats s reach _ _ with hsame | ⟨segs, c, hroute, hcall⟩
  · exact .inl hsame
  · rw [hcall]
    rcases postRoute_cases hhttp hroute with hzone | hssid | ⟨name, b, rfl, hbody⟩
    · simp [Body.keys] at hzone
    · simp [Body.keys] at hssid
    · cases hhttp.floats t p i d b hbody
      exact setHeater_sends floats s reach.writes name ⟨t, p, i, d⟩

end Post

/-- No request changes the table of nodes. -/
theorem call_manager {F : Type} (packFloat : F → Option UInt32) (s : ApiServer) (writes : Bool)
    (c : ApiCall F) : (s.call writes packFloat c).2.manager = s.manager := by
  let P : ApiServer → Prop := fun s' => s'.manager = s.manager
  refine keeps_call (P := P) rfl fun name k answer _ => ?_
  refine keeps_perform (P := P) rfl (fun node _ => ?_) fun node pkt bytes _ _ _ => ?_
  · exact manager_assign s _ _
  · exact (manager_assign _ _ _).trans (manager_assign s _ _)

/-- Where the capabilities of a node come from. -/
theorem capabilities_onPacket (loads : List UInt8 → Option PyValue) (now : ℕ) (m : DeviceManager)
    (f : Frame) {node : NodeInfo} (hnode : node ∈ (m.onPacket loads now f).nodes) :
    (∃ before ∈ m.nodes, node.capabilities = before.capabilities) ∨ node.capabilities = .dict [] ∨
      (f.packet.command = KlipCommand.deviceInfoResp.code ∧
        loads f.packet.payload = some node.capabilities) := by
  have hupdate : ∀ (g : NodeInfo → NodeInfo) (hg : ∀ n, (g n).nodeId = n.nodeId),
      node ∈ (m.update f.nodeId g hg).nodes →
        ∃ before ∈ m.nodes, before = node ∨ g before = node := by
    intro g hg hmem
    obtain ⟨before, hbefore, heq⟩ := List.mem_map.mp hmem
    refine ⟨before, hbefore, ?_⟩
    split at heq
    · exact .inr heq
    · exact .inl heq
  rw [DeviceManager.onPacket] at hnode
  by_cases hping : f.packet.command = KlipCommand.ping.code
  · simp only [if_pos hping] at hnode
    split at hnode
    · rcases List.mem_append.mp hnode with hold | hnew
      · exact .inl ⟨node, hold, rfl⟩
      · rw [List.mem_singleton.mp hnew]
        exact .inr (.inl rfl)
    · obtain ⟨before, hbefore, rfl | rfl⟩ := hupdate _ _ hnode <;> exact .inl ⟨before, hbefore, rfl⟩
  · simp only [if_neg hping] at hnode
    by_cases herror : f.packet.command = KlipCommand.error.code
    · simp only [if_pos herror] at hnode
      obtain ⟨before, hbefore, rfl | rfl⟩ := hupdate _ _ hnode <;> exact .inl ⟨before, hbefore, rfl⟩
    · simp only [if_neg herror] at hnode
      by_cases hinfo : f.packet.command = KlipCommand.deviceInfoResp.code
      · simp only [if_pos hinfo] at hnode
        cases hloads : loads f.packet.payload with
        | none =>
            simp only [hloads] at hnode
            exact .inl ⟨node, hnode, rfl⟩
        | some info =>
            simp only [hloads] at hnode
            obtain ⟨before, hbefore, rfl | rfl⟩ := hupdate _ _ hnode
            · exact .inl ⟨_, hbefore, rfl⟩
            · cases info.get "name" before.name with
              | none => exact .inl ⟨before, hbefore, rfl⟩
              | some name => exact .inr (.inr ⟨hinfo, rfl⟩)
      · simp only [if_neg hinfo] at hnode
        obtain ⟨before, hbefore, rfl | rfl⟩ := hupdate _ _ hnode <;>
          exact .inl ⟨before, hbefore, rfl⟩

end Klippylink
