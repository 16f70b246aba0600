import Klippylink.Lib.KeyedTable
import Klippylink.Router.Mirror

/-!
# The connection table as a finite map

`s_conns` is an array of records that move when one of them is freed.  What it is for is a
finite map from connection ids to records: `CONNECT` enters a new record while there are fewer
than `MAX_CONNS`, `SEARCH_CMPL` writes what was discovered into the record of its connection,
`DISCONNECT` removes the record of its connection.  `connTable_refines` says that every run of
the router follows that map, and what the record of a connection is in terms of the events of
the run: it was created by a `CONNECT` that was admitted, and holds what was discovered for the
connection since.

## Main definitions

* `ConnMap`, `ConnMap.step` — the finite map, and what an event does to it.
* `discoverAll` — a record after some searches.
* `Recorded` — the record of a connection in terms of the events of a run.
-/

namespace Klippylink

open Lib

/-- The record `alloc_conn` fills in. -/
def createdConn (connId gattcIf : UInt16) : GattcConn :=
  ⟨connId, gattcIf, 0, 0, 0, false, false, false⟩

theorem allocConn_eq (t : ConnTable) (connId gattcIf : UInt16) :
    allocConn t connId gattcIf = t.push (createdConn connId gattcIf) := rfl

/-! ## The map -/

/-- The records of the connections, by connection id. -/
abbrev ConnMap := Finmap fun _ : UInt16 => GattcConn

/-- What an event does to the map; `none` when an id in use is given again, or a search
runs out of memory. -/
def ConnMap.step : System ConnMap Event
  | m, .gattc (.connect gattcIf connId _) =>
      if connId ∈ m then none
      else if m.keys.card < maxConns then some (m.insert connId (createdConn connId gattcIf))
      else some m
  | m, .gattc (.searchCmpl _ connId db) =>
      match m.lookup connId with
      | none => some m
      | some c =>
          match discover db c with
          | .error _ => none
          | .ok c => some (m.insert connId c)
  | m, .gattc (.disconnect connId) => some (m.erase connId)
  | m, _ => some m

/-- What an event discovers for a connection. -/
def Event.discoveries (connId : UInt16) : Event → List GattDb
  | .gattc (.searchCmpl _ c db) => if c = connId then [db] else []
  | _ => []

/-- The event neither starts nor ends the connection. -/
def Event.Keeps (connId : UInt16) (e : Event) : Prop :=
  e.connects.map Prod.fst ≠ some connId ∧ e.disconnects ≠ some connId

instance (connId : UInt16) (e : Event) : Decidable (e.Keeps connId) :=
  inferInstanceAs (Decidable (_ ∧ _))

theorem Event.keeps_of_none {e : Event} (hconnect : e.connects = none)
    (hdisconnect : e.disconnects = none) (connId : UInt16) : e.Keeps connId := by
  simp [Event.Keeps, hconnect, hdisconnect]

/-- A record after some searches. -/
def discoverAll (dbs : List GattDb) (c : GattcConn) : Except Fault GattcConn :=
  dbs.foldlM (fun c db => discover db c) c

@[simp] theorem discoverAll_nil (c : GattcConn) : discoverAll [] c = .ok c := rfl

@[simp] theorem discoverAll_singleton (db : GattDb) (c : GattcConn) :
    discoverAll [db] c = discover db c := by
  simp [discoverAll]

theorem discoverAll_append (dbs dbs' : List GattDb) (c : GattcConn) :
    discoverAll (dbs ++ dbs') c = discoverAll dbs c >>= discoverAll dbs' := by
  rw [discoverAll, List.foldlM_append]
  rfl

/-- How the record of `connId` after an event comes out of the map before it. -/
def ConnMap.Follows (m : ConnMap) (e : Event) (connId : UInt16) (c : GattcConn) : Prop :=
  (∃ gattcIf bda, e = .gattc (.connect gattcIf connId bda) ∧ m.keys.card < maxConns ∧
    c = createdConn connId gattcIf) ∨
  (e.Keeps connId ∧ ∃ c₀, m.lookup connId = some c₀ ∧
    discoverAll (e.discoveries connId) c₀ = .ok c)

/-- An event that neither connects, disconnects nor discovers leaves a record as it is. -/
theorem ConnMap.follows_of_quiet {m : ConnMap} {e : Event} {connId : UInt16} {c : GattcConn}
    (hkeeps : e.Keeps connId) (hdiscover : e.discoveries connId = []) :
    m.Follows e connId c ↔ m.lookup connId = some c := by
  constructor
  · rintro (⟨gattcIf, bda, rfl, -⟩ | ⟨-, c₀, hc₀, hdisc⟩)
    · exact absurd rfl hkeeps.1
    · rw [hdiscover] at hdisc
      cases hdisc
      exact hc₀
  · intro hc
    exact Or.inr ⟨hkeeps, c, hc, by rw [hdiscover, discoverAll_nil]⟩

theorem ConnMap.lookup_connect {m m' : ConnMap} {gattcIf d : UInt16} {bda : BdAddr}
    (h : m.step (.gattc (.connect gattcIf d bda)) = some m') (connId : UInt16) (c : GattcConn) :
    m'.lookup connId = some c ↔ m.Follows (.gattc (.connect gattcIf d bda)) connId c := by
  simp only [ConnMap.step] at h
  split at h
  · cases h
  · next hnew =>
    by_cases hd : d = connId
    · subst hd
      have hnone : m.lookup d = none := Finmap.lookup_eq_none.mpr hnew
      split at h
      · next hroom =>
        cases h
        simp [Follows, hroom, hnone, eq_comm]
      · next hfull =>
        cases h
        simp [Follows, hfull, hnone]
    · rw [follows_of_quiet (by simp [Event.Keeps, Event.connects, Event.disconnects, hd]) rfl]
      split at h
      · cases h
        rw [Finmap.lookup_insert_of_ne m (Ne.symm hd)]
      · cases h
        rfl

theorem ConnMap.lookup_searchCmpl {m m' : ConnMap} {gattcIf d : UInt16} {db : GattDb}
    (h : m.step (.gattc (.searchCmpl gattcIf d db)) = some m') (connId : UInt16) (c : GattcConn) :
    m'.lookup connId = some c ↔ m.Follows (.gattc (.searchCmpl gattcIf d db)) connId c := by
  simp only [ConnMap.step] at h
  by_cases hd : d = connId
  · subst hd
    split at h
    · next hnone =>
      cases h
      simp [Follows, hnone]
    · next c₀ hc₀ =>
      split at h
      · cases h
      · next c₁ hdisc =>
        cases h
        simp [Follows, hc₀, hdisc, Event.Keeps, Event.connects, Event.disconnects,
          Event.discoveries]
  · rw [follows_of_quiet (Event.keeps_of_none rfl rfl connId)
      (by simp [Event.discoveries, hd])]
    split at h
    · cases h
      rfl
    · split at h
      · cases h
      · cases h
        rw [Finmap.lookup_insert_of_ne m (Ne.symm hd)]

theorem ConnMap.lookup_disconnect {m m' : ConnMap} {d : UInt16}
    (h : m.step (.gattc (.disconnect d)) = some m') (connId : UInt16) (c : GattcConn) :
    m'.lookup connId = some c ↔ m.Follows (.gattc (.disconnect d)) connId c := by
  cases h
  by_cases hd : d = connId
  · subst hd
    simp [Follows, Event.Keeps, Event.disconnects, Finmap.lookup_erase]
  · rw [follows_of_quiet (by simp [Event.Keeps, Event.connects, Event.disconnects, hd]) rfl,
      Finmap.lookup_erase_ne (Ne.symm hd)]

/-- **What an event does to the record of one connection.**  It is created by a `CONNECT` of
the connection while there is room; otherwise it was there before, the event is not the
connection's `DISCONNECT`, and what the event discovers for the connection is written. -/
theorem ConnMap.lookup_step {m m' : ConnMap} {e : Event} (h : m.step e = some m')
    (connId : UInt16) (c : GattcConn) : m'.lookup connId = some c ↔ m.Follows e connId c := by
  cases e with
  | gap e =>
      cases h
      rw [follows_of_quiet (Event.keeps_of_none rfl rfl connId) rfl]
  | serialRx data =>
      cases h
      rw [follows_of_quiet (Event.keeps_of_none rfl rfl connId) rfl]
  | gattc e =>
      cases e with
      | connect gattcIf d bda => exact lookup_connect h connId c
      | searchCmpl gattcIf d db => exact lookup_searchCmpl h connId c
      | disconnect d => exact lookup_disconnect h connId c
      | _ =>
          cases h
          rw [follows_of_quiet (Event.keeps_of_none rfl rfl connId) rfl]

/-! ## The table follows the map -/

/-- The table of the router holds the entries of the map. -/
abbrev Router.HasConns (r : Router) (m : ConnMap) : Prop := r.conns.Holds GattcConn.connId m

theorem Router.hasConns_connect {r : Router} {m : ConnMap} (h : r.HasConns m)
    (gattcIf connId : UInt16) (bda : BdAddr) (hnew : connId ∉ m) :
    ∃ m', m.step (.gattc (.connect gattcIf connId bda)) = some m' ∧
      (connectEvt r gattcIf connId bda).1.HasConns m' := by
  simp only [ConnMap.step, if_neg hnew]
  cases halloc : allocConn r.conns connId gattcIf with
  | none =>
      rw [allocConn_eq, h.push_eq_none] at halloc
      refine ⟨m, by rw [if_neg (by omega)], ?_⟩
      rw [connectEvt_of_none (h.push_eq_none.mpr halloc)]
      exact h
  | some conns =>
      have hroom : m.keys.card < maxConns := by
        rw [h.card_keys]
        exact (Table.push_eq_some.mp halloc).1
      refine ⟨m.insert connId (createdConn connId gattcIf), by rw [if_pos hroom], ?_⟩
      rw [connectEvt_of_some halloc]
      exact h.push halloc hnew

theorem Router.hasConns_searchCmpl {r r' : Router} {m : ConnMap} {acts : List Action}
    (h : r.HasConns m) {gattcIf connId : UInt16} {db : GattDb}
    (hcall : searchCmplEvt r gattcIf connId db = .ok (r', acts)) :
    ∃ m', m.step (.gattc (.searchCmpl gattcIf connId db)) = some m' ∧ r'.HasConns m' := by
  have hfind : findConn r.conns connId = m.lookup connId := h.find_eq connId
  rw [searchCmplEvt, hfind] at hcall
  simp only [ConnMap.step]
  cases hrec : m.lookup connId with
  | none =>
      rw [hrec] at hcall
      cases hcall
      exact ⟨m, rfl, h⟩
  | some c =>
      rw [hrec] at hcall
      obtain ⟨c', hdisc, hret⟩ := bind_eq_ok.mp hcall
      cases hret
      refine ⟨m.insert connId c', by simp only [hdisc], ?_⟩
      apply h.modifyFirst (Finmap.mem_of_lookup_eq_some hrec)
      rw [connId_discover hdisc, h.key_eq hrec]

theorem conns_notifyEvt {parse : List UInt8 → Option CJson} {r r' : Router} {n : Notification}
    {acts : List Action} (h : notifyEvt parse r n = .ok (r', acts)) : r'.conns = r.conns := by
  rw [notifyEvt] at h
  split at h
  · cases h
    rfl
  · split at h
    · cases h
      rfl
    · obtain ⟨nodes, -, hret⟩ := bind_eq_ok.mp h
      cases hret
      rfl

/-- **The simulation.**  What an event does to the table it does to the map. -/
theorem World.Sound.hasConns_step {parse : List UInt8 → Option CJson} {w w' : World} {e : Event}
    {m : ConnMap} (hs : w.Sound) (hm : w.router.HasConns m) (h : world parse w e = some w') :
    ∃ m', m.step e = some m' ∧ w'.router.HasConns m' := by
  cases e with
  | gap e =>
      cases h
      exact ⟨m, rfl, by rw [World.router_perform]; exact hm⟩
  | serialRx data =>
      cases h
      exact ⟨m, rfl, by rw [World.router_perform]; exact hm⟩
  | gattc e =>
      obtain ⟨hdeliver, r, acts, hhandler, rfl⟩ := world_gattc h
      rw [World.router_perform]
      cases e with
      | connect gattcIf connId bda =>
          have hnew : connId ∉ m := by
            rw [← Finmap.mem_keys, hm.keys_eq, List.mem_toFinset]
            exact hs.notMem_records hdeliver
          have hr : (connectEvt w.router gattcIf connId bda).1 = r :=
            congrArg Prod.fst (Except.ok.inj hhandler)
          rw [← hr]
          exact Router.hasConns_connect hm gattcIf connId bda hnew
      | searchCmpl gattcIf connId db => exact Router.hasConns_searchCmpl hm hhandler
      | disconnect connId =>
          cases hhandler
          exact ⟨_, rfl, hm.removeFirst connId⟩
      | notify n =>
          refine ⟨m, rfl, ?_⟩
          rw [Router.HasConns, conns_notifyEvt hhandler]
          exact hm
      | _ =>
          cases hhandler
          exact ⟨m, rfl, hm⟩

/-- The table holds the entries of the map in every run. -/
theorem World.hasConns_run {parse : List UInt8 → Option CJson} {es : List Event} {w : World}
    (h : (world parse).run World.start es = some w) :
    ∃ m, System.run ConnMap.step ∅ es = some m ∧ w.Sound ∧ w.router.HasConns m := by
  refine System.run_simulation (fun w m => w.Sound ∧ w.router.HasConns m) ?_ es World.start w ∅
    ⟨World.sound_start, Table.Holds.empty⟩ h
  rintro w e w' m ⟨hs, hm⟩ hstep
  obtain ⟨m', hm', hconns⟩ := hs.hasConns_step hm hstep
  exact ⟨m', hm', hs.step hstep, hconns⟩

/-! ## The history of a record -/

/-- After the events `es` the connection `connId` has the record `c`: the last `CONNECT` of
the connection was admitted, no `DISCONNECT` of it came since, and the record holds what was
discovered for it since. -/
def Recorded (parse : List UInt8 → Option CJson) (es : List Event) (connId : UInt16)
    (c : GattcConn) : Prop :=
  ∃ before gattcIf bda after v, es = before ++ .gattc (.connect gattcIf connId bda) :: after ∧
    (world parse).run World.start before = some v ∧ v.router.conns.count < maxConns ∧
    (∀ e ∈ after, e.Keeps connId) ∧
    discoverAll (after.flatMap (Event.discoveries connId)) (createdConn connId gattcIf) = .ok c

theorem recorded_snoc {parse : List UInt8 → Option CJson} {es : List Event} {v : World}
    (h : (world parse).run World.start es = some v) (e : Event) (connId : UInt16) (c : GattcConn) :
    Recorded parse (es ++ [e]) connId c ↔
      (∃ gattcIf bda, e = .gattc (.connect gattcIf connId bda) ∧
        v.router.conns.count < maxConns ∧ c = createdConn connId gattcIf) ∨
      (e.Keeps connId ∧ ∃ c₀, Recorded parse es connId c₀ ∧
        discoverAll (e.discoveries connId) c₀ = .ok c) := by
  constructor
  · rintro ⟨before, gattcIf, bda, after, u, hes, hrun, hroom, hkeeps, hdisc⟩
    rcases List.eq_nil_or_concat' after with rfl | ⟨after, e', rfl⟩
    · obtain ⟨rfl, he⟩ := List.append_inj' hes rfl
      rw [h] at hrun
      cases hrun
      cases hdisc
      exact Or.inl ⟨gattcIf, bda, List.singleton_inj.mp he, hroom, rfl⟩
    · rw [← List.cons_append, ← List.append_assoc] at hes
      obtain ⟨rfl, he⟩ := List.append_inj' hes rfl
      cases List.singleton_inj.mp he
      rw [List.flatMap_append, discoverAll_append, bind_eq_ok] at hdisc
      obtain ⟨c₀, hc₀, hlast⟩ := hdisc
      right
      have hold : ∀ e' ∈ after, e'.Keeps connId :=
        fun e' he' => hkeeps e' (List.mem_append_left _ he')
      refine ⟨hkeeps e (by simp), c₀, ?_, by simpa using hlast⟩
      exact ⟨before, gattcIf, bda, after, u, rfl, hrun, hroom, hold, hc₀⟩
  · rintro (⟨gattcIf, bda, rfl, hroom, rfl⟩ | ⟨hkeeps, c₀, hrec, hlast⟩)
    · exact ⟨es, gattcIf, bda, [], v, rfl, h, hroom, by simp, rfl⟩
    · obtain ⟨before, gattcIf, bda, after, u, rfl, hrun, hroom, hall, hdisc⟩ := hrec
      refine ⟨before, gattcIf, bda, after ++ [e], u, by simp, hrun, hroom, ?_, ?_⟩
      · intro e' he'
        rcases List.mem_append.mp he' with hold | hnew
        · exact hall e' hold
        · rw [List.mem_singleton.mp hnew]
          exact hkeeps
      · rw [List.flatMap_append, List.flatMap_singleton, discoverAll_append, hdisc]
        exact hlast

/-- **The record of a connection is that of its history.** -/
theorem findConn_eq_some_iff {parse : List UInt8 → Option CJson} {es : List Event} {w : World}
    (h : (world parse).run World.start es = some w) (connId : UInt16) (c : GattcConn) :
    findConn w.router.conns connId = some c ↔ Recorded parse es connId c := by
  induction es using List.reverseRecOn generalizing w c with
  | nil =>
      cases h
      constructor
      · intro hfind
        cases hfind
      · rintro ⟨before, gattcIf, bda, after, u, hes, -⟩
        simp at hes
  | append_singleton es e ih =>
      obtain ⟨v, hrun, hstep⟩ := System.run_snoc_eq_some.mp h
      obtain ⟨m, -, hs, hm⟩ := World.hasConns_run hrun
      obtain ⟨m', hm', hw⟩ := hs.hasConns_step hm hstep
      have hbefore : ∀ c, m.lookup connId = some c ↔ Recorded parse es connId c := by
        intro c
        rw [← ih hrun c]
        exact Eq.congr_left (hm.find_eq connId).symm
      have hafter : findConn w.router.conns connId = m'.lookup connId := hw.find_eq connId
      rw [hafter, ConnMap.lookup_step hm', recorded_snoc hrun, ConnMap.Follows, hm.card_keys]
      simp only [hbefore]

/-- **The connection table refines a finite map.**  After every run of the router the table
holds the entries of the map that follows the same events.  There are at most `MAX_CONNS`
records, with different ids, and `find_conn` finds exactly what the history of the connection
says.  Freeing a connection closes the gap and leaves the records of the others as they are. -/
theorem connTable_refines (parse : List UInt8 → Option CJson) (es : List Event) (w : World)
    (h : (world parse).run World.start es = some w) :
    (∃ m, System.run ConnMap.step ∅ es = some m ∧ w.router.conns.count = m.keys.card ∧
      ∀ connId, findConn w.router.conns connId = m.lookup connId) ∧
    w.router.conns.count ≤ maxConns ∧ w.records.Nodup ∧
    (∀ connId c, findConn w.router.conns connId = some c ↔ Recorded parse es connId c) ∧
    ∀ connId,
      (freeConn w.router.conns connId).rows =
        w.router.conns.rows.filter (fun c => c.connId ≠ connId) ∧
      findConn (freeConn w.router.conns connId) connId = none ∧
      ∀ d ≠ connId, findConn (freeConn w.router.conns connId) d = findConn w.router.conns d := by
  obtain ⟨m, hrun, hs, hm⟩ := World.hasConns_run h
  refine ⟨⟨m, hrun, hm.card_keys.symm, hm.find_eq⟩, w.router.conns.fits, hs.records,
    findConn_eq_some_iff h, fun connId => ⟨?_, ?_, ?_⟩⟩
  · exact Table.rows_removeFirst_key hm.keyed connId
  · have hfreed := (hm.removeFirst connId).find_eq connId
    rw [Finmap.lookup_erase] at hfreed
    exact hfreed
  · intro d hd
    have hfreed := (hm.removeFirst connId).find_eq d
    rw [Finmap.lookup_erase_ne hd, ← hm.find_eq d] at hfreed
    exact hfreed

/-- What a node with all its attributes answers to a search. -/
def fullDb (handle : UInt16) : GattDb :=
  ⟨.found handle, .found (handle + 1), .found (handle + 2)⟩

/-- Nine connections, the last of which is not admitted; the second one ends, its id is given
to another node, and is searched. -/
def reusedIdRun : List Event :=
  ((List.range 9).map fun n => connectTo (UInt16.ofNat n) (peer (UInt8.ofNat n))) ++
    [disconnectOf 1, disconnectOf 77, connectTo 1 (peer 20), .gattc (.searchCmpl 3 1 (fullDb 40)),
      .gattc (.searchCmpl 3 7 (fullDb 60)), disconnectOf 0]

/-- The record of the reused id is the new connection's, after it moved twice. -/
theorem connTable_refines_reusedId :
    ∃ w, (world noJson).run World.start reusedIdRun = some w ∧
      w.records = [2, 3, 4, 5, 6, 7, 1] ∧ w.records.Nodup ∧
      Recorded noJson reusedIdRun 1 ⟨1, 3, 40, 41, 42, true, true, true⟩ ∧
      findConn (freeConn w.router.conns 2) 1 = some ⟨1, 3, 40, 41, 42, true, true, true⟩ := by
  have hend : ((world noJson).run World.start reusedIdRun).map
      (fun w => (w.records, findConn w.router.conns 1)) =
        some ([2, 3, 4, 5, 6, 7, 1], some ⟨1, 3, 40, 41, 42, true, true, true⟩) := by decide
  obtain ⟨w, hrun, hw⟩ := Option.map_eq_some_iff.mp hend
  obtain ⟨hrecords, hfind⟩ := Prod.mk.inj hw
  obtain ⟨-, -, hnodup, hhistory, hfree⟩ := connTable_refines noJson reusedIdRun w hrun
  refine ⟨w, hrun, hrecords, hnodup, (hhistory 1 _).mp hfind, ?_⟩
  rw [(hfree 2).2.2 1 (by decide), hfind]

end Klippylink
