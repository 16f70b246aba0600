import Klippylink.Host.Api
import Klippylink.Lib.Lookup
import Klippylink.Lib.System

/-!
# Nodes by their names

A handler finds its node by the node's name: `get_node_by_name` returns the first entry of the
table that has the name, and `_get_node` asks afterwards whether that entry is connected.
Entries are never removed and names are not unique.  An entry that is not connected can
therefore stand in front of one that is, and the connected node cannot be reached.

## Main definitions

* `DeviceManager.packets` — `on_packet`, one packet after another.
* `DeviceManager.NamesReach` — every name of a connected node leads to one.
* `DeviceManager.KeepsNames` — the packet does not put a node that is not connected in front of
  a connected one of the same name.

## Main results

* `DeviceManager.along_namesReach_iff` — along any packets, the names reach exactly when every
  packet keeps them.
-/

namespace Klippylink

open Lib

namespace DeviceManager

/-- The packets that `on_packet` is called with, each with the time of its call. -/
def packets (loads : List UInt8 → Option PyValue) : System DeviceManager (Frame × ℕ) :=
  fun m e => some (m.onPacket loads e.2 e.1)

/-- For every name that a connected node has, `_get_node` returns a connected node with that
name. -/
def NamesReach (m : DeviceManager) : Prop :=
  ∀ name, (∃ n ∈ m.nodes, hasName name n = true ∧ n.connected = true) →
    ∀ h : ApiHost, h.manager = m →
      ∃ n, h.getNode name = .ok n ∧ hasName name n = true ∧ n.connected = true

/-- The entries that were made before the one of a node; all of them when it has none. -/
def ahead (m : DeviceManager) (nodeId : UInt8) : List NodeInfo :=
  m.nodes.takeWhile fun n => n.nodeId ≠ nodeId

/-- The entries of the other nodes. -/
def others (m : DeviceManager) (nodeId : UInt8) : List NodeInfo :=
  m.nodes.filter fun n => n.nodeId ≠ nodeId

/-- A connected entry of a node may have this name: the first entry ahead of it that has it, if
any, is connected. -/
def MayShow (m : DeviceManager) (nodeId : UInt8) (name : String) : Prop :=
  Led (hasName name) NodeInfo.connected (m.ahead nodeId)

/-- An entry of a node that is not connected may have this name: an entry ahead of it has it, or
no other connected node has. -/
def MayHide (m : DeviceManager) (nodeId : UInt8) (name : String) : Prop :=
  (∃ n ∈ m.ahead nodeId, hasName name n = true) ∨
    Idle (hasName name) NodeInfo.connected (m.others nodeId)

/-- An entry of a node may give this name up: the others can be reached without it. -/
def MayDrop (m : DeviceManager) (nodeId : UInt8) (name : String) : Prop :=
  Fronted (hasName name) NodeInfo.connected (m.others nodeId)

/-- A packet keeps the names, in a state of the table. -/
def KeepsNames (loads : List UInt8 → Option PyValue) (m : DeviceManager) (f : Frame) : Prop :=
  let nodeId := f.nodeId
  let pkt := f.packet
  if pkt.command = KlipCommand.ping.code then
    match m.get nodeId with
    | none => ∀ name, hasName name (newNode nodeId 0) = true → m.MayShow nodeId name
    | some n => ∀ name, hasName name n = true → m.MayShow nodeId name
  else if pkt.command = KlipCommand.error.code then
    ∀ n, m.get nodeId = some n → ∀ name, hasName name n = true → m.MayHide nodeId name
  else if pkt.command = KlipCommand.deviceInfoResp.code then
    ∀ info n newName, loads pkt.payload = some info → m.get nodeId = some n →
      info.get "name" n.name = some newName →
        ∀ name, if hasName name { n with name := newName } = true then
            if n.connected = true then m.MayShow nodeId name else m.MayHide nodeId name
          else hasName name n = true → m.MayDrop nodeId name
  else True

/-! ## Reaching a name -/

theorem getNode_eq_ok {h : ApiHost} {name : String} {n : NodeInfo} :
    h.getNode name = .ok n ↔ h.manager.getNodeByName name = some n ∧ n.connected = true := by
  rw [ApiHost.getNode]
  cases h.manager.getNodeByName name with
  | none => simp
  | some found =>
      by_cases hon : found.connected = true
      · simp only [if_pos hon, Except.ok.injEq, Option.some.injEq]
        exact ⟨fun heq => ⟨heq, heq ▸ hon⟩, And.left⟩
      · simp only [if_neg hon, Option.some.injEq, reduceCtorEq, false_iff, not_and]
        rintro rfl
        exact hon

/-- The names reach when the table is fronted for each of them. -/
theorem namesReach_iff {m : DeviceManager} :
    m.NamesReach ↔ ∀ name, Fronted (hasName name) NodeInfo.connected m.nodes := by
  refine forall_congr' fun name => imp_congr_right fun _ => ?_
  constructor
  · intro h
    obtain ⟨n, hn, _, hon⟩ := h ⟨m, ⟨false, []⟩, fun _ _ => none⟩ rfl
    exact ⟨n, (getNode_eq_ok.mp hn).1, hon⟩
  · rintro ⟨n, hn, hon⟩ h rfl
    exact ⟨n, getNode_eq_ok.mpr ⟨hn, hon⟩, List.find?_some hn, hon⟩

/-! ## Where an entry stands -/

/-- The entry of a node stands after those ahead of it, and the others around it. -/
theorem exists_around {m : DeviceManager} {nodeId : UInt8} {n : NodeInfo}
    (hn : m.get nodeId = some n) :
    ∃ b, m.nodes = m.ahead nodeId ++ n :: b ∧ m.others nodeId = m.ahead nodeId ++ b ∧
      ∀ f hf, (m.update nodeId f hf).nodes = m.ahead nodeId ++ f n :: b := by
  obtain ⟨hid, a, b, hnodes, hfront⟩ := List.find?_eq_some_iff_append.mp hn
  have hid : n.nodeId = nodeId := by simpa using hid
  have hfront : ∀ x ∈ a, x.nodeId ≠ nodeId := by simpa using hfront
  have hback : ∀ x ∈ b, x.nodeId ≠ nodeId := by
    have hdistinct := m.distinct
    rw [hnodes] at hdistinct
    simp only [List.map_append, List.map_cons, List.nodup_append, List.nodup_cons] at hdistinct
    intro x hx heq
    apply hdistinct.2.1.1
    rw [hid, ← heq]
    exact List.mem_map_of_mem hx
  have hahead : m.ahead nodeId = a := by
    rw [ahead, hnodes, List.takeWhile_append_of_pos (by simpa using hfront)]
    simp [hid]
  have hothers : m.others nodeId = a ++ b := by
    have ha : a.filter (fun x => x.nodeId ≠ nodeId) = a := by simpa using hfront
    have hb : b.filter (fun x => x.nodeId ≠ nodeId) = b := by simpa using hback
    rw [others, hnodes, List.filter_append, List.filter_cons, ha, hb]
    simp [hid]
  have hsame : ∀ (f : NodeInfo → NodeInfo) (l : List NodeInfo), (∀ x ∈ l, x.nodeId ≠ nodeId) →
      l.map (fun x => if x.nodeId = nodeId then f x else x) = l := by
    intro f l hl
    conv_rhs => rw [← List.map_id l]
    apply List.map_congr_left
    intro x hx
    simp [hl x hx]
  refine ⟨b, ?_, ?_, ?_⟩
  · rw [hahead, hnodes]
  · rw [hahead, hothers]
  · intro f hf
    rw [hahead, update]
    simp only [hnodes, List.map_append, List.map_cons, hid, if_true]
    rw [hsame f a hfront, hsame f b hback]

/-- No entry is ahead of none. -/
theorem ahead_of_get_none {m : DeviceManager} {nodeId : UInt8} (h : m.get nodeId = none) :
    m.ahead nodeId = m.nodes := by
  have hne : ∀ n ∈ m.nodes, n.nodeId ≠ nodeId := by simpa [get] using h
  have happend : (m.nodes ++ []).takeWhile (fun n => n.nodeId ≠ nodeId) =
      m.nodes ++ [].takeWhile (fun n => n.nodeId ≠ nodeId) :=
    List.takeWhile_append_of_pos (by simpa using hne)
  simpa [ahead] using happend

/-- What the others ask of an entry of a node, which had this one before. -/
def Fits (m : DeviceManager) (nodeId : UInt8) (old new : NodeInfo) : Prop :=
  ∀ name, (hasName name new = true → new.connected = true → m.MayShow nodeId name) ∧
    (hasName name new = true → new.connected = false → m.MayHide nodeId name) ∧
      (hasName name new = false → hasName name old = true → m.MayDrop nodeId name)

/-- The names depend on the entries alone. -/
theorem namesReach_congr {m m' : DeviceManager} (h : m'.nodes = m.nodes) :
    m'.NamesReach ↔ m.NamesReach := by
  rw [namesReach_iff, namesReach_iff, h]

/-- **An entry that is replaced** keeps the names when it fits. -/
theorem namesReach_update {m : DeviceManager} (hm : m.NamesReach) {nodeId : UInt8}
    {n : NodeInfo} (hn : m.get nodeId = some n) (f : NodeInfo → NodeInfo)
    (hf : ∀ n, (f n).nodeId = n.nodeId) :
    (m.update nodeId f hf).NamesReach ↔ m.Fits nodeId n (f n) := by
  obtain ⟨b, hnodes, hothers, hupdate⟩ := exists_around hn
  rw [namesReach_iff] at hm ⊢
  refine forall_congr' fun name => ?_
  have hfronted := hm name
  rw [hnodes] at hfronted
  rw [hupdate, fronted_replace hfronted, MayShow, MayHide, MayDrop, hothers]

/-- An entry fits where it is. -/
theorem fits_self {m : DeviceManager} (hm : m.NamesReach) {nodeId : UInt8} {n : NodeInfo}
    (hn : m.get nodeId = some n) : m.Fits nodeId n n := by
  refine (namesReach_update hm hn id fun _ => rfl).mp ?_
  apply (namesReach_congr ?_).mpr hm
  simp [update]

/-- An update of a node that has no entry. -/
theorem update_of_get_none {m : DeviceManager} {nodeId : UInt8} (h : m.get nodeId = none)
    (f : NodeInfo → NodeInfo) (hf : ∀ n, (f n).nodeId = n.nodeId) :
    (m.update nodeId f hf).nodes = m.nodes := by
  have hne : ∀ n ∈ m.nodes, n.nodeId ≠ nodeId := by simpa [get] using h
  rw [update]
  conv_rhs => rw [← List.map_id m.nodes]
  apply List.map_congr_left
  intro n hn
  simp [hne n hn]

/-- An update, of whatever entry the node has. -/
theorem namesReach_update_iff {m : DeviceManager} (hm : m.NamesReach) (nodeId : UInt8)
    (f : NodeInfo → NodeInfo) (hf : ∀ n, (f n).nodeId = n.nodeId) :
    (m.update nodeId f hf).NamesReach ↔
      ∀ n, m.get nodeId = some n → m.Fits nodeId n (f n) := by
  cases hn : m.get nodeId with
  | none => simp [namesReach_congr (update_of_get_none hn f hf), hm]
  | some n => simp [namesReach_update hm hn f hf]

/-- **A new entry**, which is the last. -/
theorem namesReach_insert {m : DeviceManager} (hm : m.NamesReach) {n : NodeInfo}
    (hn : m.get n.nodeId = none) (hon : n.connected = true) :
    (m.insert n hn).NamesReach ↔ ∀ name, hasName name n = true → m.MayShow n.nodeId name := by
  rw [namesReach_iff] at hm ⊢
  refine forall_congr' fun name => ?_
  rw [insert, MayShow, ahead_of_get_none hn]
  cases hp : hasName name n with
  | false =>
      rw [fronted_middle_of_not hp]
      simpa using hm name
  | true => simp [fronted_middle_on hp hon]

/-! ## What each packet needs -/

/-- A node that connects shows its name. -/
theorem fits_connected {m : DeviceManager} {nodeId : UInt8} {n : NodeInfo} :
    m.Fits nodeId n { n with connected := true } ↔
      ∀ name, hasName name n = true → m.MayShow nodeId name := by
  refine forall_congr' fun name => ?_
  have hname : hasName name { n with connected := true } = hasName name n := rfl
  rw [hname]
  constructor
  · intro h hn
    exact h.1 hn rfl
  · intro h
    refine ⟨fun hn _ => h hn, ?_, ?_⟩
    · intro _ hon
      cases hon
    · intro hno hn
      simp [hno] at hn

/-- A node that disconnects hides its name. -/
theorem fits_disconnected {m : DeviceManager} {nodeId : UInt8} {n : NodeInfo} :
    m.Fits nodeId n { n with connected := false } ↔
      ∀ name, hasName name n = true → m.MayHide nodeId name := by
  refine forall_congr' fun name => ?_
  have hname : hasName name { n with connected := false } = hasName name n := rfl
  rw [hname]
  constructor
  · intro h hn
    exact h.2.1 hn rfl
  · intro h
    refine ⟨?_, fun hn _ => h hn, ?_⟩
    · intro _ hon
      cases hon
    · intro hno hn
      simp [hno] at hn

/-- A node that is renamed shows or hides the new name, and drops the old one. -/
theorem fits_renamed {m : DeviceManager} {nodeId : UInt8} {n : NodeInfo} (newName info : PyValue)
    (now : ℕ) :
    m.Fits nodeId n { n with name := newName, capabilities := info, lastSeen := now } ↔
      ∀ name, if hasName name { n with name := newName } = true then
          if n.connected = true then m.MayShow nodeId name else m.MayHide nodeId name
        else hasName name n = true → m.MayDrop nodeId name := by
  refine forall_congr' fun name => ?_
  have hname : hasName name { n with name := newName, capabilities := info, lastSeen := now } =
      hasName name { n with name := newName } := rfl
  rw [hname]
  cases hasName name { n with name := newName } <;> cases n.connected <;> simp

/-- **One packet** leaves the names reaching exactly when it keeps them. -/
theorem namesReach_onPacket (loads : List UInt8 → Option PyValue) (now : ℕ) {m : DeviceManager}
    (hm : m.NamesReach) (f : Frame) :
    (m.onPacket loads now f).NamesReach ↔ m.KeepsNames loads f := by
  rw [onPacket, KeepsNames]
  by_cases hping : f.packet.command = KlipCommand.ping.code
  · simp only [if_pos hping]
    by_cases hget : m.get f.nodeId = none
    · rw [dif_pos hget]
      simp only [hget]
      exact namesReach_insert hm hget rfl
    · obtain ⟨n, hn⟩ := Option.ne_none_iff_exists'.mp hget
      rw [dif_neg hget, namesReach_update hm hn, fits_connected]
      simp only [hn]
  simp only [if_neg hping]
  by_cases herror : f.packet.command = KlipCommand.error.code
  · simp only [if_pos herror]
    rw [namesReach_update_iff hm]
    exact forall_congr' fun n => imp_congr_right fun _ => fits_disconnected
  simp only [if_neg herror]
  by_cases hinfo : f.packet.command = KlipCommand.deviceInfoResp.code
  · simp only [if_pos hinfo]
    cases hloads : loads f.packet.payload with
    | none => simp [hm]
    | some info =>
        simp only
        rw [namesReach_update_iff hm]
        constructor
        · rintro h info' n newName ⟨⟩ hn hname
          have hfits := h n hn
          simp only [hname] at hfits
          exact (fits_renamed newName info now).mp hfits
        · intro h n hn
          cases hname : info.get "name" n.name with
          | none =>
              dsimp only
              exact fits_self hm hn
          | some newName =>
              dsimp only
              exact (fits_renamed newName info now).mpr (h info n newName rfl hn hname)
  · simp only [if_neg hinfo, iff_true]
    rw [namesReach_update_iff hm]
    intro n hn
    -- the time alone changes, and nothing asks for it
    have hfits : m.Fits f.nodeId n n := fits_self hm hn
    exact hfits

/-- **When a connected node is reachable by its name.**  Along any packets, the names reach
after every packet exactly when every packet keeps them. -/
theorem along_namesReach_iff (loads : List UInt8 → Option PyValue) (es : List (Frame × ℕ)) :
    System.Along (packets loads) (fun _ _ m => m.NamesReach) start es ↔
      System.Along (packets loads) (fun m e _ => m.KeepsNames loads e.1) start es := by
  have hstart : start.NamesReach := by
    rw [namesReach_iff]
    intro name
    exact fronted_nil
  refine System.along_iff (fun _ => True) NamesReach _ _ ?_ ?_ ?_ es start trivial hstart
  · intro _ _ _ _ _
    trivial
  · intro m e m' _ hm hstep
    cases hstep
    exact namesReach_onPacket loads e.2 hm e.1
  · intro m e m' _ hm hstep hkeeps
    cases hstep
    exact (namesReach_onPacket loads e.2 hm e.1).mpr hkeeps

/-- A board that calls itself `lamp` is switched off, and another one that does is switched
on. -/
def swappedBoards : List (Frame × ℕ) :=
  [(⟨1, ⟨KlipCommand.ping.code, []⟩⟩, 0), (⟨1, ⟨KlipCommand.deviceInfoResp.code, []⟩⟩, 1),
    (⟨1, ⟨KlipCommand.error.code, []⟩⟩, 2), (⟨2, ⟨KlipCommand.ping.code, []⟩⟩, 3),
    (⟨2, ⟨KlipCommand.deviceInfoResp.code, []⟩⟩, 4)]

/-- The second board is connected and named `lamp`, and `lamp` is not found. -/
theorem not_namesReach_swappedBoards :
    ∃ m, System.run (packets fun _ => some (.dict [("name", .str "lamp")])) start swappedBoards =
        some m ∧
      (∃ n ∈ m.nodes, hasName "lamp" n = true ∧ n.connected = true) ∧
        (∀ h : ApiHost, h.manager = m → h.getNode "lamp" = .error .notFound) ∧
          ¬ m.NamesReach := by
  refine ⟨_, rfl, ⟨_, List.mem_cons_of_mem _ (List.mem_singleton_self _), rfl, rfl⟩, ?_, ?_⟩
  · intro h hm
    rw [ApiHost.getNode, hm]
    rfl
  · intro hreach
    have hfronted := namesReach_iff.mp hreach "lamp"
    obtain ⟨n, hn, hon⟩ :=
      hfronted ⟨_, List.mem_cons_of_mem _ (List.mem_singleton_self _), rfl, rfl⟩
    cases hn
    cases hon

end DeviceManager
end Klippylink
