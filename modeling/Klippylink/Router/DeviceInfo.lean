import Klippylink.Router.Notifications

/-!
# A device info, whatever is in it

`node_update_info` parses what a node has sent and walks through three members of it.  The name
of the node is copied when it is a string.  The names of the strips and of the endstops are
copied when they are there, and `valuestring` of a member that is no string is a null pointer.

Apart from that the function stays within its node: the counts are cut to the sizes of the
arrays, only rows below the counts are written, and no other slot is.

## Main definitions

* `CJson.Named` — the strips and the endstops that are read are named by strings, if at all.
* `Confined` — what of a node must be kept.
* `Notification.IsDeviceInfo` — a device info, and the text in it.

## Main results

* `notify_confined_iff` — a device info is taken exactly when its names are strings.
-/

namespace Klippylink

open Lib

/-- A member that is there is a string. -/
def CJson.StringMember (item : CJson) (name : String) : Prop :=
  ∀ j, item.getObjectItem name = some j → ∃ s, j = .string s

/-- The first `n` items of an array are named by strings, if at all. -/
def CJson.StringNames (root : CJson) (key : String) (n : ℕ) : Prop :=
  ∀ items, root.getObjectItem key = some (.array items) →
    ∀ item ∈ items.take n, item.StringMember "name"

/-- The strips and the endstops that are read are named by strings, if at all. -/
structure CJson.Named (root : CJson) : Prop where
  neopixels : root.StringNames "neopixels" nodeMaxNeopixels
  endstops : root.StringNames "endstops" nodeMaxEndstops

/-- The counts are within the arrays, and the rows from the counts on are as before. -/
structure Confined (node node' : Node) : Prop where
  neopixelCount : node'.neopixelCount.val ≤ nodeMaxNeopixels
  endstopCount : node'.endstopCount.val ≤ nodeMaxEndstops
  neopixels : ∀ k, node'.neopixelCount.val ≤ k → node'.neopixels[k]? = node.neopixels[k]?
  endstops : ∀ k, node'.endstopCount.val ≤ k → node'.endstops[k]? = node.endstops[k]?

/-- The slot at `i` is confined, and every other slot is as before. -/
structure ConfinedTo (i : ℕ) (nodes nodes' : NodeTable) : Prop where
  slot : ∃ node node', nodeGet nodes i = some node ∧ nodeGet nodes' i = some node' ∧
    Confined node node'
  others : ∀ j ≠ i, nodeGet nodes' j = nodeGet nodes j

/-- A device info with a text that fits a packet. -/
structure Notification.IsDeviceInfo (n : Notification) : Prop where
  valid : n.Valid
  command : n.byte 2 = KlipCommand.deviceInfoResp.code
  pos : 0 < (n.byte 3).toNat
  fits : (n.byte 3).toNat ≤ klipMaxPayloadSize

/-! ## The loops -/

section Rows

variable {α : Type} {n : ℕ} {f : CJson → α → Except Fault α} {P : CJson → Prop}
  {items : List CJson}

/-- What the loop does in one round. -/
theorem updateRows_succ {k : ℕ} {rows rows' : Vector α n} :
    updateRows f items (k + 1) rows = .ok rows' ↔
      ∃ rows₁, updateRows f items k rows = .ok rows₁ ∧
        ((items[k]? = none ∨ n ≤ k) ∧ rows' = rows₁ ∨
          ∃ item, items[k]? = some item ∧ ∃ h : k < n, ∃ row, f item rows₁[k] = .ok row ∧
            rows' = rows₁.set k row) := by
  rw [updateRows, bind_eq_ok]
  refine exists_congr fun rows₁ => and_congr_right fun _ => ?_
  cases items[k]? with
  | none => simp [pure, Except.pure, eq_comm]
  | some item =>
      by_cases hk : k < n
      · have hlt : ¬ n ≤ k := Nat.not_le.mpr hk
        simp only [hk, dite_true, bind_eq_ok]
        simp [pure, Except.pure, eq_comm, hlt]
      · simp [hk, pure, Except.pure, eq_comm, Nat.not_lt.mp hk]

/-- A loop over the rows goes through exactly when each of its items does. -/
theorem updateRows_isOk (hf : ∀ item row, (∃ row', f item row = .ok row') ↔ P item)
    (items : List CJson) {k : ℕ} (hk : k ≤ n) (rows : Vector α n) :
    (∃ rows', updateRows f items k rows = .ok rows') ↔ ∀ item ∈ items.take k, P item := by
  induction k with
  | zero => simp [updateRows]
  | succ k ih =>
      have ih := ih (Nat.le_of_succ_le hk)
      have htake : (∀ item ∈ items.take (k + 1), P item) ↔
          (∀ item ∈ items.take k, P item) ∧ ∀ item, items[k]? = some item → P item := by
        simp [List.take_add_one, or_imp, forall_and]
      rw [htake, ← ih]
      constructor
      · rintro ⟨rows', hrows'⟩
        obtain ⟨rows₁, hrows₁, hbody⟩ := updateRows_succ.mp hrows'
        refine ⟨⟨rows₁, hrows₁⟩, ?_⟩
        intro item hitem
        rcases hbody with ⟨hnone | hge, _⟩ | ⟨item', hitem', _, row, hrow, _⟩
        · rw [hitem] at hnone
          cases hnone
        · omega
        · rw [hitem] at hitem'
          cases hitem'
          exact (hf item _).mp ⟨row, hrow⟩
      · rintro ⟨⟨rows₁, hrows₁⟩, hitem⟩
        cases hget : items[k]? with
        | none => exact ⟨rows₁, updateRows_succ.mpr ⟨rows₁, hrows₁, .inl ⟨.inl hget, rfl⟩⟩⟩
        | some item =>
            obtain ⟨row, hrow⟩ := (hf item rows₁[k]).mpr (hitem item hget)
            exact ⟨rows₁.set k row,
              updateRows_succ.mpr ⟨rows₁, hrows₁, .inr ⟨item, hget, hk, row, hrow, rfl⟩⟩⟩

/-- The rows from the bound of the loop on are as before. -/
theorem getElem?_updateRows {k : ℕ} {rows rows' : Vector α n}
    (h : updateRows f items k rows = .ok rows') {i : ℕ} (hi : k ≤ i) : rows'[i]? = rows[i]? := by
  induction k generalizing rows' with
  | zero =>
      cases h
      rfl
  | succ k ih =>
      obtain ⟨rows₁, hrows₁, hbody⟩ := updateRows_succ.mp h
      have hprev := ih hrows₁ (Nat.le_of_succ_le hi)
      rcases hbody with ⟨_, rfl⟩ | ⟨item, _, hk, row, _, rfl⟩
      · exact hprev
      · have hne : k ≠ i := by omega
        rw [Vector.getElem?_set_ne hk hne]
        exact hprev

end Rows

/-- Copying a member goes through when it is a string, if it is there. -/
theorem copyName_isOk (old : NodeName) {item : CJson} :
    (∃ name, copyName old (item.getObjectItem "name") = .ok name) ↔ item.StringMember "name" := by
  rw [CJson.StringMember]
  cases item.getObjectItem "name" with
  | none => simp [copyName]
  | some j => cases j <;> simp [copyName, CJson.valuestring]

theorem updateNeopixel_isOk (item : CJson) (row : NodeNeopixel) :
    (∃ row', updateNeopixel item row = .ok row') ↔ item.StringMember "name" := by
  rw [← copyName_isOk row.name]
  simp only [updateNeopixel, bind_eq_ok]
  cases item.getObjectItem "count" <;> simp [pure, Except.pure]

theorem updateEndstop_isOk (item : CJson) (row : NodeEndstop) :
    (∃ row', updateEndstop item row = .ok row') ↔ item.StringMember "name" := by
  rw [← copyName_isOk row.name]
  simp only [updateEndstop, bind_eq_ok]
  simp [pure, Except.pure]

/-! ## The three members -/

/-- The loop over a member goes through when the items that fit the array do. -/
theorem updateRows_clampCount_isOk {α : Type} {n : ℕ} {f : CJson → α → Except Fault α}
    {P : CJson → Prop} (hf : ∀ item row, (∃ row', f item row = .ok row') ↔ P item)
    (items : List CJson) (rows : Vector α n) :
    (∃ rows', updateRows f items (clampCount n items.length) rows = .ok rows') ↔
      ∀ item ∈ items.take n, P item := by
  have hk := Nat.le_of_lt_succ (clampCount n items.length).isLt
  have htake : items.take (min items.length n) = items.take n := by
    rw [Nat.min_comm, ← List.take_take, List.take_length]
  rw [updateRows_isOk hf items hk rows, clampCount, htake]

section Members

variable {root : CJson} {node node' : Node}

theorem updateNeopixels_isOk :
    (∃ node', updateNeopixels root node = .ok node') ↔
      root.StringNames "neopixels" nodeMaxNeopixels := by
  rw [updateNeopixels, CJson.StringNames]
  split
  · next items hitems =>
      have hrows := updateRows_clampCount_isOk updateNeopixel_isOk items node.neopixels
      simp only [bind_eq_ok]
      simpa [pure, Except.pure, hitems] using hrows
  · next hno =>
      simp only [pure, Except.pure, Except.ok.injEq, exists_eq', true_iff]
      intro items hitems
      exact absurd hitems (hno items)

theorem updateEndstops_isOk :
    (∃ node', updateEndstops root node = .ok node') ↔
      root.StringNames "endstops" nodeMaxEndstops := by
  rw [updateEndstops, CJson.StringNames]
  split
  · next items hitems =>
      have hrows := updateRows_clampCount_isOk updateEndstop_isOk items node.endstops
      simp only [bind_eq_ok]
      simpa [pure, Except.pure, hitems] using hrows
  · next hno =>
      simp only [pure, Except.pure, Except.ok.injEq, exists_eq', true_iff]
      intro items hitems
      exact absurd hitems (hno items)

/-- The strips are written within their count, and nothing else is. -/
theorem updateNeopixels_confined (h : updateNeopixels root node = .ok node') :
    (∀ k, node'.neopixelCount.val ≤ k → node'.neopixels[k]? = node.neopixels[k]?) ∧
      node'.endstopCount = node.endstopCount ∧ node'.endstops = node.endstops := by
  rw [updateNeopixels] at h
  split at h
  · obtain ⟨rows, hrows, hret⟩ := bind_eq_ok.mp h
    cases hret
    exact ⟨fun k hk => getElem?_updateRows hrows hk, rfl, rfl⟩
  · cases h
    exact ⟨fun _ _ => rfl, rfl, rfl⟩

/-- The endstops are written within their count, and nothing else is. -/
theorem updateEndstops_confined (h : updateEndstops root node = .ok node') :
    (∀ k, node'.endstopCount.val ≤ k → node'.endstops[k]? = node.endstops[k]?) ∧
      node'.neopixelCount = node.neopixelCount ∧ node'.neopixels = node.neopixels := by
  rw [updateEndstops] at h
  split at h
  · obtain ⟨rows, hrows, hret⟩ := bind_eq_ok.mp h
    cases hret
    exact ⟨fun k hk => getElem?_updateRows hrows hk, rfl, rfl⟩
  · cases h
    exact ⟨fun _ _ => rfl, rfl, rfl⟩

end Members

section Info

variable {parse : List UInt8 → Option CJson} {json : List UInt8}

/-- **`node_update_info` goes through** exactly when the names it copies are strings. -/
theorem nodeUpdateInfo_isOk (node : Node) :
    (∃ node', nodeUpdateInfo parse node json = .ok node') ↔
      ∀ root, parse (CStr.cstring json) = some root → root.Named := by
  rw [nodeUpdateInfo]
  cases parse (CStr.cstring json) with
  | none => simp [pure, Except.pure]
  | some root =>
      simp only [bind_eq_ok, Option.some.injEq, forall_eq']
      constructor
      · rintro ⟨_, node₁, hneopixels, node₂, hendstops, _⟩
        exact ⟨updateNeopixels_isOk.mp ⟨node₁, hneopixels⟩,
          updateEndstops_isOk.mp ⟨node₂, hendstops⟩⟩
      · intro hnamed
        obtain ⟨node₁, hneopixels⟩ := updateNeopixels_isOk.mpr hnamed.neopixels
        obtain ⟨node₂, hendstops⟩ := updateEndstops_isOk.mpr hnamed.endstops
        exact ⟨_, node₁, hneopixels, node₂, hendstops, rfl⟩

/-- What goes through is confined. -/
theorem nodeUpdateInfo_confined {node node' : Node}
    (h : nodeUpdateInfo parse node json = .ok node') :
    Confined node node' := by
  rw [nodeUpdateInfo] at h
  have hcounts : ∀ (n : ℕ) (count : Fin (n + 1)), count.val ≤ n :=
    fun n count => Nat.le_of_lt_succ count.isLt
  split at h
  · cases h
    exact ⟨hcounts _ _, hcounts _ _, fun _ _ => rfl, fun _ _ => rfl⟩
  · next root _ =>
      obtain ⟨node₁, hneopixels, h⟩ := bind_eq_ok.mp h
      obtain ⟨node₂, hendstops, hret⟩ := bind_eq_ok.mp h
      cases hret
      have hname : (updateName root node).neopixels = node.neopixels ∧
          (updateName root node).endstops = node.endstops := by
        rw [updateName]
        split <;> exact ⟨rfl, rfl⟩
      obtain ⟨hrows, _, hsame⟩ := updateNeopixels_confined hneopixels
      obtain ⟨hrows', hcount, hsame'⟩ := updateEndstops_confined hendstops
      refine ⟨hcounts _ _, hcounts _ _, ?_, ?_⟩
      · intro k hk
        rw [hcount] at hk
        rw [hsame', hrows k hk, hname.1]
      · intro k hk
        rw [hrows' k hk, hsame, hname.2]

end Info

/-! ## The notification -/

/-- **A device info at the router.**  It is taken, and changes its own slot within the counts,
exactly when the names in it are strings. -/
theorem notify_confined_iff (parse : List UInt8 → Option CJson) (r : Router) (n : Notification)
    (hinfo : n.IsDeviceInfo) {i : ℕ} (hi : nodeByConnId r.nodes n.connId = some i) :
    (∃ r' acts, gattcEventHandler parse r (.notify n) = .ok (r', acts) ∧
      ConfinedTo i r.nodes r'.nodes) ↔
      ∀ root, parse (CStr.cstring n.payload) = some root → root.Named := by
  have hnode : ∀ node, updateNode parse n node = nodeUpdateInfo parse node n.payload := by
    intro node
    rw [updateNode]
    simp only [if_pos hinfo.command, if_pos hinfo.pos, if_neg (Nat.not_lt.mpr hinfo.fits)]
  constructor
  · rintro ⟨r', acts, hhandler, _⟩
    obtain ⟨nodes, hupdate, _, _⟩ := notifyEvt_valid hinfo.valid hhandler
    obtain ⟨⟨node, node', _, hnode', _⟩, _⟩ := updateRegistry_spec hi hupdate
    rw [hnode] at hnode'
    exact (nodeUpdateInfo_isOk node).mp ⟨node', hnode'⟩
  · intro hnamed
    obtain ⟨node, hget, _⟩ := Table.row_of_firstIdx hi
    obtain ⟨node', hnode'⟩ := (nodeUpdateInfo_isOk node).mpr hnamed
    have hupdate : updateRegistry parse n r.nodes = .ok (r.nodes.modifyAt i fun _ => node') := by
      simp only [updateRegistry, hi, nodeGet, hget, hnode, hnode']
      rfl
    obtain ⟨⟨node₀, node₁, hget₀, hnode₁, hget₁⟩, hothers⟩ := updateRegistry_spec hi hupdate
    rw [hnode] at hnode₁
    exact ⟨_, _, notifyEvt_of_valid hinfo.valid hupdate,
      ⟨⟨node₀, node₁, hget₀, hget₁, nodeUpdateInfo_confined hnode₁⟩, hothers⟩⟩

/-- The router when one node has connected, under id 0. -/
def soleNode : Router := (connectEvt .start 3 0 (Vector.replicate 6 0)).1

/-- A device info with this text, from that node. -/
def infoFrom (text : String) : Notification :=
  ⟨0, klipPacket KlipCommand.deviceInfoResp.code (ascii text), fun _ => 0⟩

/-- One strip, with this name, as it is parsed. -/
def stripNamed (name : CJson) : CJson :=
  .object [(ascii "neopixels", .array [.object [(ascii "name", name)]])]

/-- One strip, named by a string. -/
def stringName : Notification := infoFrom "\x7b\"neopixels\":[\x7b\"name\":\"a\"\x7d]\x7d"

/-- One strip, named by a number. -/
def numberName : Notification := infoFrom "\x7b\"neopixels\":[\x7b\"name\":1\x7d]\x7d"

/-- A strip that is named by a string. -/
theorem notify_confined_stringName :
    ∃ r' acts, gattcEventHandler (fun _ => some (stripNamed (.string (ascii "a")))) soleNode
      (.notify stringName) = .ok (r', acts) ∧ ConfinedTo 0 soleNode.nodes r'.nodes := by
  have hinfo : stringName.IsDeviceInfo :=
    ⟨valid_klipPacket rfl, by decide, by decide, by decide⟩
  refine (notify_confined_iff _ soleNode _ hinfo rfl).mpr ?_
  rintro root ⟨⟩
  constructor
  · rintro items ⟨⟩ item hitem
    rw [List.mem_singleton.mp hitem]
    rintro j ⟨⟩
    exact ⟨_, rfl⟩
  · intro items hitems
    cases hitems

/-- Of a strip that is named by a number, the null pointer behind its name is read. -/
theorem notify_numberName :
    numberName.IsDeviceInfo ∧ nodeByConnId soleNode.nodes numberName.connId = some 0 ∧
      gattcEventHandler (fun _ => some (stripNamed (.number 1))) soleNode (.notify numberName) =
        .error .nullPointer :=
  ⟨⟨valid_klipPacket rfl, by decide, by decide, by decide⟩, by decide, rfl⟩

end Klippylink
