import Klippylink.Router.World
import Mathlib.Data.List.Nodup

/-!
# The registry and the live connections

Some of the agreement between `s_nodes`, `s_conns` and the stack never breaks:
a live connection that was given a slot keeps it, connected and under its own id.
What can break is the other direction.  `node_remove` takes the first slot with
the id, and a slot keeps its id after its connection ended; when an older slot has
kept the id, the slot of the connection that ended stays connected.

`mirror_along_iff` says that this is the only way: the registry mirrors the live
connections along a run exactly when no disconnect of the run finds such an older
slot.

## Main definitions

* `World.Sound` — what every event keeps.
* `World.Mirror` — connected slots and live admitted connections correspond.
* `Unshadowed` — no slot before the connected slot of the id has kept the id.
-/

namespace Klippylink

open Lib

/-- What holds of the stack, the records and the registry whatever happens. -/
structure World.Sound (w : World) : Prop where
  /-- Live connections have distinct ids. -/
  ids : (w.live.map Link.connId).Nodup
  /-- A connection has at most one record. -/
  records : w.records.Nodup
  /-- A record is that of a live connection. -/
  recordLive : ∀ c ∈ w.records, ∃ l ∈ w.live, l.connId = c
  /-- A live connection that was given a slot holds it, and has a record. -/
  admitted : ∀ l ∈ w.live, ∀ k, l.slot = some k →
    w.slots[k]? = some ⟨l.connId, l.bda, true⟩ ∧ l.connId ∈ w.records

/-- Every connected slot is that of a live admitted connection, and the other way
round; no two connected slots hold the same id. -/
structure World.Mirror (w : World) : Prop where
  connected_iff : ∀ c b, (∃ k : ℕ, w.slots[k]? = some ⟨c, b, true⟩) ↔
    ∃ l ∈ w.live, l.connId = c ∧ l.bda = b ∧ l.slot.isSome
  unique : ∀ (j k : ℕ) c b b', w.slots[j]? = some ⟨c, b, true⟩ →
    w.slots[k]? = some ⟨c, b', true⟩ → j = k

/-- Every connected slot belongs to the live connection that was given it. -/
def World.NoStale (w : World) : Prop :=
  ∀ (k : ℕ) c b, w.slots[k]? = some ⟨c, b, true⟩ →
    ∃ l ∈ w.live, l.connId = c ∧ l.bda = b ∧ l.slot = some k

/-- A disconnect marks the slot of the connection that ended and no other. -/
def MarksEnded (w : World) (e : Event) (w' : World) : Prop :=
  ∀ c, e.disconnects = some c → ∀ l ∈ w.live, l.connId = c → ∀ k, l.slot = some k →
    w'.slots[k]? = some ⟨c, l.bda, false⟩ ∧ ∀ j ≠ k, w'.slots[j]? = w.slots[j]?

/-- When a connection ends, no slot before the connected one that holds its id has
kept the id from an earlier connection. -/
def Unshadowed (w : World) (e : Event) : Prop :=
  ∀ c, e.disconnects = some c → ∀ (k : ℕ) b, w.slots[k]? = some ⟨c, b, true⟩ →
    ∀ j < k, ∀ s, w.slots[j]? = some s → s.connId ≠ c

/-! ### What never breaks -/

/-- Live connections with one id are one. -/
theorem World.Sound.link_eq {w : World} (h : w.Sound) {l m : Link} (hl : l ∈ w.live)
    (hm : m ∈ w.live) (hid : l.connId = m.connId) : l = m :=
  List.inj_on_of_nodup_map h.ids hl hm hid

theorem World.sound_start : World.start.Sound where
  ids := List.nodup_nil
  records := List.nodup_nil
  recordLive c hc := by cases hc
  admitted l hl := by cases hl

/-- An id that no live connection has is in no record. -/
theorem World.Sound.notMem_records {w : World} (hs : w.Sound) {c : UInt16} (h : w.Fresh c) :
    c ∉ w.records := by
  intro hc
  obtain ⟨l, hl, hid⟩ := hs.recordLive c hc
  exact h l hl hid

section Connects

variable {w w' : World} {c : UInt16} {b : BdAddr} {slot : Option ℕ}

/-- Records are kept, and the new connection may have one. -/
theorem Connects.mem_records (h : Connects w w' c b slot) {d : UInt16} :
    (d ∈ w.records → d ∈ w'.records) ∧ (d ∈ w'.records → d ∈ w.records ∨ d = c) := by
  rw [h.records]
  split
  · exact ⟨List.mem_append_left _, by simp⟩
  · exact ⟨id, Or.inl⟩

theorem Connects.nodup_ids (hs : w.Sound) (h : Connects w w' c b slot) :
    (w'.live.map Link.connId).Nodup := by
  rw [h.live, List.map_cons, List.nodup_cons]
  refine ⟨?_, hs.ids⟩
  rw [List.mem_map]
  rintro ⟨l, hl, hid⟩
  exact h.fresh l hl hid

theorem Connects.nodup_records (hs : w.Sound) (h : Connects w w' c b slot) :
    w'.records.Nodup := by
  rw [h.records]
  split
  · rw [List.nodup_append]
    refine ⟨hs.records, by simp, ?_⟩
    rintro d hd d' hd' rfl
    rw [List.mem_singleton] at hd'
    exact hs.notMem_records h.fresh (hd' ▸ hd)
  · exact hs.records

theorem Connects.recordLive (hs : w.Sound) (h : Connects w w' c b slot) {d : UInt16}
    (hd : d ∈ w'.records) : ∃ l ∈ w'.live, l.connId = d := by
  rw [h.live]
  rcases h.mem_records.2 hd with hold | rfl
  · obtain ⟨l, hl, hid⟩ := hs.recordLive d hold
    exact ⟨l, List.mem_cons_of_mem _ hl, hid⟩
  · exact ⟨_, List.mem_cons_self, rfl⟩

/-- A slot that was given is not given again. -/
theorem Connects.slot_kept (h : Connects w w' c b slot) {k : ℕ} {d : UInt16} {a : BdAddr}
    (hslot : w.slots[k]? = some ⟨d, a, true⟩) : w'.slots[k]? = some ⟨d, a, true⟩ := by
  cases hgiven : slot with
  | none => rw [(h.refused hgiven).1, hslot]
  | some k' =>
      obtain ⟨-, hadm⟩ := h.admitted k' hgiven
      have hne : k ≠ k' := by
        rintro rfl
        exact absurd (hadm.reused _ hslot).2 (by simp)
      rw [hadm.others k hne, hslot]

theorem Connects.sound (hs : w.Sound) (h : Connects w w' c b slot) : w'.Sound where
  ids := h.nodup_ids hs
  records := h.nodup_records hs
  recordLive d hd := h.recordLive hs hd
  admitted l hl k hk := by
    rw [h.live, List.mem_cons] at hl
    rcases hl with rfl | hl
    · obtain ⟨hroom, hadm⟩ := h.admitted k hk
      refine ⟨hadm.given, ?_⟩
      rw [h.records, if_pos hroom]
      exact List.mem_append_right _ (List.mem_singleton.mpr rfl)
    · obtain ⟨hslot, hrec⟩ := hs.admitted l hl k hk
      exact ⟨h.slot_kept hslot, h.mem_records.1 hrec⟩

end Connects

theorem Disconnects.mem_live {w w' : World} {c : UInt16} (h : Disconnects w w' c) {l : Link} :
    l ∈ w'.live ↔ l ∈ w.live ∧ l.connId ≠ c := by
  rw [h.live, List.mem_filter]
  simp

/-- Records of other connections stay. -/
theorem Disconnects.mem_records {w w' : World} {c d : UInt16} (hs : w.Sound)
    (h : Disconnects w w' c) : d ∈ w'.records ↔ d ∈ w.records ∧ d ≠ c := by
  have herase : w'.records = w.records.erase c := by
    rw [h.records, List.erase_eq_eraseP]
    congr 1
    funext a
    rw [Bool.beq_eq_decide_eq, decide_eq_decide]
    exact eq_comm
  rw [herase, hs.records.mem_erase_iff, and_comm]

theorem Disconnects.sound {w w' : World} {c : UInt16} (hs : w.Sound)
    (h : Disconnects w w' c) : w'.Sound := by
  refine ⟨?_, ?_, ?_, ?_⟩
  · rw [h.live]
    exact hs.ids.sublist (List.filter_sublist.map _)
  · rw [h.records]
    exact hs.records.sublist List.eraseP_sublist
  · intro d hd
    obtain ⟨hold, hne⟩ := (h.mem_records hs).mp hd
    obtain ⟨l, hl, rfl⟩ := hs.recordLive d hold
    exact ⟨l, h.mem_live.mpr ⟨hl, hne⟩, rfl⟩
  · intro l hl k hk
    obtain ⟨hold, hne⟩ := h.mem_live.mp hl
    obtain ⟨hslot, hrec⟩ := hs.admitted l hold k hk
    refine ⟨?_, (h.mem_records hs).mpr ⟨hrec, hne⟩⟩
    have hother : nodeByConnId w.router.nodes c ≠ some k := by
      intro hfind
      obtain ⟨⟨s, hs', hid⟩, -⟩ := nodeByConnId_eq_some.mp hfind
      rw [World.slots] at hslot
      rw [hslot] at hs'
      cases hs'
      exact hne hid
    rw [h.slots k, if_neg hother, hslot]

theorem Quiet.sound {w w' : World} (hs : w.Sound) (h : Quiet w w') : w'.Sound := by
  refine ⟨?_, ?_, ?_, ?_⟩
  · rw [h.live]
    exact hs.ids
  · rw [h.records]
    exact hs.records
  · rw [h.records, h.live]
    exact hs.recordLive
  · rw [h.live, h.slots, h.records]
    exact hs.admitted

/-- **Every event keeps the world sound.** -/
theorem World.Sound.step {parse : List UInt8 → Option CJson} {w w' : World} {e : Event}
    (hs : w.Sound) (h : world parse w e = some w') : w'.Sound := by
  rcases step_effect h with ⟨_, _, _, -, hconn⟩ | ⟨_, -, hdisc⟩ | ⟨-, -, hquiet⟩
  · exact hconn.sound hs
  · exact hdisc.sound hs
  · exact hquiet.sound hs

/-- Every reachable world is sound. -/
theorem sound_of_reaches {parse : List UInt8 → Option CJson} {w : World}
    (h : System.Reaches (world parse) World.start w) : w.Sound :=
  h.induction World.Sound (fun _ _ _ hs => hs.step) World.sound_start

/-! ### What can break -/

/-- In a sound world the mirror is the absence of stale slots. -/
theorem World.Sound.mirror_iff {w : World} (hs : w.Sound) : w.Mirror ↔ w.NoStale := by
  constructor
  · intro hm k c b hk
    obtain ⟨l, hl, rfl, rfl, hslot⟩ := (hm.connected_iff c b).mp ⟨k, hk⟩
    obtain ⟨k', hk'⟩ := Option.isSome_iff_exists.mp hslot
    have hown := (hs.admitted l hl k' hk').1
    rw [hm.unique k k' _ _ _ hk hown]
    exact ⟨l, hl, rfl, rfl, hk'⟩
  · intro hn
    refine ⟨fun c b => ⟨?_, ?_⟩, ?_⟩
    · rintro ⟨k, hk⟩
      obtain ⟨l, hl, hid, hbda, hslot⟩ := hn k c b hk
      exact ⟨l, hl, hid, hbda, by rw [hslot]; rfl⟩
    · rintro ⟨l, hl, rfl, rfl, hslot⟩
      obtain ⟨k, hk⟩ := Option.isSome_iff_exists.mp hslot
      exact ⟨k, (hs.admitted l hl k hk).1⟩
    · intro j k c b b' hj hk
      obtain ⟨l, hl, hlid, -, hlslot⟩ := hn j c b hj
      obtain ⟨m, hm, hmid, -, hmslot⟩ := hn k c b' hk
      have hlm := hs.link_eq hl hm (hlid.trans hmid.symm)
      rw [hlm, hmslot] at hlslot
      exact (Option.some.inj hlslot).symm

theorem World.mirror_start : World.start.Mirror :=
  World.sound_start.mirror_iff.mpr fun k c b h => by cases h

theorem Connects.noStale {w w' : World} {c : UInt16} {b : BdAddr} {slot : Option ℕ}
    (hn : w.NoStale) (h : Connects w w' c b slot) : w'.NoStale := by
  intro k d a hk
  rw [h.live]
  cases hslot : slot with
  | none =>
      rw [(h.refused hslot).1] at hk
      obtain ⟨l, hl, hrest⟩ := hn k d a hk
      exact ⟨l, List.mem_cons_of_mem _ hl, hrest⟩
  | some k' =>
      obtain ⟨-, hadm⟩ := h.admitted k' hslot
      by_cases hkk : k = k'
      · subst hkk
        rw [hadm.given] at hk
        cases hk
        exact ⟨_, List.mem_cons_self, rfl, rfl, rfl⟩
      · rw [hadm.others k hkk] at hk
        obtain ⟨l, hl, hrest⟩ := hn k d a hk
        exact ⟨l, List.mem_cons_of_mem _ hl, hrest⟩

theorem Quiet.noStale {w w' : World} (hn : w.NoStale) (h : Quiet w w') : w'.NoStale := by
  intro k d a hk
  rw [h.slots] at hk
  rw [h.live]
  exact hn k d a hk

/-- The slot that `node_remove` finds, when nothing shadows the connected one. -/
theorem nodeByConnId_of_unshadowed {w : World} {e : Event} {c : UInt16} {b : BdAddr} {k : ℕ}
    (hguard : Unshadowed w e) (he : e.disconnects = some c)
    (hk : w.slots[k]? = some ⟨c, b, true⟩) : nodeByConnId w.router.nodes c = some k :=
  nodeByConnId_eq_some.mpr ⟨⟨_, hk, rfl⟩, hguard c he k b hk⟩

/-- A disconnect that finds no older slot leaves no stale one. -/
theorem Disconnects.noStale {w w' : World} {c : UInt16} {e : Event} (hn : w.NoStale)
    (h : Disconnects w w' c) (he : e.disconnects = some c) (hguard : Unshadowed w e) :
    w'.NoStale := by
  intro k d a hk
  rw [h.slots k] at hk
  by_cases hfind : nodeByConnId w.router.nodes c = some k
  · rw [if_pos hfind, Option.map_eq_some_iff] at hk
    obtain ⟨s, -, hs⟩ := hk
    cases hs
  · rw [if_neg hfind] at hk
    obtain ⟨l, hl, hid, hbda, hslot⟩ := hn k d a hk
    refine ⟨l, h.mem_live.mpr ⟨hl, ?_⟩, hid, hbda, hslot⟩
    rintro rfl
    subst hid
    exact hfind (nodeByConnId_of_unshadowed hguard he hk)

/-- A disconnect that leaves no stale slot found no older one. -/
theorem Disconnects.unshadowed {w w' : World} {c : UInt16} {e : Event} (hn' : w'.NoStale)
    (h : Disconnects w w' c) (he : e.disconnects = some c) :
    Unshadowed w e := by
  intro d hd k b hk j hj s hs
  rw [he] at hd
  cases hd
  rintro hid
  -- `node_remove` stops before `k`, so slot `k` stays connected and its link is gone
  have hmiss : nodeByConnId w.router.nodes c ≠ some k := by
    intro hfind
    exact (nodeByConnId_eq_some.mp hfind).2 j hj s hs hid
  have hstay : w'.slots[k]? = some ⟨c, b, true⟩ := by rw [h.slots k, if_neg hmiss, hk]
  obtain ⟨l, hl, hlid, -⟩ := hn' k c b hstay
  exact (h.mem_live.mp hl).2 hlid

/-- An unshadowed disconnect marks the slot of the connection that ended. -/
theorem marksEnded_of_unshadowed {parse : List UInt8 → Option CJson} {w w' : World} {e : Event}
    (hs : w.Sound) (h : world parse w e = some w') (hguard : Unshadowed w e) :
    MarksEnded w e w' := by
  intro c hc l hl hid k hk
  rcases step_effect h with ⟨_, _, _, rfl, -⟩ | ⟨d, rfl, hdisc⟩ | ⟨-, hnone, -⟩
  · cases hc
  · cases hc
    subst hid
    have hown := (hs.admitted l hl k hk).1
    have hfind := nodeByConnId_of_unshadowed hguard rfl hown
    refine ⟨?_, fun j hj => ?_⟩
    · rw [hdisc.slots k, if_pos hfind, hown]
      rfl
    · rw [hdisc.slots j, if_neg]
      rw [hfind]
      simpa using hj.symm
  · rw [hnone] at hc
    cases hc

/-- **One event keeps the mirror exactly when it is unshadowed.** -/
theorem mirror_step_iff {parse : List UInt8 → Option CJson} {w w' : World} {e : Event}
    (hs : w.Sound) (hm : w.Mirror) (h : world parse w e = some w') :
    w'.Mirror ↔ Unshadowed w e := by
  have hs' := hs.step h
  rw [hs'.mirror_iff]
  rw [hs.mirror_iff] at hm
  rcases step_effect h with ⟨_, _, _, rfl, hconn⟩ | ⟨c, rfl, hdisc⟩ | ⟨-, hnone, hquiet⟩
  · exact iff_of_true (hconn.noStale hm) fun c hc => by cases hc
  · exact ⟨fun hm' => hdisc.unshadowed hm' rfl, hdisc.noStale hm rfl⟩
  · exact iff_of_true (hquiet.noStale hm) fun c hc => by rw [hnone] at hc; cases hc

/-- **When the registry mirrors the live connections.**  Along a run, the mirror
holds after every event and every disconnect marks the slot of the connection that
ended exactly when every disconnect of the run is unshadowed. -/
theorem mirror_along_iff (parse : List UInt8 → Option CJson) (es : List Event) :
    System.Along (world parse) (fun w e w' => w'.Mirror ∧ MarksEnded w e w') World.start es ↔
      System.Along (world parse) (fun w e _ => Unshadowed w e) World.start es := by
  refine System.along_iff World.Sound World.Mirror _ _ (fun _ _ _ hs => hs.step) ?_ ?_ es
    World.start World.sound_start World.mirror_start
  · intro w e w' hs hm h
    rw [mirror_step_iff hs hm h]
    exact and_iff_left_of_imp fun hguard => marksEnded_of_unshadowed hs h hguard
  · intro w e w' hs hm h hguard
    exact (mirror_step_iff hs hm h).mpr hguard

/-- Two peers that use the id 0 one after the other. -/
def sharedIdRun : List Event :=
  [connectTo 0 (peer 1), disconnectOf 0, connectTo 0 (peer 2), disconnectOf 0]

/-- The second disconnect marks the slot of the first peer: no connection is live
and slot 1 stays connected. -/
theorem sharedIdRun_not_mirror :
    ∃ w, (world noJson).run World.start sharedIdRun = some w ∧ w.live = [] ∧
      w.slots = [⟨0, peer 1, false⟩, ⟨0, peer 2, true⟩] ∧ ¬ w.Mirror := by
  have hend : ((world noJson).run World.start sharedIdRun).map (fun w => (w.live, w.slots)) =
      some ([], [⟨0, peer 1, false⟩, ⟨0, peer 2, true⟩]) := by decide
  obtain ⟨w, hrun, hw⟩ := Option.map_eq_some_iff.mp hend
  obtain ⟨hlive, hslots⟩ := Prod.mk.inj hw
  refine ⟨w, hrun, hlive, hslots, fun hm => ?_⟩
  obtain ⟨l, hl, -⟩ := (hm.connected_iff 0 (peer 2)).mp ⟨1, by rw [hslots]; rfl⟩
  rw [hlive] at hl
  cases hl

end Klippylink
