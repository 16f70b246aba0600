import Klippylink.Router.Mirror
import Mathlib.Data.List.Dedup
import Mathlib.Data.List.Perm.Subperm

/-!
# Slots as identities

The index of a slot is the node id the host learns, so a slot has to belong to one
address for good and an address to one slot.  A slot never changes its address.
An address gets a second slot, or none, exactly when it connects while its slot is
still marked connected, or while there is no free record.

## Main definitions

* `World.Distinct` — no address has two slots.
* `KeepsAddresses`, `ReturnsSlot` — what a step does to the slots of addresses.
* `Returnable` — a connecting address finds its slot ready.
-/

namespace Klippylink

open Lib

/-- The addresses of the slots. -/
def World.addresses (w : World) : List BdAddr := w.slots.map Slot.bda

/-- No address has two slots. -/
def World.Distinct (w : World) : Prop := w.addresses.Nodup

/-- A slot in use keeps its address. -/
def KeepsAddresses (w w' : World) : Prop :=
  ∀ (k : ℕ) b, w.addresses[k]? = some b → w'.addresses[k]? = some b

/-- An address that has a slot is given that slot when it connects. -/
def ReturnsSlot (w : World) (e : Event) (w' : World) : Prop :=
  ∀ c b, e.connects = some (c, b) → ∀ k : ℕ, w.addresses[k]? = some b →
    (⟨c, b, some k⟩ : Link) ∈ w'.live

/-- There are as many different addresses seen as slots in use. -/
def World.Counted (w : World) : Prop := w.slots.length ≤ w.seen.dedup.length

/-- When an address that has a slot connects, there is a free record and the slot
is not marked connected. -/
def Returnable (w : World) (e : Event) : Prop :=
  ∀ c b, e.connects = some (c, b) → ∀ (k : ℕ) s, w.slots[k]? = some s → s.bda = b →
    w.records.length < maxConns ∧ s.connected = false

/-! ### What never breaks -/

/-- Every slot is that of an address that connected. -/
def World.Seen (w : World) : Prop := ∀ b ∈ w.addresses, b ∈ w.seen

theorem World.getElem?_addresses (w : World) (k : ℕ) :
    w.addresses[k]? = w.slots[k]?.map Slot.bda := List.getElem?_map

/-- Giving a slot keeps the addresses, or adds the new one at the end. -/
theorem Admitted.addresses {before after : List Slot} {c : UInt16} {b : BdAddr} {k : ℕ}
    (h : Admitted before after c b k) :
    (after.map Slot.bda = before.map Slot.bda ∧ (before.map Slot.bda)[k]? = some b) ∨
      (after.map Slot.bda = before.map Slot.bda ++ [b] ∧ k = before.length) := by
  cases hk : before[k]? with
  | some s =>
      have hbda := (h.reused s hk).1
      refine .inl ⟨?_, by rw [List.getElem?_map, hk, ← hbda]; rfl⟩
      apply List.ext_getElem?
      intro j
      rw [List.getElem?_map, List.getElem?_map]
      by_cases hj : j = k
      · subst hj
        rw [h.given, hk, ← hbda]
        rfl
      · rw [h.others j hj]
  | none =>
      -- the slots before `k` are unchanged, so `k` is the first free one
      have hge := List.getElem?_eq_none_iff.mp hk
      have hlt := (List.getElem?_eq_some_iff.mp h.given).1
      have hle : k ≤ before.length := by
        by_contra hgt
        have hsame := h.others before.length (by omega)
        rw [List.getElem?_eq_none (Nat.le_refl _), List.getElem?_eq_none_iff] at hsame
        omega
      have hkeq : k = before.length := by omega
      subst hkeq
      refine .inr ⟨?_, rfl⟩
      apply List.ext_getElem?
      intro j
      rw [List.getElem?_map]
      rcases Nat.lt_trichotomy j before.length with hj | rfl | hj
      · rw [h.others j (by omega), List.getElem?_append_left (by rw [List.length_map]; exact hj),
          List.getElem?_map]
      · rw [h.given, List.getElem?_append_right (by rw [List.length_map])]
        simp
      · rw [h.others j (by omega), List.getElem?_eq_none (by omega)]
        symm
        rw [Option.map_none, List.getElem?_eq_none_iff, List.length_append, List.length_map,
          List.length_singleton]
        omega

/-- A disconnect keeps every address. -/
theorem Disconnects.addresses {w w' : World} {c : UInt16} (h : Disconnects w w' c) :
    w'.addresses = w.addresses := by
  apply List.ext_getElem?
  intro k
  rw [World.getElem?_addresses, World.getElem?_addresses, h.slots k]
  split
  · cases w.slots[k]? <;> rfl
  · rfl

theorem Quiet.addresses {w w' : World} (h : Quiet w w') : w'.addresses = w.addresses := by
  rw [World.addresses, World.addresses, h.slots]

/-- What a connect does to the addresses. -/
theorem Connects.addresses {w w' : World} {c : UInt16} {b : BdAddr} {slot : Option ℕ}
    (h : Connects w w' c b slot) :
    w'.addresses = w.addresses ∨ w'.addresses = w.addresses ++ [b] := by
  cases hslot : slot with
  | none =>
      left
      rw [World.addresses, World.addresses, (h.refused hslot).1]
  | some k =>
      rcases (h.admitted k hslot).2.addresses with ⟨hsame, -⟩ | ⟨hnew, -⟩
      · exact .inl hsame
      · exact .inr hnew

/-- **A slot never changes its address.** -/
theorem keepsAddresses_step {parse : List UInt8 → Option CJson} {w w' : World} {e : Event}
    (h : world parse w e = some w') : KeepsAddresses w w' := by
  intro k b hk
  rcases step_effect h with ⟨_, _, d, -, hconn⟩ | ⟨_, -, hdisc⟩ | ⟨-, -, hquiet⟩
  · rcases hconn.addresses with hsame | hnew
    · rw [hsame, hk]
    · rw [hnew, List.getElem?_append_left (List.getElem?_eq_some_iff.mp hk).1, hk]
  · rw [hdisc.addresses, hk]
  · rw [hquiet.addresses, hk]

theorem World.Seen.step {parse : List UInt8 → Option CJson} {w w' : World} {e : Event}
    (hs : w.Seen) (h : world parse w e = some w') : w'.Seen := by
  intro b hb
  rcases step_effect h with ⟨_, _, d, -, hconn⟩ | ⟨_, -, hdisc⟩ | ⟨-, -, hquiet⟩
  · rw [hconn.seen, List.mem_cons]
    rcases hconn.addresses with hsame | hnew
    · rw [hsame] at hb
      exact .inr (hs b hb)
    · rw [hnew, List.mem_append, List.mem_singleton] at hb
      exact hb.elim (fun hb => .inr (hs b hb)) .inl
  · rw [hdisc.addresses] at hb
    rw [hdisc.seen]
    exact hs b hb
  · rw [hquiet.addresses] at hb
    rw [hquiet.seen]
    exact hs b hb

/-- Distinct addresses that were all seen are no more than the addresses seen. -/
theorem World.Distinct.counted {w : World} (h : w.Distinct) (hs : w.Seen) : w.Counted := by
  have hsub : w.addresses ⊆ w.seen.dedup := fun b hb => List.mem_dedup.mpr (hs b hb)
  have hlen := (List.subperm_of_subset h hsub).length_le
  rwa [World.addresses, List.length_map] at hlen

/-! ### What can break -/

/-- A connecting address that finds its slot ready is given it, and the addresses
stay distinct. -/
theorem Connects.returns {w w' : World} {c : UInt16} {b : BdAddr} {slot : Option ℕ}
    (hd : w.Distinct) (h : Connects w w' c b slot)
    (hguard : ∀ (k : ℕ) s, w.slots[k]? = some s → s.bda = b →
      w.records.length < maxConns ∧ s.connected = false) :
    w'.Distinct ∧ ∀ k : ℕ, w.addresses[k]? = some b → (⟨c, b, some k⟩ : Link) ∈ w'.live := by
  have hready : ∀ k : ℕ, w.addresses[k]? = some b →
      ∃ s ∈ w.slots, s.bda = b ∧ w.records.length < maxConns ∧ s.connected = false := by
    intro k hk
    rw [World.getElem?_addresses, Option.map_eq_some_iff] at hk
    obtain ⟨s, hs, hb⟩ := hk
    exact ⟨s, List.mem_of_getElem? hs, hb, hguard k s hs hb⟩
  cases hslot : slot with
  | none =>
      obtain ⟨hsame, hfull⟩ := h.refused hslot
      refine ⟨by rw [World.Distinct, World.addresses, hsame]; exact hd, fun k hk => ?_⟩
      obtain ⟨s, hs, hb, hroom, hoff⟩ := hready k hk
      rw [(hfull hroom).2 s hs hb] at hoff
      cases hoff
  | some k' =>
      obtain ⟨-, hadm⟩ := h.admitted k' hslot
      rcases hadm.addresses with ⟨hsame, hk'⟩ | ⟨hnew, hlast⟩
      · refine ⟨by rw [World.Distinct, World.addresses, hsame]; exact hd, fun k hk => ?_⟩
        -- the address is in one slot only
        have hkk : k' = k := by
          have hlt := (List.getElem?_eq_some_iff.mp hk').1
          exact (List.getElem?_inj hlt hd).mp (hk'.trans hk.symm)
        rw [h.live, hslot, hkk]
        exact List.mem_cons_self
      · have hfree : w.slots[k']? = none := List.getElem?_eq_none (by omega)
        have hnone : ∀ k : ℕ, w.addresses[k]? ≠ some b := by
          intro k hk
          obtain ⟨s, hs, hb, -, hoff⟩ := hready k hk
          rw [hadm.fresh hfree s hs hb] at hoff
          cases hoff
        refine ⟨?_, fun k hk => absurd hk (hnone k)⟩
        rw [World.Distinct, World.addresses, hnew, List.nodup_append]
        refine ⟨hd, by simp, ?_⟩
        rintro a ha a' ha' rfl
        rw [List.mem_singleton] at ha'
        obtain ⟨k, hk⟩ := List.getElem?_of_mem ha
        exact hnone k (by rw [← ha']; exact hk)

/-- An address that was given its slot found a free record and the slot not
connected. -/
theorem Connects.returnable {w w' : World} {c : UInt16} {b : BdAddr} {slot : Option ℕ}
    (h : Connects w w' c b slot)
    (hreturn : ∀ k : ℕ, w.addresses[k]? = some b → (⟨c, b, some k⟩ : Link) ∈ w'.live)
    (k : ℕ) (s : Slot) (hs : w.slots[k]? = some s) (hb : s.bda = b) :
    w.records.length < maxConns ∧ s.connected = false := by
  have hmem := hreturn k (by rw [World.getElem?_addresses, hs, ← hb]; rfl)
  rw [h.live, List.mem_cons] at hmem
  rcases hmem with hnew | hold
  · obtain ⟨hroom, hadm⟩ := h.admitted k (Link.mk.inj hnew).2.2.symm
    exact ⟨hroom, (hadm.reused s hs).2⟩
  · exact absurd rfl (h.fresh _ hold)

/-- **When slots are identities.**  Along a run, after every event the addresses
of the slots are distinct and no more than the addresses seen, slots keep their
addresses, and a connecting address that has a slot is given it, exactly when every
connecting address finds its slot ready. -/
theorem identity_along_iff (parse : List UInt8 → Option CJson) (es : List Event) :
    System.Along (world parse)
        (fun w e w' => w'.Distinct ∧ w'.Counted ∧ KeepsAddresses w w' ∧ ReturnsSlot w e w')
        World.start es ↔
      System.Along (world parse) (fun w e _ => Returnable w e) World.start es := by
  have hstep : ∀ w e w', w.Seen → w.Distinct → world parse w e = some w' →
      (Returnable w e ↔ w'.Distinct ∧ ReturnsSlot w e w') := by
    intro w e w' hseen hd h
    rcases step_effect h with ⟨_, c, b, rfl, hconn⟩ | ⟨c, rfl, hdisc⟩ | ⟨hnone, -, hquiet⟩
    · constructor
      · intro hguard
        obtain ⟨hd', hreturn⟩ := hconn.returns hd (hguard c b rfl)
        refine ⟨hd', fun c' b' he => ?_⟩
        cases he
        exact hreturn
      · rintro ⟨-, hreturn⟩ c' b' he
        cases he
        exact hconn.returnable (hreturn c b rfl)
    · refine iff_of_true (fun c' b' he => by cases he) ⟨?_, fun c' b' he => by cases he⟩
      rw [World.Distinct, hdisc.addresses]
      exact hd
    · refine iff_of_true (fun c' b' he => by rw [hnone] at he; cases he)
        ⟨?_, fun c' b' he => by rw [hnone] at he; cases he⟩
      rw [World.Distinct, hquiet.addresses]
      exact hd
  refine System.along_iff World.Seen World.Distinct _ _ (fun _ _ _ hs => hs.step) ?_ ?_ es
    World.start (fun b hb => by cases hb) List.nodup_nil
  · intro w e w' hs hd h
    rw [hstep w e w' hs hd h]
    constructor
    · rintro ⟨hd', -, -, hreturn⟩
      exact ⟨hd', hreturn⟩
    · rintro ⟨hd', hreturn⟩
      exact ⟨hd', hd'.counted (hs.step h), keepsAddresses_step h, hreturn⟩
  · intro w e w' hs hd h hguard
    exact ((hstep w e w' hs hd h).mp hguard).1

/-- The second peer of `sharedIdRun` comes back, with no connection live. -/
def returnRun : List Event := sharedIdRun ++ [connectTo 1 (peer 2)]

/-- It does not get its slot back, and its address has two slots. -/
theorem returnRun_not_distinct :
    ∃ w, (world noJson).run World.start returnRun = some w ∧
      w.slots = [⟨0, peer 1, false⟩, ⟨0, peer 2, true⟩, ⟨1, peer 2, true⟩] ∧ ¬ w.Distinct := by
  have hend : ((world noJson).run World.start returnRun).map World.slots =
      some [⟨0, peer 1, false⟩, ⟨0, peer 2, true⟩, ⟨1, peer 2, true⟩] := by decide
  obtain ⟨w, hrun, hw⟩ := Option.map_eq_some_iff.mp hend
  refine ⟨w, hrun, hw, ?_⟩
  rw [World.Distinct, World.addresses, hw]
  decide

end Klippylink
