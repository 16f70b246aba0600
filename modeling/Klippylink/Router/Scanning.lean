import Klippylink.Router.World

/-!
# Looking for nodes

A matching scan result stops the scan and opens a connection; only a disconnect,
or the scan parameters being set, starts the scan again.  So the scan is off when a
connect or a failed open ends the attempt, unless a disconnect came in between, and
the router has stopped looking.

## Main definitions

* `World.Looking` — scanning, unless an open is pending or there is no room.
* `Resumed` — an attempt that ends finds the scan on, or fills the router.
-/

namespace Klippylink

open Lib

/-- With room for a connection and no open pending, the stack is scanning. -/
def World.Looking (w : World) : Prop :=
  w.live.length < maxConns → w.openPending = false → w.scanning = true

/-- A connect or a failed open, which ends the attempt to open a connection, finds
the scan on again; or as many connections are then live as there are records. -/
def Resumed (w : World) (e : Event) : Prop :=
  match e with
  | .gattc (.connect _ _ _) => w.scanning = true ∨ maxConns ≤ w.live.length + 1
  | .gattc .openFailed => w.scanning = true ∨ maxConns ≤ w.live.length
  | _ => True

/-- The world once the scan parameters are set. -/
def World.scanParamsSet (w : World) : World :=
  w.perform (gapEventHandler w.router .scanParamSetComplete)

/-! ### What an event does to the scan -/

/-- The scan and the pending open are as before. -/
def SameScan (w w' : World) : Prop :=
  w'.scanning = w.scanning ∧ w'.openPending = w.openPending

/-- A call that leaves the scan alone. -/
def Action.quiet : Action → Bool
  | .startScanning | .stopScanning | .gattcOpen _ _ _ => false
  | _ => true

theorem sameScan_perform {acts : List Action} (w : World) (h : ∀ a ∈ acts, a.quiet = true) :
    SameScan w (w.perform acts) := by
  induction acts generalizing w with
  | nil => exact ⟨rfl, rfl⟩
  | cons a acts ih =>
      obtain ⟨ha, hacts⟩ := List.forall_mem_cons.mp h
      obtain ⟨hscan, hopen⟩ := ih (w.apply a) hacts
      have hfirst : SameScan w (w.apply a) := by
        cases a with
        | startScanning => cases ha
        | stopScanning => cases ha
        | gattcOpen i b t => cases ha
        | _ => exact ⟨rfl, rfl⟩
      exact ⟨hscan.trans hfirst.1, hopen.trans hfirst.2⟩

/-- Quiet calls do not change whether the router is looking. -/
theorem looking_perform {acts : List Action} (w : World) (h : ∀ a ∈ acts, a.quiet = true) :
    (w.perform acts).Looking ↔ w.Looking := by
  obtain ⟨hscan, hopen⟩ := sameScan_perform w h
  rw [World.Looking, World.Looking, World.live_perform, hscan, hopen]

theorem quiet_emitFor (nodes : NodeTable) (c : UInt16) (data : List UInt8) :
    ∀ a ∈ emitFor nodes c data, a.quiet = true := by
  rw [emitFor]
  intro a ha
  split at ha
  · cases ha
  · rw [List.mem_singleton.mp ha]
    rfl

theorem quiet_connectEvt (r : Router) (gattcIf connId : UInt16) (bda : BdAddr) :
    ∀ a ∈ (connectEvt r gattcIf connId bda).2, a.quiet = true := by
  rw [connectEvt]
  intro a ha
  split at ha
  · cases ha
  · simp only at ha
    split at ha
    · cases ha
    · rw [List.mem_append, List.mem_singleton] at ha
      rcases ha with ha | rfl
      · exact quiet_emitFor _ _ _ a ha
      · rfl

theorem quiet_searchCmplEvt {r r' : Router} {gattcIf connId : UInt16} {db : GattDb}
    {acts : List Action} (h : searchCmplEvt r gattcIf connId db = .ok (r', acts)) :
    ∀ a ∈ acts, a.quiet = true := by
  rw [searchCmplEvt] at h
  split at h
  · cases h
    intro a ha
    cases ha
  · obtain ⟨c', -, hret⟩ := bind_eq_ok.mp h
    cases hret
    intro a ha
    rw [List.mem_append] at ha
    rcases ha with ha | ha
    all_goals
      split at ha
      · rw [List.mem_singleton.mp ha]
        rfl
      · cases ha

theorem quiet_notifyEvt {parse : List UInt8 → Option CJson} {r r' : Router} {n : Notification}
    {acts : List Action} (h : notifyEvt parse r n = .ok (r', acts)) :
    ∀ a ∈ acts, a.quiet = true := by
  rw [notifyEvt] at h
  intro a ha
  split at h
  · cases h
    cases ha
  · split at h
    · cases h
      cases ha
    · obtain ⟨nodes, -, hret⟩ := bind_eq_ok.mp h
      cases hret
      exact quiet_emitFor _ _ _ a ha

/-- With no open pending, looking is scanning unless there is no room. -/
theorem looking_iff_of_idle {w : World} (hidle : w.openPending = false) :
    w.Looking ↔ w.scanning = true ∨ maxConns ≤ w.live.length := by
  rw [World.Looking]
  constructor
  · intro hlook
    rcases Nat.lt_or_ge w.live.length maxConns with hroom | hroom
    · exact .inl (hlook hroom hidle)
    · exact .inr hroom
  · rintro (hon | hfull) hroom -
    · exact hon
    · omega

/-- A write leaves the scan alone. -/
theorem quiet_of_target {a : Action} (h : a.target.isSome = true) : a.quiet = true := by
  cases a with
  | writeChar => rfl
  | _ => cases h

/-- The GAP callback stops the scan only to open a connection. -/
theorem World.Looking.gap {parse : List UInt8 → Option CJson} {w w' : World} {e : GapEvent}
    (hl : w.Looking) (h : world parse w (.gap e) = some w') : w'.Looking := by
  intro hroom hidle
  cases e with
  | scanParamSetComplete =>
      cases h
      rfl
  | scanResult inquiryResult adv bda addrType =>
      cases hmatch : (inquiryResult && isKlipAdv adv) with
      | false =>
          simp only [world, World.step, gapEventHandler, hmatch, Option.map_some,
            Option.some.injEq] at h
          subst h
          exact hl hroom hidle
      | true =>
          simp only [world, World.step, gapEventHandler, hmatch, Option.map_some,
            Option.some.injEq] at h
          subst h
          cases hidle
  | other =>
      cases h
      exact hl hroom hidle

/-- **One event keeps the router looking exactly when it resumes the scan.** -/
theorem looking_step_iff {parse : List UInt8 → Option CJson} {w w' : World} {e : Event}
    (hl : w.Looking) (h : world parse w e = some w') : w'.Looking ↔ Resumed w e := by
  cases e with
  | serialRx data =>
      cases h
      exact iff_of_true ((looking_perform _ fun a ha =>
        quiet_of_target (target_feed w.router data a ha)).mpr hl) trivial
  | gap e => exact iff_of_true (hl.gap h) trivial
  | gattc e =>
      obtain ⟨-, r, acts, hhandler, rfl⟩ := world_gattc h
      cases e with
      | connect gattcIf connId bda =>
          have hpair := Except.ok.inj hhandler
          have hquiet := quiet_connectEvt w.router gattcIf connId bda
          rw [hpair] at hquiet
          rw [looking_perform _ hquiet]
          exact looking_iff_of_idle rfl
      | openFailed =>
          cases hhandler
          exact looking_iff_of_idle rfl
      | disconnect connId =>
          have hacts : acts = emitFor w.router.nodes connId (bareHeader .error) ++
              [.startScanning] := (congrArg Prod.snd (Except.ok.inj hhandler)).symm
          refine iff_of_true (fun _ _ => ?_) trivial
          rw [hacts, World.perform, List.foldl_append]
          rfl
      | searchCmpl gattcIf connId db =>
          exact iff_of_true ((looking_perform _ (quiet_searchCmplEvt hhandler)).mpr hl) trivial
      | notify n =>
          exact iff_of_true ((looking_perform _ (quiet_notifyEvt hhandler)).mpr hl) trivial
      | reg gattcIf =>
          cases hhandler
          exact iff_of_true hl trivial
      | searchRes connId =>
          cases hhandler
          exact iff_of_true hl trivial
      | other =>
          cases hhandler
          exact iff_of_true hl trivial

/-- **When the router keeps looking.**  From the moment the scan parameters are
set, the router is looking after every event of a run exactly when every connect
and every failed open of the run finds the scan on again, or the router then has no
room. -/
theorem looking_along_iff (parse : List UInt8 → Option CJson) (w : World) (es : List Event) :
    (w.scanParamsSet.Looking ∧
        System.Along (world parse) (fun _ _ w' => w'.Looking) w.scanParamsSet es) ↔
      System.Along (world parse) (fun w e _ => Resumed w e) w.scanParamsSet es := by
  have hstart : w.scanParamsSet.Looking := fun _ _ => rfl
  rw [System.along_iff (fun _ => True) World.Looking _ (fun w e _ => Resumed w e)
    (fun _ _ _ _ _ => trivial) (fun _ _ _ _ hl h => looking_step_iff hl h)
    (fun _ _ _ _ hl h hguard => (looking_step_iff hl h).mpr hguard) es _ trivial hstart]
  exact and_iff_right hstart

/-- One node is found, and it connects. -/
def firstNodeRun : List Event :=
  [.gap (.scanResult true (some [0x4C, 0x4B]) (peer 1) 0), connectTo 0 (peer 1)]

/-- The router has one connection and has stopped looking. -/
theorem firstNodeRun_not_looking :
    ∃ w, (world noJson).run World.start.scanParamsSet firstNodeRun = some w ∧
      w.live.length = 1 ∧ w.openPending = false ∧ w.scanning = false ∧ ¬ w.Looking := by
  have hend : ((world noJson).run World.start.scanParamsSet firstNodeRun).map
      (fun w => (w.live.length, w.openPending, w.scanning)) = some (1, false, false) := by decide
  obtain ⟨w, hrun, hw⟩ := Option.map_eq_some_iff.mp hend
  obtain ⟨hlive, hopen, hscan⟩ : w.live.length = 1 ∧ w.openPending = false ∧
      w.scanning = false := by simpa using hw
  refine ⟨w, hrun, hlive, hopen, hscan, fun hl => ?_⟩
  rw [hl (by rw [hlive]; decide) hopen] at hscan
  cases hscan

end Klippylink
