import Klippylink.Node.ConfigSaver
import Klippylink.Node.LedNode
import Klippylink.Node.Main

/-!
# The effects engine and the configuration

`app_main` starts the effects engine when the configuration has a strip, and the server in
any case.  The server hands a packet about a zone to the engine without asking whether it
has been started; `xSemaphoreTake` stops the processor when its handle is null.

## Main definitions

* `bootNode` — what `app_main` leaves of the drivers and the engine.
* `NodeCall.takesMutex`, `ZonePacket` — the calls that take `s_mutex`, and the packets
  that lead to them.
* `BootedNode`, `bootedNode` — the system.
* `zone_mutex_iff` — when the mutex is there.
-/

namespace Klippylink

open Lib

/-- The devices and the effects engine when the server starts; `none` where
`ESP_ERROR_CHECK` aborts. -/
def bootNode (cfg : DeviceCfg) (out : BootOutcomes) : Option (Devices × LedEffects) :=
  (appMain cfg out).map fun d =>
    (d, if 0 < cfg.neopixels.count then ledEffectsInit LedEffects.start else LedEffects.start)

/-- The call takes `s_mutex`. -/
def NodeCall.takesMutex : NodeCall → Bool
  | .ledEffectsSetZone zoneId _ => zoneId.toNat < ledMaxZones
  | .ledEffectsClearZone zoneId => zoneId.toNat < ledMaxZones
  | _ => false

/-- LED_ZONE_SET or LED_ZONE_CLR of a zone there is. -/
def ZonePacket (w : Written) : Prop :=
  klipHeaderSize ≤ w.value.length ∧ ofLe16 (w.byte 0) (w.byte 1) = klipprotoMagic ∧
    (KlipCommand.ofCode (w.byte 2) = some .ledZoneSet ∧ 13 ≤ (w.byte 3).toNat ∨
      KlipCommand.ofCode (w.byte 2) = some .ledZoneClr ∧ 1 ≤ (w.byte 3).toNat) ∧
    (w.byte 4).toNat < ledMaxZones

/-- The server, the engine, and whether the processor has stopped. -/
structure BootedNode where
  server : GattServer
  effects : LedEffects
  stopped : Bool

/-- The packets that are written, one after another; a restart boots the node again. -/
def bootedNode (build : NodeBuild) (booted : LedEffects) : System BootedNode (Written × Outcomes) :=
  fun n e =>
    if n.stopped then none
    else
      let r := n.server.writeEvt build e.1 e.2
      match r.2.foldlM LedEffects.perform n.effects with
      | none => some { n with stopped := true }
      | some effects =>
          some ⟨r.1, if .updater .restart ∈ r.2 then booted else effects, false⟩

/-! ### The packets that take the mutex -/

/-- None of the calls takes the mutex. -/
def Harmless (calls : List NodeCall) : Prop := ∀ call ∈ calls, call.takesMutex = false

theorem harmless_nil : Harmless [] := fun _ h => by cases h

theorem harmless_singleton {call : NodeCall} (h : call.takesMutex = false) : Harmless [call] :=
  fun _ hmem => List.mem_singleton.mp hmem ▸ h

theorem harmless_ite {p : Prop} [Decidable p] {calls : List NodeCall} (h : Harmless calls) :
    Harmless (if p then calls else []) := by
  split
  · exact h
  · exact harmless_nil

theorem harmless_notify (s : GattServer) (data : List UInt8) : Harmless (s.notify data) := by
  rw [GattServer.notify]
  split
  · exact harmless_nil
  · exact harmless_singleton rfl

theorem harmless_afterOta (s : GattServer) (r : OtaReturn) : Harmless (s.afterOta r).2 := by
  intro call hcall
  obtain ⟨c, -, hcall⟩ := List.mem_flatMap.mp hcall
  cases c with
  | statusCb status => exact harmless_notify s _ call hcall
  | _ => exact harmless_singleton rfl call hcall

theorem harmless_wifiEnable (w : Written) : Harmless (GattServer.wifiEnable w) := by
  simp only [GattServer.wifiEnable]
  split
  · exact harmless_nil
  · split
    · exact harmless_nil
    · split
      · exact harmless_nil
      · exact harmless_singleton rfl

theorem harmless_sendDeviceInfo (build : NodeBuild) (s : GattServer) :
    Harmless (s.sendDeviceInfo build) := by
  rw [GattServer.sendDeviceInfo]
  split
  · exact harmless_nil
  · exact harmless_notify s _

theorem Harmless.not_exists {calls : List NodeCall} (h : Harmless calls) :
    ¬ ∃ call ∈ calls, call.takesMutex = true := by
  intro hex
  obtain ⟨call, hcall, htakes⟩ := hex
  rw [h call hcall] at htakes
  cases htakes

/-- **Only a packet about a zone takes the mutex.** -/
theorem takesMutex_writeEvt_iff (build : NodeBuild) (s : GattServer) (w : Written)
    (out : Outcomes) :
    (∃ call ∈ (s.writeEvt build w out).2, call.takesMutex = true) ↔ ZonePacket w := by
  rw [GattServer.writeEvt]
  split
  · next hlen =>
      rw [GattServer.dispatchPacket]
      split
      · next hmagic => exact iff_of_false harmless_nil.not_exists fun hzone => hmagic hzone.2.1
      · next hmagic =>
          simp only [ZonePacket, hlen, not_not.mp hmagic, true_and]
          cases hcommand : KlipCommand.ofCode (w.byte 2) with
          | none => exact iff_of_false harmless_nil.not_exists (by simp)
          | some command =>
              cases command with
              | ledZoneSet =>
                  by_cases hlength : 13 ≤ (w.byte 3).toNat <;>
                    simp [hlength, NodeCall.takesMutex]
              | ledZoneClr =>
                  by_cases hlength : 1 ≤ (w.byte 3).toNat <;>
                    simp [hlength, NodeCall.takesMutex]
              | otaBegin =>
                  refine iff_of_false (Harmless.not_exists ?_) (by simp)
                  simp only
                  split
                  · exact harmless_afterOta s _
                  · exact harmless_nil
              | heaterSet =>
                  refine iff_of_false (Harmless.not_exists (harmless_ite ?_)) (by simp)
                  exact List.forall_mem_cons.mpr ⟨rfl, harmless_singleton rfl⟩
              | _ =>
                  refine iff_of_false (Harmless.not_exists ?_) (by simp)
                  first
                    | exact harmless_nil
                    | exact harmless_notify s _
                    | exact harmless_afterOta s _
                    | exact harmless_wifiEnable w
                    | exact harmless_sendDeviceInfo build s
                    | exact harmless_ite (harmless_singleton rfl)
                    | exact harmless_ite (harmless_notify s _)
  · next hlen => exact iff_of_false harmless_nil.not_exists fun hzone => hlen hzone.1

/-! ### The mutex -/

/-- A call takes the mutex, and needs it to be there. -/
theorem perform_eq_none_iff {e : LedEffects} {call : NodeCall} :
    e.perform call = none ↔ call.takesMutex = true ∧ e.mutex = false := by
  cases call with
  | ledEffectsSetZone zoneId cfg =>
      rw [LedEffects.perform, Option.map_eq_none_iff, ledEffectsSetZone, NodeCall.takesMutex]
      by_cases hmax : ledMaxZones ≤ zoneId.toNat
      · simp [hmax]
      · by_cases hmutex : e.mutex = true <;> simp [hmax, hmutex, Nat.lt_of_not_le hmax]
  | ledEffectsClearZone zoneId =>
      rw [LedEffects.perform, Option.map_eq_none_iff, ledEffectsClearZone, NodeCall.takesMutex]
      by_cases hmax : ledMaxZones ≤ zoneId.toNat
      · simp [hmax]
      · by_cases hmutex : e.mutex = true
        · by_cases hactive : (e.zones.get ⟨zoneId.toNat, Nat.lt_of_not_le hmax⟩).active = true <;>
            simp [hmax, hmutex, hactive]
        · simp [hmax, hmutex, Nat.lt_of_not_le hmax]
  | _ => exact iff_of_false (by simp [LedEffects.perform]) (by simp [NodeCall.takesMutex])

/-- No call creates or deletes it. -/
theorem mutex_perform {e e' : LedEffects} {call : NodeCall} (h : e.perform call = some e') :
    e'.mutex = e.mutex := by
  cases call with
  | ledEffectsSetZone zoneId cfg =>
      obtain ⟨r, hr, rfl⟩ := Option.map_eq_some_iff.mp h
      rw [ledEffectsSetZone] at hr
      split at hr
      · cases hr
        rfl
      · split at hr <;> cases hr
        rfl
  | ledEffectsClearZone zoneId =>
      obtain ⟨r, hr, rfl⟩ := Option.map_eq_some_iff.mp h
      rw [ledEffectsClearZone] at hr
      split at hr
      · cases hr
        rfl
      · split at hr
        · simp only at hr
          split at hr <;> cases hr <;> rfl
        · cases hr
  | _ =>
      cases h
      rfl

theorem mutex_foldlM_perform {calls : List NodeCall} {e e' : LedEffects}
    (h : calls.foldlM LedEffects.perform e = some e') : e'.mutex = e.mutex := by
  induction calls generalizing e with
  | nil =>
      cases h
      rfl
  | cons call calls ih =>
      rw [List.foldlM_cons] at h
      obtain ⟨e₁, he₁, hrest⟩ := Option.bind_eq_some_iff.mp h
      rw [ih hrest, mutex_perform he₁]

theorem foldlM_perform_of_harmless {calls : List NodeCall} (e : LedEffects) (h : Harmless calls) :
    calls.foldlM LedEffects.perform e ≠ none := by
  induction calls generalizing e with
  | nil => exact Option.some_ne_none e
  | cons call calls ih =>
      obtain ⟨hcall, hrest⟩ := List.forall_mem_cons.mp h
      intro hnone
      rw [List.foldlM_cons] at hnone
      cases hfirst : e.perform call with
      | none =>
          rw [(perform_eq_none_iff.mp hfirst).1] at hcall
          cases hcall
      | some e' =>
          rw [hfirst] at hnone
          exact ih e' hrest hnone

/-- Whenever a call takes the mutex, it is there. -/
def TakesThere (build : NodeBuild) (n : BootedNode) (e : Written × Outcomes) (_ : BootedNode) :
    Prop :=
  ∀ call ∈ (n.server.writeEvt build e.1 e.2).2, call.takesMutex = true → n.effects.mutex = true

variable {build : NodeBuild} {booted : LedEffects}

/-- Every state of a node that has the mutex has it. -/
theorem mutex_step {n n' : BootedNode} {e : Written × Outcomes}
    (hmutex : n.effects.mutex = booted.mutex) (h : bootedNode build booted n e = some n') :
    n'.effects.mutex = booted.mutex := by
  simp only [bootedNode] at h
  split at h
  · cases h
  · split at h
    · cases h
      exact hmutex
    · next effects heffects =>
        cases h
        simp only
        split
        · rfl
        · rw [mutex_foldlM_perform heffects, hmutex]

variable (build booted)

/-- A running node takes every packet. -/
theorem exists_step {n : BootedNode} (hrunning : n.stopped = false) (e : Written × Outcomes) :
    ∃ n', bootedNode build booted n e = some n' ∧ (¬ ZonePacket e.1 → n'.stopped = false) := by
  simp only [bootedNode, hrunning, Bool.false_eq_true, if_false]
  split
  · next hnone =>
      refine ⟨_, rfl, fun hzone => absurd hnone (foldlM_perform_of_harmless _ fun call hcall => ?_)⟩
      rw [← takesMutex_writeEvt_iff build n.server e.1 e.2] at hzone
      exact Bool.eq_false_iff.mpr fun htakes => hzone ⟨call, hcall, htakes⟩
  · exact ⟨_, rfl, fun _ => rfl⟩

/-- Without the mutex, every packet of a run is one that does not take it. -/
theorem along_takesThere_iff (hbooted : booted.mutex = false) (es : List (Written × Outcomes))
    (n : BootedNode) (hmutex : n.effects.mutex = false) (hrunning : n.stopped = false) :
    System.Along (bootedNode build booted) (TakesThere build) n es ↔
      ∀ e ∈ es, ¬ ZonePacket e.1 := by
  induction es generalizing n with
  | nil => simp
  | cons e es ih =>
      obtain ⟨n', hstep, hkept⟩ := exists_step build booted hrunning e
      have hiff : TakesThere build n e n' ↔ ¬ ZonePacket e.1 := by
        rw [← takesMutex_writeEvt_iff build n.server e.1 e.2]
        simp [TakesThere, hmutex]
      rw [List.forall_mem_cons, System.along_cons hstep, hiff]
      refine and_congr_right fun hzone => ih n' ?_ (hkept hzone)
      rw [mutex_step (hmutex.trans hbooted.symm) hstep, hbooted]

/-- **The mutex is there whenever it is taken** exactly when the configuration has a strip
or no packet is a LED_ZONE_SET or LED_ZONE_CLR of a zone there is. -/
theorem zone_mutex_iff (parse : List UInt8 → Option CJson) (file : ConfigFile)
    (out : BootOutcomes) (build : NodeBuild) (d : Devices) (booted : LedEffects)
    (hboot : bootNode (configLoaderInit parse file).1 out = some (d, booted))
    (server : GattServer) (es : List (Written × Outcomes)) :
    System.Along (bootedNode build booted) (TakesThere build) ⟨server, booted, false⟩ es ↔
      0 < (configLoaderInit parse file).1.neopixels.count ∨ ∀ e ∈ es, ¬ ZonePacket e.1 := by
  obtain ⟨d', -, heq⟩ := Option.map_eq_some_iff.mp hboot
  obtain ⟨-, rfl⟩ := Prod.mk.inj heq
  by_cases hcount : 0 < (configLoaderInit parse file).1.neopixels.count
  · simp only [if_pos hcount]
    refine iff_of_true ?_ (.inl hcount)
    exact System.along_of_invariant (fun n => n.effects.mutex = true) _
      (fun n e n' hmutex hstep => mutex_step hmutex hstep)
      (fun n e n' hmutex _ _ _ _ => hmutex) es _ rfl
  · simp only [if_neg hcount]
    rw [or_iff_right hcount]
    exact along_takesThere_iff build _ rfl es ⟨server, LedEffects.start, false⟩ rfl rfl

/-- A node with one strip of three LEDs, to which a zone is sent. -/
theorem zone_mutex_iff_threeLeds :
    ∃ d booted, bootNode (configLoaderInit (fun _ => some (stripFile 3))
        ⟨espOk, some (ascii threeLeds), true⟩).1 allInitialise = some (d, booted) ∧
      System.Along (bootedNode ⟨false, none, crc32⟩ booted) (TakesThere ⟨false, none, crc32⟩)
        ⟨GattServer.start, booted, false⟩
        [((zoneSetPacket 0 ⟨0, 0, 3, 0, (255, 0, 0), (0, 0, 0), 255, 128⟩).written fun _ => 0,
          noOutcomes)] := by
  obtain ⟨d, booted, hboot⟩ : ∃ d booted, bootNode (configLoaderInit
      (fun _ => some (stripFile 3)) ⟨espOk, some (ascii threeLeds), true⟩).1 allInitialise =
        some (d, booted) := ⟨_, _, rfl⟩
  refine ⟨d, booted, hboot, ?_⟩
  exact (zone_mutex_iff _ _ allInitialise _ d booted hboot _ _).mpr (.inl (by decide))

/-- There is no configuration file. -/
def noFile : ConfigFile := ⟨espOk, none, true⟩

/-- LED_ZONE_CLR is sent to it, and takes a null handle. -/
theorem noFile_takes_null :
    ∃ d booted, bootNode (configLoaderInit (fun _ => none) noFile).1 allInitialise =
        some (d, booted) ∧
      ¬ System.Along (bootedNode ⟨false, none, crc32⟩ booted) (TakesThere ⟨false, none, crc32⟩)
        ⟨GattServer.start, booted, false⟩
        [((zoneClrPacket 0).written fun _ => 0, noOutcomes)] := by
  refine ⟨_, _, rfl, fun halong => ?_⟩
  have hfirst := ((System.along_cons rfl).mp halong).1
  have hmutex := hfirst (.ledEffectsClearZone 0) (by decide) (by decide)
  cases hmutex

end Klippylink
