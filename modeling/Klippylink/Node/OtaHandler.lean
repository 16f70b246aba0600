import Klippylink.Lib.Checksum
import Klippylink.Lib.System
import Klippylink.Protocol.Packet
import Mathlib.Data.Int.Notation

/-!
# The node's firmware updater

`ota_handler.c`: an update is begun with the size and the CRC-32 of the image,
written piece by piece, and ended, which reads the partition back, compares the
CRC-32 and switches the boot partition.  What the flash and the allocator do is an
outcome given with each call; the functions return the calls they make into
ESP-IDF, in order.

The rule about the switch is stated over a `Session`, which follows the calls and
the values they return and knows nothing of the file-level variables.

## Main definitions

* `OtaState` — the file-level variables.
* `otaBegin`, `otaWrite`, `otaEnd`, `otaAbort` — the four functions.
* `Session` — what has been announced and accepted since the last begin.
* `OtaDevice`, `otaDevice` — the updater with its boot partition, call after call.
* `boot_switch_verified` — when the boot partition is switched.
-/

namespace Klippylink

open Lib

/-! ## Into ESP-IDF -/

/-- `esp_err_t`. -/
abbrev EspErr := ℤ

/-- `ESP_OK`. -/
def espOk : EspErr := 0

/-- `ESP_ERR_NO_MEM`. -/
def espErrNoMem : EspErr := 0x101

/-- `ESP_ERR_INVALID_ARG`. -/
def espErrInvalidArg : EspErr := 0x102

/-- `ESP_ERR_INVALID_STATE`. -/
def espErrInvalidState : EspErr := 0x103

/-- `ESP_ERR_NOT_FOUND`. -/
def espErrNotFound : EspErr := 0x105

/-- `ESP_ERR_INVALID_CRC`. -/
def espErrInvalidCrc : EspErr := 0x109

/-- A partition, by its label. -/
abbrev Partition := ℕ

/-- The calls the updater makes.  A partition is a pointer, null before the first
update. -/
inductive EspCall
  | otaBegin (part : Partition)
  | otaWrite (handle : UInt32) (data : List UInt8)
  | otaEnd (handle : UInt32)
  | otaAbort (handle : UInt32)
  /-- `esp_ota_set_boot_partition`, which returned `ret`. -/
  | setBootPartition (part : Option Partition) (ret : EspErr)
  /-- The status callback that was given to `ota_begin`. -/
  | statusCb (status : UInt8)
  /-- `esp_restart`. -/
  | restart
  deriving DecidableEq

/-- What `esp_ota_get_next_update_partition` and `esp_ota_begin` come to. -/
structure BeginOutcome where
  part : Option Partition
  ret : EspErr
  handle : UInt32

/-- What the calls of `ota_end` come to.  `read i` is the byte that the buffer
holds for position `i` after `esp_partition_read`, whether that succeeded or not. -/
structure EndOutcome where
  mallocOk : Bool
  read : ℕ → UInt8
  endRet : EspErr
  setBootRet : EspErr

/-! ## The four functions -/

/-- The file-level variables. -/
structure OtaState where
  handle : UInt32
  part : Option Partition
  expectedCrc : UInt32
  receivedBytes : UInt32
  totalBytes : UInt32
  /-- `s_cb` is not null. -/
  cb : Bool
  active : Bool
  deriving DecidableEq

/-- The static initialisers. -/
def OtaState.start : OtaState := ⟨0, none, 0, 0, 0, false, false⟩

/-- What a function leaves, the calls it makes and what it returns. -/
structure OtaReturn where
  state : OtaState
  calls : List EspCall
  ret : EspErr

/-- `if (s_cb) s_cb(status)`. -/
def OtaState.report (s : OtaState) (status : UInt8) : List EspCall :=
  if s.cb then [.statusCb status] else []

/-- `ota_abort`. -/
def otaAbort (s : OtaState) : OtaState × List EspCall :=
  if s.active then ({ s with active := false }, [.otaAbort s.handle]) else (s, [])

/-- `ota_begin`. -/
def otaBegin (s : OtaState) (size crc32 : UInt32) (cb : Bool) (out : BeginOutcome) : OtaReturn :=
  let aborted := otaAbort s
  let s := { aborted.1 with part := out.part }
  match out.part with
  | none => ⟨s, aborted.2, espErrNotFound⟩
  | some part =>
      if out.ret ≠ espOk then ⟨s, aborted.2 ++ [.otaBegin part], out.ret⟩
      else
        let s := { s with
          handle := out.handle, expectedCrc := crc32, totalBytes := size, receivedBytes := 0,
          cb := cb, active := true }
        ⟨s, aborted.2 ++ .otaBegin part :: s.report klipOtaInProgress, espOk⟩

/-- `ota_write`, where `esp_ota_write` returns `ret`. -/
def otaWrite (s : OtaState) (data : List UInt8) (ret : EspErr) : OtaReturn :=
  if s.active then
    if ret ≠ espOk then
      let aborted := otaAbort s
      ⟨aborted.1, .otaWrite s.handle data :: aborted.2 ++ aborted.1.report klipOtaError, ret⟩
    else
      ⟨{ s with receivedBytes := s.receivedBytes + UInt32.ofNat data.length },
        [.otaWrite s.handle data], espOk⟩
  else ⟨s, [], espErrInvalidState⟩

/-- The loop of `ota_end` over the partition, 256 bytes at a time. -/
def readBackGo (crc : UInt32 → List UInt8 → UInt32) (read : ℕ → UInt8) (received offset : ℕ)
    (actualCrc : UInt32) : UInt32 :=
  if offset < received then
    let chunk := if received - offset < 256 then received - offset else 256
    let buf := (List.range chunk).map fun i => read (offset + i)
    readBackGo crc read received (offset + chunk) (crc actualCrc buf)
  else actualCrc
termination_by received - offset
decreasing_by split <;> omega

/-- `actual_crc`; zero when there is no buffer to read into. -/
def readBackCrc (crc : UInt32 → List UInt8 → UInt32) (received : UInt32) (out : EndOutcome) :
    UInt32 :=
  if out.mallocOk then readBackGo crc out.read received.toNat 0 0 else 0

/-- `ota_end`.  A restart clears the file-level variables. -/
def otaEnd (crc : UInt32 → List UInt8 → UInt32) (s : OtaState) (out : EndOutcome) : OtaReturn :=
  if s.active then
    let ended := { s with active := false }
    -- a CRC-32 of zero asks for no check
    if s.expectedCrc ≠ 0 ∧ readBackCrc crc s.receivedBytes out ≠ s.expectedCrc then
      ⟨ended, .otaAbort s.handle :: s.report klipOtaError, espErrInvalidCrc⟩
    else if out.endRet ≠ espOk then
      ⟨ended, .otaEnd s.handle :: s.report klipOtaError, out.endRet⟩
    else if out.setBootRet ≠ espOk then
      ⟨ended, .otaEnd s.handle :: .setBootPartition s.part out.setBootRet ::
        s.report klipOtaError, out.setBootRet⟩
    else
      ⟨OtaState.start, .otaEnd s.handle :: .setBootPartition s.part out.setBootRet ::
        s.report klipOtaOk ++ [.restart], espOk⟩
  else ⟨s, [], espErrInvalidState⟩

/-! ## The read-back loop -/

section ReadBack

variable {crc : UInt32 → List UInt8 → UInt32} (hcrc : Chainable crc)
include hcrc

/-- From any offset the loop takes the checksum of what is left to read. -/
theorem readBackGo_eq (read : ℕ → UInt8) (received offset : ℕ) (acc : UInt32) :
    readBackGo crc read received offset acc =
      crc acc ((List.range (received - offset)).map fun i => read (offset + i)) := by
  fun_induction readBackGo crc read received offset acc with
  | case1 offset acc hlt chunk buf ih =>
      have hchunk : chunk ≤ received - offset := by
        simp only [chunk]
        split <;> omega
      have hsplit : received - offset = chunk + (received - (offset + chunk)) := by omega
      have hbuf : (List.range (received - offset)).map (fun i => read (offset + i)) =
          buf ++ (List.range (received - (offset + chunk))).map
            fun i => read (offset + chunk + i) := by
        rw [hsplit, List.range_add, List.map_append, List.map_map]
        simp only [buf, Function.comp_def, Nat.add_assoc]
      rw [ih, hbuf, hcrc.append]
  | case2 offset acc hge =>
      have hzero : received - offset = 0 := by omega
      rw [hzero, List.range_zero, List.map_nil, hcrc.nil]

/-- **The chunks of 256 bytes make one checksum**, that of the bytes read back. -/
theorem readBackCrc_eq (received : UInt32) {out : EndOutcome} (h : out.mallocOk = true) :
    readBackCrc crc received out = crc 0 ((List.range received.toNat).map out.read) := by
  rw [readBackCrc, if_pos h, readBackGo_eq hcrc]
  simp only [Nat.sub_zero, Nat.zero_add]

end ReadBack

/-! ## Sessions -/

/-- An update: the size and the CRC-32 announced to `ota_begin`, and the bytes
`ota_write` has accepted since. -/
structure Session where
  size : UInt32
  crc32 : UInt32
  accepted : List UInt8
  deriving DecidableEq

/-- A call with its arguments and the outcomes it meets. -/
inductive OtaCall
  | begin (size crc32 : UInt32) (cb : Bool) (out : BeginOutcome)
  | write (data : List UInt8) (ret : EspErr)
  | finish (out : EndOutcome)
  | abort

/-- The function of a call. -/
def OtaCall.perform (crc : UInt32 → List UInt8 → UInt32) (s : OtaState) : OtaCall → OtaReturn
  | .begin size crc32 cb out => otaBegin s size crc32 cb out
  | .write data ret => otaWrite s data ret
  | .finish out => otaEnd crc s out
  | .abort => ⟨(otaAbort s).1, (otaAbort s).2, espOk⟩

/-- The session after a call that returned `ret`.  A call that fails ends it. -/
def Session.next (session : Option Session) (call : OtaCall) (ret : EspErr) : Option Session :=
  match call with
  | .begin size crc32 _ _ => if ret = espOk then some ⟨size, crc32, []⟩ else none
  | .write data _ =>
      if ret = espOk then session.map fun x => { x with accepted := x.accepted ++ data }
      else none
  | .finish _ => none
  | .abort => none

/-- The updater, the partition selected for booting, and the session. -/
structure OtaDevice where
  ota : OtaState
  boot : Option Partition
  session : Option Session

/-- The partition selected for booting after a call into ESP-IDF. -/
def EspCall.selects (boot : Option Partition) : EspCall → Option Partition
  | .setBootPartition part ret => if ret = espOk then part else boot
  | _ => boot

/-- The updater as a system: any call at any time. -/
def otaDevice (crc : UInt32 → List UInt8 → UInt32) : System OtaDevice OtaCall := fun d call =>
  let r := call.perform crc d.ota
  some ⟨r.state, r.calls.foldl EspCall.selects d.boot, Session.next d.session call r.ret⟩

/-- Before the first call. -/
def OtaDevice.start (boot : Option Partition) : OtaDevice := ⟨OtaState.start, boot, none⟩

/-- A call to `esp_ota_set_boot_partition`. -/
def EspCall.isSetBoot : EspCall → Bool
  | .setBootPartition _ _ => true
  | _ => false

/-- The call makes `esp_ota_set_boot_partition` be called. -/
def SetsBoot (crc : UInt32 → List UInt8 → UInt32) (d : OtaDevice) (call : OtaCall) : Prop :=
  (call.perform crc d.ota).calls.any EspCall.isSetBoot = true

/-! ### The variables follow the session -/

/-- The variables say what the session is. -/
def OtaState.Tracks (s : OtaState) : Option Session → Prop
  | none => s.active = false
  | some x => s.active = true ∧ s.expectedCrc = x.crc32 ∧ s.totalBytes = x.size ∧
      s.receivedBytes = UInt32.ofNat x.accepted.length

/-- After `ota_abort` no update is active, and the rest is as before. -/
theorem otaAbort_state (s : OtaState) : (otaAbort s).1 = { s with active := false } := by
  cases hactive : s.active with
  | false => rw [otaAbort, if_neg (by simp [hactive]), ← hactive]
  | true => rw [otaAbort, if_pos hactive]

/-- `ota_abort` makes one call, or none when no update is active. -/
theorem otaAbort_calls (s : OtaState) :
    (otaAbort s).2 = [] ∨ (otaAbort s).2 = [.otaAbort s.handle] := by
  cases hactive : s.active with
  | false => simp [otaAbort, hactive]
  | true => simp [otaAbort, hactive]

/-- The variables follow the session through every call. -/
theorem OtaState.Tracks.perform {s : OtaState} {session : Option Session}
    (h : s.Tracks session) (crc : UInt32 → List UInt8 → UInt32) (call : OtaCall) :
    (call.perform crc s).state.Tracks
      (Session.next session call (call.perform crc s).ret) := by
  cases call with
  | begin size crc32 cb out =>
      have hnotFound : ¬ espErrNotFound = espOk := by decide
      simp only [OtaCall.perform, otaBegin, otaAbort_state, Session.next]
      cases out.part with
      | none => simp only [hnotFound, if_false, Tracks]
      | some part =>
          by_cases hret : out.ret = espOk
          · simp only [hret, ne_eq, not_true_eq_false, if_true, if_false]
            exact ⟨rfl, rfl, rfl, rfl⟩
          · simp only [hret, ne_eq, not_false_eq_true, if_true, if_false, Tracks]
  | write data ret =>
      have hinvalid : ¬ espErrInvalidState = espOk := by decide
      cases session with
      | none =>
          have hactive : s.active = false := h
          simp only [OtaCall.perform, otaWrite, hactive, Bool.false_eq_true, if_false,
            Session.next, hinvalid, Tracks]
      | some x =>
          obtain ⟨hactive, hcrc, hsize, hreceived⟩ := h
          by_cases hret : ret = espOk
          · simp only [OtaCall.perform, otaWrite, hactive, hret, ne_eq, not_true_eq_false,
              if_true, if_false, Session.next, Option.map_some]
            refine ⟨rfl, hcrc, hsize, ?_⟩
            rw [hreceived, List.length_append, UInt32.ofNat_add]
          · simp only [OtaCall.perform, otaWrite, hactive, hret, ne_eq, not_false_eq_true,
              if_true, if_false, Session.next, otaAbort_state, Tracks]
  | finish out =>
      simp only [OtaCall.perform, otaEnd, Session.next, Tracks]
      by_cases hactive : s.active = true
      · rw [if_pos hactive]
        split_ifs <;> rfl
      · rw [if_neg hactive]
        exact Bool.eq_false_iff.mpr hactive
  | abort => simp only [OtaCall.perform, otaAbort_state, Session.next, Tracks]

/-! ### When the boot partition is switched -/

/-- The update ends well in ESP-IDF, and it was announced with a CRC-32 of zero or
with that of as many bytes of the partition as the session accepted, as they are
read back.  The count of the bytes has 32 bits. -/
def Session.Verified (crc : UInt32 → List UInt8 → UInt32) (x : Session) (out : EndOutcome) :
    Prop :=
  out.endRet = espOk ∧
    (x.crc32 = 0 ∨ out.mallocOk = true ∧
      crc 0 ((List.range (x.accepted.length % UInt32.size)).map out.read) = x.crc32)

/-- The partition reads back what was written. -/
def EndOutcome.Faithful (out : EndOutcome) (x : Session) : Prop :=
  ∀ i (h : i < x.accepted.length), out.read i = x.accepted[i]

/-- What `ota_handler.c` keeps to, at each call. -/
structure BootRule (crc : UInt32 → List UInt8 → UInt32) (d : OtaDevice) (call : OtaCall)
    (d' : OtaDevice) : Prop where
  /-- The boot partition is set exactly at the end of a verified session. -/
  sets : SetsBoot crc d call ↔
    ∃ out x, call = .finish out ∧ d.session = some x ∧ x.Verified crc out
  /-- Then the checksum is that of the accepted bytes, if they can be read back. -/
  image : ∀ out x, call = .finish out → d.session = some x → SetsBoot crc d call →
    out.Faithful x → x.accepted.length < UInt32.size → x.crc32 = 0 ∨ crc 0 x.accepted = x.crc32
  /-- Otherwise, and when setting it fails, the old partition stays selected. -/
  keeps : d'.boot ≠ d.boot → SetsBoot crc d call ∧
    ∃ part, EspCall.setBootPartition part espOk ∈ (call.perform crc d.ota).calls

/-- What is read back is what was accepted. -/
theorem EndOutcome.Faithful.read_eq {out : EndOutcome} {x : Session} (h : out.Faithful x) :
    (List.range x.accepted.length).map out.read = x.accepted := by
  apply List.ext_getElem
  · simp
  · intro i hi _
    rw [List.getElem_map, List.getElem_range]
    exact h i (by simpa using hi)

/-- Only setting the boot partition changes it. -/
theorem foldl_selects (calls : List EspCall) (boot : Option Partition)
    (h : calls.foldl EspCall.selects boot ≠ boot) :
    ∃ part, EspCall.setBootPartition part espOk ∈ calls := by
  induction calls generalizing boot with
  | nil => exact absurd rfl h
  | cons c calls ih =>
      by_cases hc : c.selects boot = boot
      · rw [List.foldl_cons, hc] at h
        obtain ⟨part, hpart⟩ := ih boot h
        exact ⟨part, List.mem_cons_of_mem _ hpart⟩
      · cases c with
        | setBootPartition part ret =>
            by_cases hret : ret = espOk
            · exact ⟨part, by simp [hret]⟩
            · exact absurd (if_neg hret) hc
        | _ => exact absurd rfl hc

@[simp] theorem any_isSetBoot_report (s : OtaState) (status : UInt8) :
    (s.report status).any EspCall.isSetBoot = false := by
  rw [OtaState.report]
  split <;> rfl

@[simp] theorem any_isSetBoot_otaAbort (s : OtaState) :
    (otaAbort s).2.any EspCall.isSetBoot = false := by
  rcases otaAbort_calls s with h | h <;> rw [h] <;> rfl

/-- `ota_begin` does not set the boot partition. -/
theorem any_isSetBoot_otaBegin (s : OtaState) (size crc32 : UInt32) (cb : Bool)
    (out : BeginOutcome) : (otaBegin s size crc32 cb out).calls.any EspCall.isSetBoot = false := by
  simp only [otaBegin]
  cases out.part with
  | none => exact any_isSetBoot_otaAbort s
  | some part =>
      by_cases hret : out.ret = espOk <;>
        simp only [hret, ne_eq, not_true_eq_false, not_false_eq_true, if_true, if_false,
          List.any_append, List.any_cons, List.any_nil, any_isSetBoot_otaAbort,
          any_isSetBoot_report, EspCall.isSetBoot, Bool.or_self]

/-- `ota_write` does not set the boot partition. -/
theorem any_isSetBoot_otaWrite (s : OtaState) (data : List UInt8) (ret : EspErr) :
    (otaWrite s data ret).calls.any EspCall.isSetBoot = false := by
  simp only [otaWrite]
  split_ifs <;> simp [EspCall.isSetBoot]

/-- `ota_end` sets it exactly in these cases. -/
theorem any_isSetBoot_otaEnd (crc : UInt32 → List UInt8 → UInt32) (s : OtaState)
    (out : EndOutcome) :
    (otaEnd crc s out).calls.any EspCall.isSetBoot = true ↔
      s.active = true ∧ out.endRet = espOk ∧
        (s.expectedCrc = 0 ∨ readBackCrc crc s.receivedBytes out = s.expectedCrc) := by
  simp only [otaEnd]
  by_cases hactive : s.active = true
  · by_cases hcrc : s.expectedCrc ≠ 0 ∧ readBackCrc crc s.receivedBytes out ≠ s.expectedCrc
    · simp [hactive, hcrc, EspCall.isSetBoot]
    · have hpass : s.expectedCrc = 0 ∨
          readBackCrc crc s.receivedBytes out = s.expectedCrc := by
        rw [not_and_or, not_not, not_not] at hcrc
        exact hcrc
      rw [if_pos hactive, if_neg hcrc]
      by_cases hend : out.endRet = espOk
      · by_cases hset : out.setBootRet = espOk <;>
          simp [hactive, hpass, hend, hset, EspCall.isSetBoot]
      · simp [hend, EspCall.isSetBoot]
  · simp [hactive]

section Rule

variable {crc : UInt32 → List UInt8 → UInt32} (hcrc : Chainable crc)
include hcrc

/-- The test of `ota_end`, in terms of the session. -/
theorem verified_iff {s : OtaState} {x : Session} (h : s.Tracks (some x)) (out : EndOutcome) :
    (s.active = true ∧ out.endRet = espOk ∧
      (s.expectedCrc = 0 ∨ readBackCrc crc s.receivedBytes out = s.expectedCrc)) ↔
      x.Verified crc out := by
  obtain ⟨hactive, hexpected, -, hreceived⟩ := h
  have hcount : s.receivedBytes.toNat = x.accepted.length % UInt32.size := by
    rw [hreceived, UInt32.toNat_ofNat']
  rw [hexpected, Session.Verified]
  refine ⟨fun ⟨_, hend, hpass⟩ => ⟨hend, ?_⟩, fun ⟨hend, hpass⟩ => ⟨hactive, hend, ?_⟩⟩
  · by_cases hzero : x.crc32 = 0
    · exact Or.inl hzero
    · have hread := hpass.resolve_left hzero
      cases hmalloc : out.mallocOk with
      | false =>
          -- without a buffer the checksum is zero, which is not the expected one
          rw [readBackCrc, hmalloc] at hread
          exact absurd hread.symm hzero
      | true =>
          rw [readBackCrc_eq hcrc _ hmalloc, hcount] at hread
          exact Or.inr ⟨rfl, hread⟩
  · rcases hpass with hzero | ⟨hmalloc, hread⟩
    · exact Or.inl hzero
    · rw [readBackCrc_eq hcrc _ hmalloc, hcount]
      exact Or.inr hread

/-- Which calls set the boot partition. -/
theorem setsBoot_iff {d : OtaDevice} (h : d.ota.Tracks d.session) (call : OtaCall) :
    SetsBoot crc d call ↔
      ∃ out x, call = .finish out ∧ d.session = some x ∧ x.Verified crc out := by
  rw [SetsBoot]
  cases call with
  | begin size crc32 cb out => simp [OtaCall.perform, any_isSetBoot_otaBegin]
  | write data ret => simp [OtaCall.perform, any_isSetBoot_otaWrite]
  | abort => simp [OtaCall.perform]
  | finish out =>
      rw [OtaCall.perform, any_isSetBoot_otaEnd]
      cases hsession : d.session with
      | none =>
          rw [hsession] at h
          have hactive : d.ota.active = false := h
          simp [hactive]
      | some x =>
          rw [hsession] at h
          rw [verified_iff hcrc h out]
          simp

/-- One call keeps the rule. -/
theorem bootRule_of_tracks {d d' : OtaDevice} {call : OtaCall} (h : d.ota.Tracks d.session)
    (hstep : otaDevice crc d call = some d') : BootRule crc d call d' := by
  have hsets := setsBoot_iff hcrc h call
  refine ⟨hsets, ?_, ?_⟩
  · rintro out x rfl hx hset hread hlen
    obtain ⟨out', x', hout, hx', -, hpass⟩ := hsets.mp hset
    obtain rfl : x = x' := Option.some.inj (hx.symm.trans hx')
    cases hout
    refine hpass.imp_right fun hpass => ?_
    rw [Nat.mod_eq_of_lt hlen, hread.read_eq] at hpass
    exact hpass.2
  · intro hboot
    cases hstep
    obtain ⟨part, hpart⟩ := foldl_selects _ _ hboot
    exact ⟨List.any_eq_true.mpr ⟨_, hpart, rfl⟩, part, hpart⟩

/-- **When the boot partition is switched.**  Along every sequence of calls, with
any arguments and any outcomes of the flash and the allocator. -/
theorem boot_switch_verified (boot : Option Partition) (calls : List OtaCall) :
    System.Along (otaDevice crc) (BootRule crc) (OtaDevice.start boot) calls := by
  refine System.along_of_invariant (fun d => d.ota.Tracks d.session) _ ?_ ?_ calls _ rfl
  · intro d call d' h hstep
    cases hstep
    exact OtaState.Tracks.perform h crc call
  · intro d call d' h hstep
    exact bootRule_of_tracks hcrc h hstep

end Rule

/-! ### Images that are not checked -/

/-- Every call into ESP-IDF succeeds, and the partition reads back as `image`. -/
def EndOutcome.ok (image : List UInt8) : EndOutcome := ⟨true, fun i => image.getD i 0, espOk, espOk⟩

/-- An update with this size and CRC-32 announced and these bytes written. -/
def updateCalls (size crc32 : UInt32) (image : List UInt8) : List OtaCall :=
  [.begin size crc32 true ⟨some 1, espOk, 7⟩, .write image espOk]

theorem boot_switch_verified_update :
    System.Along (otaDevice crc32) (BootRule crc32) (OtaDevice.start (some 0))
      (updateCalls 2 (crc32 0 [1, 2]) [1, 2] ++ [.finish (.ok [1, 2])]) :=
  boot_switch_verified chainable_crc32 (some 0) _

/-- The boot partition is set only for as many bytes as were announced, with the
CRC-32 that was announced. -/
def SizeAndCrc (crc : UInt32 → List UInt8 → UInt32) (d : OtaDevice) (call : OtaCall)
    (_ : OtaDevice) : Prop :=
  SetsBoot crc d call → ∃ x, d.session = some x ∧ x.accepted.length = x.size.toNat ∧
    crc 0 x.accepted = x.crc32

/-- What holds along an update holds at its end, where the session has the announced
values. -/
theorem along_updateCalls {T : OtaDevice → OtaCall → OtaDevice → Prop} {boot : Option Partition}
    {size crc : UInt32} {image : List UInt8} {out : EndOutcome}
    (h : System.Along (otaDevice crc32) T (OtaDevice.start boot)
      (updateCalls size crc image ++ [.finish out])) :
    ∃ d d', d.ota.Tracks (some ⟨size, crc, image⟩) ∧ d.session = some ⟨size, crc, image⟩ ∧
      T d (.finish out) d' :=
  ⟨_, _, ⟨rfl, rfl, rfl, UInt32.zero_add _⟩, rfl, h.2.2.1⟩

/-- Two bytes announced with a CRC-32 of zero are not checked at all; of two bytes
announced as three only the CRC-32 is checked. -/
theorem updates_not_sizeAndCrc :
    ¬ System.Along (otaDevice crc32) (SizeAndCrc crc32) (OtaDevice.start (some 0))
        (updateCalls 2 0 [1, 2] ++ [.finish (.ok [1, 2])]) ∧
      ¬ System.Along (otaDevice crc32) (SizeAndCrc crc32) (OtaDevice.start (some 0))
        (updateCalls 3 (crc32 0 [1, 2]) [1, 2] ++ [.finish (.ok [1, 2])]) := by
  refine ⟨fun h => ?_, fun h => ?_⟩
  · obtain ⟨d, d', htracks, hsession, hrule⟩ := along_updateCalls h
    have hset : SetsBoot crc32 d (.finish (.ok [1, 2])) :=
      (setsBoot_iff chainable_crc32 (hsession ▸ htracks) _).mpr
        ⟨_, _, rfl, hsession, rfl, Or.inl rfl⟩
    obtain ⟨x, hx, -, hcrc⟩ := hrule hset
    obtain rfl := Option.some.inj (hsession.symm.trans hx)
    exact absurd hcrc (by decide +kernel)
  · obtain ⟨d, d', htracks, hsession, hrule⟩ := along_updateCalls h
    have hset : SetsBoot crc32 d (.finish (.ok [1, 2])) :=
      (setsBoot_iff chainable_crc32 (hsession ▸ htracks) _).mpr
        ⟨_, _, rfl, hsession, rfl, Or.inr ⟨rfl, by decide +kernel⟩⟩
    obtain ⟨x, hx, hlen, -⟩ := hrule hset
    obtain rfl := Option.some.inj (hsession.symm.trans hx)
    exact absurd hlen (by decide)

end Klippylink
