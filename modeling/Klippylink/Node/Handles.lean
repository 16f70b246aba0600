import Klippylink.Lib.Lease
import Klippylink.Node.OtaHandler
import Mathlib.Logic.Function.Basic

/-!
# The updater and its handle in ESP-IDF

ESP-IDF keeps a handle open from `esp_ota_begin` until `esp_ota_end` or `esp_ota_abort`, and
writes the pieces one behind the other into the partition of the handle.  The updater holds
one handle exactly while it is active; the partition then begins with the bytes accepted
since the last begin, and their number is `s_received_bytes`.

The return value of `esp_partition_read` is not looked at.  Where every read of `ota_end`
succeeds, the CRC-32 that is compared is the one of the accepted bytes.

## Main definitions

* `EspOta`, `EspOta.after` — ESP-IDF's handles and the partitions.
* `OtaWorld`, `otaWorld` — the updater with them, call after call.
* `SessionExact` — the updater's variables say what is open and what is written.
* `ReadsBack`, `ComparesImage` — at the end of an update.
-/

namespace Klippylink

open Lib

/-! ## ESP-IDF -/

/-- The open handles, each with its partition and how far it has been written, and the
partitions. -/
structure EspOta where
  handles : Leases UInt32 (Partition × ℕ)
  flash : Partition → ℕ → UInt8

/-- A call with the outcomes it meets, and what the partition holds afterwards behind the
bytes that are written to it. -/
structure OtaEvent where
  call : OtaCall
  behind : ℕ → UInt8

/-- Bytes from an offset on, with what is behind them. -/
def overwrite (old : ℕ → UInt8) (offset : ℕ) (data : List UInt8) (behind : ℕ → UInt8) :
    ℕ → UInt8 :=
  fun i => if i < offset then old i else data.getD (i - offset) (behind i)

namespace EspOta

/-- `esp_ota_begin`, which returned `out.ret`. -/
def otaBegin (e : EspOta) (part : Partition) (out : BeginOutcome) (behind : ℕ → UInt8) : EspOta :=
  { handles := if out.ret = espOk then e.handles.acquire out.handle (part, 0) else e.handles
    flash := Function.update e.flash part behind }

/-- `esp_ota_write`, which returned `ret`: bytes that are not accepted may be written in
part. -/
def otaWrite (e : EspOta) (handle : UInt32) (data : List UInt8) (ret : EspErr)
    (behind : ℕ → UInt8) : EspOta :=
  let accepted := if ret = espOk then data else []
  { handles := e.handles.use handle fun x => (x.1, x.2 + accepted.length)
    flash :=
      match e.handles.get handle with
      | none => e.flash
      | some (part, offset) =>
          Function.update e.flash part (overwrite (e.flash part) offset accepted behind) }

/-- `esp_ota_end` and `esp_ota_abort` release the handle, whatever they return. -/
def release (e : EspOta) (handle : UInt32) : EspOta :=
  { e with handles := e.handles.release handle }

/-- What a call of the updater does, with the outcomes of the event. -/
def after (ev : OtaEvent) (e : EspOta) : EspCall → EspOta
  | .otaBegin part =>
      match ev.call with
      | .begin _ _ _ out => e.otaBegin part out ev.behind
      | _ => e
  | .otaWrite handle data =>
      match ev.call with
      | .write _ ret => e.otaWrite handle data ret ev.behind
      | _ => e
  | .otaEnd handle => e.release handle
  | .otaAbort handle => e.release handle
  | _ => e

/-- An `esp_ota_write` that succeeds does not pass the end of the partition. -/
def fits (size : Partition → UInt32) (e : EspOta) (handle : UInt32) : OtaCall → Bool
  | .write data ret =>
      match e.handles.get handle with
      | none => true
      | some (part, offset) => ret ≠ espOk || offset + data.length ≤ (size part).toNat
  | _ => true

end EspOta

/-! ## The updater with it -/

/-- The updater, what it has accepted, and ESP-IDF. -/
structure OtaWorld where
  ota : OtaState
  session : Option Session
  esp : EspOta

/-- The updater as a system: any call at any time, with any outcomes; `size` are the sizes
of the partitions. -/
def otaWorld (crc : UInt32 → List UInt8 → UInt32) (size : Partition → UInt32) :
    System OtaWorld OtaEvent := fun w ev =>
  if w.esp.fits size w.ota.handle ev.call then
    let r := ev.call.perform crc w.ota
    some ⟨r.state, Session.next w.session ev.call r.ret, r.calls.foldl (EspOta.after ev) w.esp⟩
  else none

/-- Before the first call. -/
def OtaWorld.start (flash : Partition → ℕ → UInt8) : OtaWorld :=
  ⟨OtaState.start, none, Leases.empty, flash⟩

/-- What the updater's variables say, and what is so. -/
structure SessionExact (w : OtaWorld) : Prop where
  /-- An update is active exactly while a handle is open. -/
  active_iff : w.ota.active = true ↔ w.esp.handles.held ≠ []
  /-- Then it is the only one, and that of `s_handle` and `s_part`. -/
  known : w.ota.active = true →
    ∃ part n, w.ota.part = some part ∧ w.esp.handles.held = [(w.ota.handle, part, n)]
  /-- No handle was used or released while it was not open. -/
  proper : w.esp.handles.misused = false
  /-- While an update is active, its bytes are counted, and the partition begins with
  them. -/
  received : w.ota.active = true → ∃ x, w.session = some x ∧
    w.ota.receivedBytes.toNat = x.accepted.length ∧
    ∀ part, w.ota.part = some part → (List.range x.accepted.length).map (w.esp.flash part) =
      x.accepted

/-- Every `esp_partition_read` of an `ota_end` that compares leaves the bytes of the
partition in the buffer. -/
def ReadsBack (w : OtaWorld) (ev : OtaEvent) (_ : OtaWorld) : Prop :=
  ∀ out part, ev.call = .finish out → w.ota.active = true → w.ota.expectedCrc ≠ 0 →
    out.mallocOk = true → w.ota.part = some part →
      ∀ i < w.ota.receivedBytes.toNat, out.read i = w.esp.flash part i

/-- The value that `ota_end` compares is the CRC-32 of the accepted bytes, when there is a
buffer. -/
def ComparesImage (crc : UInt32 → List UInt8 → UInt32) (w : OtaWorld) (ev : OtaEvent)
    (_ : OtaWorld) : Prop :=
  ∀ out x, ev.call = .finish out → w.session = some x → w.ota.expectedCrc ≠ 0 →
    out.mallocOk = true → readBackCrc crc w.ota.receivedBytes out = crc 0 x.accepted

/-! ### The handle and the session -/

/-- With no session nothing is open; with one, its handle is, and its partition begins with
what was accepted and has room for it. -/
def EspOta.Carries (size : Partition → UInt32) (e : EspOta) (s : OtaState) :
    Option Session → Prop
  | none => e.handles = Leases.empty
  | some x => ∃ part, s.part = some part ∧
      e.handles = Leases.sole s.handle (part, x.accepted.length) ∧
      x.accepted.length ≤ (size part).toNat ∧
      (List.range x.accepted.length).map (e.flash part) = x.accepted

section Step

variable {size : Partition → UInt32} {e : EspOta} {s : OtaState} {session : Option Session}

/-- A status is nothing to ESP-IDF. -/
@[simp] theorem foldl_after_report (ev : OtaEvent) (e : EspOta) (s : OtaState) (status : UInt8) :
    (s.report status).foldl (EspOta.after ev) e = e := by
  rw [OtaState.report]
  split <;> rfl

/-- `ota_abort` leaves no handle open. -/
theorem handles_abort (ev : OtaEvent) (htracks : s.Tracks session)
    (h : e.Carries size s session) :
    ((otaAbort s).2.foldl (EspOta.after ev) e).handles = Leases.empty := by
  cases session with
  | none =>
      have hactive : s.active = false := htracks
      have hcarries : e.handles = Leases.empty := h
      simp [otaAbort, hactive, hcarries]
  | some x =>
      obtain ⟨part, -, hhandles, -⟩ := h
      simp [otaAbort, htracks.1, EspOta.after, EspOta.release, hhandles]

/-- A begin that succeeds opens a handle on the partition, behind whatever was aborted. -/
theorem carries_begin (htracks : s.Tracks session) (h : e.Carries size s session)
    (size' crc : UInt32) (cb : Bool) (out : BeginOutcome) (behind : ℕ → UInt8) :
    let r := otaBegin s size' crc cb out
    EspOta.Carries size (r.calls.foldl (EspOta.after ⟨.begin size' crc cb out, behind⟩) e) r.state
      (Session.next session (.begin size' crc cb out) r.ret) := by
  have habort := handles_abort ⟨.begin size' crc cb out, behind⟩ htracks h
  have hnotFound : ¬ espErrNotFound = espOk := by decide
  simp only [otaBegin, Session.next]
  cases out.part with
  | none =>
      simp only [hnotFound, if_false]
      exact habort
  | some part =>
      by_cases hret : out.ret = espOk
      · simp only [hret, ne_eq, not_true_eq_false, if_true, if_false, List.foldl_append,
          List.foldl_cons, foldl_after_report]
        refine ⟨part, rfl, ?_, Nat.zero_le _, rfl⟩
        simp only [EspOta.after, EspOta.otaBegin, hret, if_true, habort, Leases.acquire_empty]
        rfl
      · simp only [hret, ne_eq, not_false_eq_true, if_true, if_false, List.foldl_append,
          List.foldl_cons, List.foldl_nil]
        simp only [EspOta.Carries, EspOta.after, EspOta.otaBegin, hret, if_false]
        exact habort

/-- Bytes that are accepted are behind the ones before them. -/
theorem map_overwrite {old behind : ℕ → UInt8} {accepted : List UInt8}
    (h : (List.range accepted.length).map old = accepted) (data : List UInt8) :
    (List.range (accepted ++ data).length).map
      (overwrite old accepted.length data behind) = accepted ++ data := by
  rw [List.length_append, List.range_add, List.map_append, List.map_map]
  congr 1
  · refine Eq.trans (List.map_congr_left fun i hi => ?_) h
    exact if_pos (List.mem_range.mp hi)
  · apply List.ext_getElem
    · simp
    · intro i hi hi'
      have hbehind : ¬ accepted.length + i < accepted.length := by omega
      simp [overwrite, hi', hbehind]

/-- A write is accepted behind the bytes that the partition begins with, or ends the
session. -/
theorem carries_write (htracks : s.Tracks session) (h : e.Carries size s session)
    (data : List UInt8) (ret : EspErr) (behind : ℕ → UInt8)
    (hfits : e.fits size s.handle (.write data ret) = true) :
    let r := otaWrite s data ret
    EspOta.Carries size (r.calls.foldl (EspOta.after ⟨.write data ret, behind⟩) e) r.state
      (Session.next session (.write data ret) r.ret) := by
  have hinvalid : ¬ espErrInvalidState = espOk := by decide
  cases session with
  | none =>
      have hactive : s.active = false := htracks
      simp only [otaWrite, hactive, Bool.false_eq_true, if_false, Session.next, hinvalid]
      exact h
  | some x =>
      obtain ⟨part, hpart, hhandles, hsize, hflash⟩ := h
      have hactive := htracks.1
      by_cases hret : ret = espOk
      · simp only [otaWrite, hactive, hret, ne_eq, not_true_eq_false, if_true, if_false,
          Session.next, Option.map_some, List.foldl_cons, List.foldl_nil]
        simp only [EspOta.fits, hhandles, Leases.get_sole, hret, ne_eq, not_true_eq_false,
          decide_false, Bool.false_or, decide_eq_true_eq] at hfits
        refine ⟨part, hpart, ?_, ?_, ?_⟩
        · simp only [EspOta.after, EspOta.otaWrite, hhandles, if_true, Leases.use_sole,
            List.length_append]
        · rw [List.length_append]
          exact hfits
        · simp only [EspOta.after, EspOta.otaWrite, hhandles, if_true, Leases.get_sole,
            Function.update_self]
          exact map_overwrite hflash data
      · simp only [otaWrite, otaAbort, hactive, hret, ne_eq, not_false_eq_true, if_true, if_false,
          Session.next, List.foldl_cons, List.foldl_append, foldl_after_report]
        simp [EspOta.Carries, EspOta.after, EspOta.otaWrite, EspOta.release, hhandles]

/-- `ota_end` leaves no handle open. -/
theorem carries_finish (crc : UInt32 → List UInt8 → UInt32) (htracks : s.Tracks session)
    (h : e.Carries size s session) (out : EndOutcome) (behind : ℕ → UInt8) :
    let r := otaEnd crc s out
    EspOta.Carries size (r.calls.foldl (EspOta.after ⟨.finish out, behind⟩) e) r.state none := by
  cases session with
  | none =>
      have hactive : s.active = false := htracks
      simp only [otaEnd, hactive, Bool.false_eq_true, if_false]
      exact h
  | some x =>
      obtain ⟨part, -, hhandles, -⟩ := h
      simp only [otaEnd, htracks.1, if_true, EspOta.Carries]
      split_ifs <;>
        simp [EspOta.after, EspOta.release, hhandles]

/-- **One call** keeps handle and session together. -/
theorem carries_perform (crc : UInt32 → List UInt8 → UInt32) (htracks : s.Tracks session)
    (h : e.Carries size s session) (ev : OtaEvent)
    (hfits : e.fits size s.handle ev.call = true) :
    EspOta.Carries size ((ev.call.perform crc s).calls.foldl (EspOta.after ev) e)
      (ev.call.perform crc s).state (Session.next session ev.call (ev.call.perform crc s).ret) := by
  obtain ⟨call, behind⟩ := ev
  cases call with
  | begin size' crc' cb out => exact carries_begin htracks h size' crc' cb out behind
  | write data ret => exact carries_write htracks h data ret behind hfits
  | finish out => exact carries_finish crc htracks h out behind
  | abort => exact handles_abort ⟨.abort, behind⟩ htracks h

end Step

/-! ## Every run -/

/-- The variables follow the session, and the handle does. -/
def OtaWorld.Follows (size : Partition → UInt32) (w : OtaWorld) : Prop :=
  w.ota.Tracks w.session ∧ w.esp.Carries size w.ota w.session

theorem OtaWorld.Follows.step {crc : UInt32 → List UInt8 → UInt32} {size : Partition → UInt32}
    {w w' : OtaWorld} {ev : OtaEvent} (h : w.Follows size)
    (hstep : otaWorld crc size w ev = some w') :
    w'.Follows size := by
  rw [otaWorld] at hstep
  split at hstep
  · next hfits =>
      cases hstep
      exact ⟨OtaState.Tracks.perform h.1 crc ev.call, carries_perform crc h.1 h.2 ev hfits⟩
  · cases hstep

/-- A session that fits its partition is counted without a wrap. -/
theorem receivedBytes_eq {size : Partition → UInt32} {w : OtaWorld} {x : Session}
    (h : w.Follows size) (hx : w.session = some x) :
    w.ota.receivedBytes.toNat = x.accepted.length := by
  obtain ⟨htracks, hcarries⟩ := h
  rw [hx] at htracks hcarries
  obtain ⟨part, -, -, hsize, -⟩ := hcarries
  have hlt := (size part).toNat_lt
  rw [htracks.2.2.2, UInt32.toNat_ofNat']
  exact Nat.mod_eq_of_lt (Nat.lt_of_le_of_lt hsize hlt)

theorem OtaWorld.Follows.exact {size : Partition → UInt32} {w : OtaWorld} (h : w.Follows size) :
    SessionExact w := by
  have hcount := fun x => receivedBytes_eq (x := x) h
  obtain ⟨htracks, hcarries⟩ := h
  cases hsession : w.session with
  | none =>
      rw [hsession] at htracks hcarries
      have hactive : w.ota.active = false := htracks
      have hhandles : w.esp.handles = Leases.empty := hcarries
      refine ⟨?_, ?_, ?_, ?_⟩
      · simp [hactive, hhandles, Leases.empty]
      · simp [hactive]
      · rw [hhandles]
        rfl
      · simp [hactive]
  | some x =>
      rw [hsession] at htracks hcarries
      have hactive := htracks.1
      obtain ⟨part, hpart, hhandles, hsize, hflash⟩ := hcarries
      refine ⟨?_, ?_, ?_, ?_⟩
      · simp [hactive, hhandles, Leases.sole]
      · exact fun _ => ⟨part, x.accepted.length, hpart, by rw [hhandles]; rfl⟩
      · rw [hhandles]
        rfl
      · refine fun _ => ⟨x, hsession, hcount x hsession, fun part' hpart' => ?_⟩
        obtain rfl := Option.some.inj (hpart.symm.trans hpart')
        exact hflash

/-- When the buffer holds what the partition does, the accepted bytes are compared. -/
theorem OtaWorld.Follows.compares {crc : UInt32 → List UInt8 → UInt32} (hcrc : Chainable crc)
    {size : Partition → UInt32} {w w' : OtaWorld} {ev : OtaEvent} (h : w.Follows size)
    (hread : ReadsBack w ev w') : ComparesImage crc w ev w' := by
  intro out x hcall hx hcompare hmalloc
  have hcount := receivedBytes_eq h hx
  obtain ⟨htracks, hcarries⟩ := h
  rw [hx] at htracks hcarries
  obtain ⟨part, hpart, -, -, hflash⟩ := hcarries
  have hsame := hread out part hcall htracks.1 hcompare hmalloc hpart
  rw [hcount] at hsame
  rw [readBackCrc_eq hcrc _ hmalloc, hcount]
  have hmap : (List.range x.accepted.length).map out.read =
      (List.range x.accepted.length).map (w.esp.flash part) :=
    List.map_congr_left fun i hi => hsame i (List.mem_range.mp hi)
  rw [hmap, hflash]

/-- **The updater's session is exact along every run.**  In every state that a sequence of
calls reaches, whatever ESP-IDF and the allocator do, the updater is active exactly while its
handle is open, no other handle is and none was misused, and its bytes are counted and in the
partition.  When the reads of `ota_end` succeed, what it compares is their CRC-32. -/
theorem ota_session_exact {crc : UInt32 → List UInt8 → UInt32} (hcrc : Chainable crc)
    (size : Partition → UInt32) (flash : Partition → ℕ → UInt8) (es : List OtaEvent) :
    (∀ w, System.run (otaWorld crc size) (OtaWorld.start flash) es = some w → SessionExact w) ∧
      (System.Along (otaWorld crc size) ReadsBack (OtaWorld.start flash) es →
        System.Along (otaWorld crc size) (ComparesImage crc) (OtaWorld.start flash) es) := by
  have hstart : (OtaWorld.start flash).Follows size := ⟨rfl, rfl⟩
  have hstep : ∀ w ev w', OtaWorld.Follows size w → otaWorld crc size w ev = some w' →
      OtaWorld.Follows size w' := fun _ _ _ h hstep => h.step hstep
  refine ⟨fun w hrun => ?_, fun hreads => ?_⟩
  · exact (System.run_induction _ hstep es _ w hstart hrun).exact
  · refine System.Along.mp es _ (System.along_of_invariant _ _ hstep ?_ es _ hstart) hreads
    intro w ev w' h _ hread
    exact h.compares hcrc hread

/-! ### An update of two bytes -/

/-- Two bytes are announced and written, and the end reads these bytes back. -/
def twoBytes (read : ℕ → UInt8) : List OtaEvent :=
  [⟨.begin 2 (crc32 0 [1, 2]) true ⟨some 1, espOk, 7⟩, fun _ => 0xFF⟩,
    ⟨.write [1, 2] espOk, fun _ => 0xFF⟩, ⟨.finish ⟨true, read, espOk, espOk⟩, fun _ => 0xFF⟩]

theorem ota_session_exact_update :
    (∃ w, System.run (otaWorld crc32 fun _ => 4096) (OtaWorld.start fun _ _ => 0)
        (twoBytes fun i => [1, 2].getD i 0xFF) = some w ∧ SessionExact w) ∧
      System.Along (otaWorld crc32 fun _ => 4096) (ComparesImage crc32)
        (OtaWorld.start fun _ _ => 0) (twoBytes fun i => [1, 2].getD i 0xFF) := by
  have hexact := ota_session_exact chainable_crc32 (fun _ => 4096) (fun _ _ => 0)
    (twoBytes fun i => [1, 2].getD i 0xFF)
  refine ⟨⟨_, rfl, hexact.1 _ rfl⟩, hexact.2 ⟨?_, ?_, ?_, trivial⟩⟩
  · intro out part hcall
    cases hcall
  · intro out part hcall
    cases hcall
  · intro out part hcall _ _ _ hpart i hi
    cases hcall
    cases hpart
    rfl

/-- The read fails, and the buffer holds other bytes than the partition. -/
theorem failed_read_compared :
    ¬ System.Along (otaWorld crc32 fun _ => 4096) (ComparesImage crc32)
      (OtaWorld.start fun _ _ => 0) (twoBytes fun _ => 0) := by
  rintro ⟨-, -, hcompare, -⟩
  have hvalue := hcompare ⟨true, fun _ => 0, espOk, espOk⟩ ⟨2, crc32 0 [1, 2], [1, 2]⟩ rfl rfl
    (by decide +kernel) rfl
  exact absurd hvalue (by decide +kernel)

end Klippylink
