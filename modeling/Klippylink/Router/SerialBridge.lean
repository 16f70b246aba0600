import Klippylink.Host.Stream
import Klippylink.Lib.Mutex

/-!
# The router's end of the serial line

`serial_bridge_emit` writes the node id and then the packet, each byte by byte as the UART
takes them, while it holds `s_tx_mutex`.  Any tasks may call it.  What the host reads are the
packets of whole calls, in the order in which the calls took the mutex.

## Main definitions

* `EmitCall`, `serialBridgeEmit` — a call, and what it does while it holds the mutex.
* `SerialBridge`, `serialBridge` — the tasks, before and after `serial_bridge_init`.
* `emits_are_read` — what the host makes of what they write.
-/

namespace Klippylink

open Lib SerialTransport

/-- A call of `serial_bridge_emit`. -/
structure EmitCall where
  nodeId : UInt8
  data : List UInt8

/-- `uart_write_bytes`. -/
def uartWriteBytes (bytes : List UInt8) : Prog (List UInt8) :=
  .each (fun b => .act fun sent => sent ++ [b]) bytes

/-- `serial_bridge_emit`, between `xSemaphoreTake` and `xSemaphoreGive`. -/
def serialBridgeEmit (c : EmitCall) : Prog (List UInt8) :=
  (uartWriteBytes [c.nodeId]).seq (uartWriteBytes c.data)

/-- Whether `s_tx_mutex` has been created, and the tasks that call, with what the UART has
sent. -/
structure SerialBridge (τ : Type) where
  txMutex : Bool
  tasks : Guarded τ (List UInt8)

/-- What can happen. -/
inductive SerialEvent (τ : Type)
  /-- `serial_bridge_init`. -/
  | init
  /-- A task calls, or goes on with its call. -/
  | task (e : GuardEvent τ EmitCall)

variable {τ : Type}

/-- The static initialisers. -/
def SerialBridge.start : SerialBridge τ := ⟨false, ⟨[], none⟩⟩

/-- The tasks at work.  A call before `serial_bridge_init` returns at once. -/
def serialBridge [DecidableEq τ] : System (SerialBridge τ) (SerialEvent τ) := fun b e =>
  match e with
  | .init => if b.txMutex then none else some { b with txMutex := true }
  | .task e =>
      if b.txMutex then
        (guarded serialBridgeEmit b.tasks e).map fun tasks => { b with tasks := tasks }
      else
        match e with
        | .take _ _ => some b
        | _ => none

/-- The calls that come after `serial_bridge_init`, in the order in which they take the
mutex. -/
def emitCalls : List (SerialEvent τ) → List EmitCall
  | [] => []
  | .init :: es => (sections (es.filterMap fun e =>
      match e with
      | .task e => some e
      | .init => none)).map Prod.snd
  | .task _ :: es => emitCalls es

/-- The call that carries a frame. -/
def Frame.emitCall (f : Frame) : EmitCall :=
  ⟨f.nodeId, klipPacket f.packet.command f.packet.payload⟩

/-! ### What a call sends -/

theorem run_uartWriteBytes (bytes sent : List UInt8) :
    (uartWriteBytes bytes).run sent = some (sent ++ bytes) := by
  rw [uartWriteBytes, Prog.run_each (f := fun sent b => sent ++ [b]) (fun _ _ => rfl)]
  congr 1
  induction bytes generalizing sent with
  | nil => simp
  | cons b bytes ih => rw [List.foldl_cons, ih, List.append_assoc, List.singleton_append]

theorem run_serialBridgeEmit (c : EmitCall) (sent : List UInt8) :
    (serialBridgeEmit c).run sent = some (sent ++ c.nodeId :: c.data) := by
  rw [serialBridgeEmit, Prog.run_seq, run_uartWriteBytes, Option.bind_some, run_uartWriteBytes,
    List.append_assoc, List.singleton_append]

theorem run_emitCall (f : Frame) (sent : List UInt8) :
    (serialBridgeEmit f.emitCall).run sent = some (sent ++ f.bytes) :=
  run_serialBridgeEmit _ sent

/-- A call only adds to what was sent. -/
theorem keeps_serialBridgeEmit (c : EmitCall) : (serialBridgeEmit c).Keeps (· <+: ·) := by
  have hwrite : ∀ bytes, (uartWriteBytes bytes).Keeps (· <+: ·) := fun bytes =>
    Prog.keeps_each (fun b => Prog.keeps_act fun sent => List.prefix_append sent [b]) bytes
  exact (hwrite _).seq (hwrite _)

/-- Whole calls send their frames. -/
theorem run_whole_emit {taken : List (τ × EmitCall)} {fs : List Frame}
    (h : taken.map Prod.snd = fs.map Frame.emitCall) (sent : List UInt8) :
    System.run (whole serialBridgeEmit) sent taken = some (sent ++ frameStream fs) := by
  induction fs generalizing taken sent with
  | nil =>
      obtain rfl := List.map_eq_nil_iff.mp h
      simp
  | cons f fs ih =>
      match taken with
      | [] => cases h
      | (t, c) :: taken =>
          obtain ⟨rfl, hrest⟩ := List.cons.inj h
          have hfirst : whole serialBridgeEmit sent (t, f.emitCall) = some (sent ++ f.bytes) :=
            run_emitCall f sent
          rw [System.run_cons, hfirst, Option.bind_some, ih hrest, frameStream_cons,
            List.append_assoc]

/-! ### What the host reads -/

/-- The tasks after `serial_bridge_init`, without the events that came before. -/
theorem serial_of_serialBridge [DecidableEq τ] :
    ∀ (es : List (SerialEvent τ)) (b : SerialBridge τ),
      serialBridge.run SerialBridge.start es = some b →
        ∃ taken : List (τ × EmitCall), taken.map Prod.snd = emitCalls es ∧
          Serial serialBridgeEmit (· <+: ·) [] taken b.tasks := by
  have hafter : ∀ (es : List (SerialEvent τ)) (b b' : SerialBridge τ), b.txMutex = true →
      serialBridge.run b es = some b' →
        System.run (guarded serialBridgeEmit) b.tasks (es.filterMap fun e =>
          match e with
          | .task e => some e
          | .init => none) = some b'.tasks := by
    intro es
    induction es with
    | nil =>
        intro b b' _ hrun
        cases hrun
        rfl
    | cons e es ih =>
        intro b b' hmutex hrun
        obtain ⟨next, hfirst, hrest⟩ := System.run_cons_eq_some.mp hrun
        cases e with
        | init => simp [serialBridge, hmutex] at hfirst
        | task e =>
            simp only [serialBridge, hmutex, if_true] at hfirst
            obtain ⟨tasks, htasks, rfl⟩ := Option.map_eq_some_iff.mp hfirst
            exact System.run_cons_eq_some.mpr ⟨tasks, htasks, ih ⟨true, tasks⟩ _ rfl hrest⟩
  intro es
  induction es with
  | nil =>
      intro b hrun
      cases hrun
      exact ⟨[], rfl, rfl⟩
  | cons e es ih =>
      intro b hrun
      obtain ⟨next, hfirst, hrest⟩ := System.run_cons_eq_some.mp hrun
      cases e with
      | init =>
          cases hfirst
          have htasks := hafter es _ _ rfl hrest
          exact ⟨_, rfl, serial_of_run List.prefix_refl List.IsPrefix.trans
            keeps_serialBridgeEmit htasks⟩
      | task e =>
          match e with
          | .take t c =>
              cases hfirst
              exact ih b hrest
          | .go t | .give t => cases hfirst

/-- **The packets of any tasks are read whole**, in the order in which their calls took the
mutex: all of them when no call is under way, and otherwise all but possibly the last. -/
theorem emits_are_read [DecidableEq τ] {es : List (SerialEvent τ)} {b : SerialBridge τ}
    (hrun : serialBridge.run SerialBridge.start es = some b) {fs : List Frame}
    (hcalls : emitCalls es = fs.map Frame.emitCall)
    (hlegal : ∀ f ∈ fs, f.packet.payload.length ≤ klipMaxPayloadSize)
    {reads : List (List UInt8)} (hreads : reads.flatten = b.tasks.shared) :
    (pollAll reads).2 <+: fs ∧ fs.length ≤ (pollAll reads).2.length + 1 ∧
      (b.tasks.holder = none → (pollAll reads).2 = fs) := by
  have h255 : ∀ f ∈ fs, f.packet.payload.length ≤ 255 := fun f hf =>
    Nat.le_trans (hlegal f hf) (by decide)
  obtain ⟨taken, htaken, hserial⟩ := serial_of_serialBridge es b hrun
  rw [hcalls] at htaken
  have hread : ∀ {later}, b.tasks.shared ++ later = frameStream fs →
      ∃ done rest, fs = done ++ rest ∧ (pollAll reads).2 = done ∧
        (processBuffer b.tasks.shared).1 ++ later = frameStream rest ∧
          (later = [] → rest = []) := by
    intro later hlater
    rw [pollAll_eq, hreads]
    exact processBuffer_frames h255 hlater
  rw [Serial] at hserial
  cases hholder : b.tasks.holder with
  | none =>
      rw [hholder, run_whole_emit htaken] at hserial
      have hall : b.tasks.shared ++ [] = frameStream fs := by
        rw [List.append_nil]
        exact (Option.some.inj hserial).symm
      obtain ⟨done, rest, rfl, hdone, -, hend⟩ := hread hall
      rw [hend rfl, List.append_nil, hdone]
      exact ⟨List.prefix_refl _, Nat.le_succ _, fun _ => rfl⟩
  | some holder =>
      rw [hholder] at hserial
      obtain ⟨before, c, m, rfl, hbefore, hrest, hm, hkeeps⟩ := hserial
      -- the frames of the calls before, and that of the call under way
      obtain ⟨fs', f, rfl, hfs'⟩ : ∃ fs' f, fs = fs' ++ [f] ∧
          before.map Prod.snd = fs'.map Frame.emitCall ∧ c = f.emitCall := by
        rw [List.map_append] at htaken
        obtain ⟨fs', last, rfl, hfs', hlast⟩ := List.append_eq_map_iff.mp htaken
        obtain ⟨f, rfl, hf⟩ := List.map_eq_singleton_iff.mp hlast
        exact ⟨fs', f, rfl, hfs'.symm, hf.symm⟩
      obtain ⟨hfs', rfl⟩ := hfs'
      rw [run_whole_emit hfs', List.nil_append] at hbefore
      cases hbefore
      rw [run_emitCall] at hrest
      obtain ⟨later, hlater⟩ := hkeeps.run List.prefix_refl List.IsPrefix.trans hrest.symm
      obtain ⟨part, hpart⟩ := hm
      have hwhole : b.tasks.shared ++ later = frameStream (fs' ++ [f]) := by
        rw [frameStream_append, hlater]
        simp
      obtain ⟨done, rest, hsplit, hdone, -, -⟩ := hread hwhole
      have hbefore : (processBuffer (frameStream fs')).2 = fs' := by
        obtain ⟨done', rest', rfl, hdone', -, hend⟩ := processBuffer_frames
          (fun f hf => h255 f (List.mem_append_left _ hf)) (List.append_nil (frameStream fs'))
        rw [hdone', hend rfl, List.append_nil]
      have hmore : fs'.length ≤ (pollAll reads).2.length := by
        rw [pollAll_eq, hreads, ← hpart, processBuffer_append, hbefore]
        simp
      refine ⟨⟨rest, by rw [hdone, hsplit]⟩, ?_, by simp⟩
      rw [List.length_append]
      exact Nat.succ_le_succ hmore

/-- A PING of node 5 by one task, and a PONG of node 1 by another. -/
def twoFrames : List Frame :=
  [⟨5, ⟨KlipCommand.ping.code, []⟩⟩, ⟨1, ⟨KlipCommand.pong.code, []⟩⟩]

/-- The first call is over, and the second has sent its node id. -/
def twoTasks : List (SerialEvent Bool) :=
  .init :: .task (.take false (Frame.emitCall ⟨5, ⟨KlipCommand.ping.code, []⟩⟩)) ::
    List.replicate 5 (.task (.go false)) ++
    [.task (.give false), .task (.take true (Frame.emitCall ⟨1, ⟨KlipCommand.pong.code, []⟩⟩)),
      .task (.go true)]

theorem emits_are_read_twoTasks :
    ∃ b, serialBridge.run SerialBridge.start twoTasks = some b ∧
      (pollAll [[5, 0x4C], [0x4B, 0x01, 0, 1]]).2 <+: twoFrames ∧
      twoFrames.length ≤ (pollAll [[5, 0x4C], [0x4B, 0x01, 0, 1]]).2.length + 1 ∧
      (b.tasks.holder = none → (pollAll [[5, 0x4C], [0x4B, 0x01, 0, 1]]).2 = twoFrames) :=
  ⟨_, rfl, @emits_are_read Bool _ twoTasks _ rfl twoFrames rfl (by decide) _ rfl⟩

end Klippylink
