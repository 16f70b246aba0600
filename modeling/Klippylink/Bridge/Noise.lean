import Klippylink.Bridge.Presence
import Klippylink.Host.Reading
import Klippylink.Router.Notifications

/-!
# Malformed notifications on the serial line

The router forwards a notification's value by the length it arrived with, in eight bits;
the host takes as many bytes as the length byte inside announces.  The bytes that were
sent are compared here with the frames that were due: one for each PING and ERROR of the
router, and one for each notification that is a whole packet.

The host is in step when it makes the due frames of what was sent, and of whatever frames
come later.  A run keeps it in step exactly when every value that is forwarded is a whole
packet below 256 bytes, or leaves at most the node id and one byte on the line.

## Main definitions

* `wholePacket` — the packet that a value is, if its length is the announced one.
* `Uplink`, `uplink` — the router, what it has sent, and what was due.
* `Uplink.Recovered` — the host makes the due frames of it, and keeps in step.
* `KeepsStep` — the condition on a step.
* `recovered_along_iff` — when the host keeps in step.
-/

namespace Klippylink

open Lib

/-- The packet that a value is: its length is four and its length byte. -/
def wholePacket (value : List UInt8) : Option KlipPacket :=
  (KlipPacket.decode value).filter fun p => klipPacket p.command p.payload = value

/-- The slot that a live connection was given: the node's id. -/
def World.nodeIdOf (w : World) (connId : UInt16) : Option ℕ :=
  (w.live.find? fun l => l.connId = connId).bind Link.slot

/-- A packet under a node id, if there is one. -/
def framesAs (nodeId : Option ℕ) (p : KlipPacket) : List Frame :=
  nodeId.toList.map fun k => ⟨UInt8.ofNat k, p⟩

/-- The frames that an event owes the host. -/
def dueFrames (w w' : World) : Event → List Frame
  | .gattc (.connect _ c _) => framesAs (w'.nodeIdOf c) ⟨KlipCommand.ping.code, []⟩
  | .gattc (.disconnect c) => framesAs (w.nodeIdOf c) ⟨KlipCommand.error.code, []⟩
  | .gattc (.notify n) =>
      match wholePacket n.value with
      | none => []
      | some p => framesAs (w.nodeIdOf n.connId) p
  | _ => []

/-- The router, the bytes it has sent, and the frames that were due. -/
structure Uplink where
  world : World
  sent : List UInt8
  due : List Frame

/-- A notification is that of a connected node, and a connection that ends was live. -/
def FromNode (w : World) : Event → Prop
  | .gattc (.notify n) => ∃ l ∈ w.live, l.connId = n.connId ∧ l.slot.isSome = true
  | .gattc (.disconnect c) => ∃ l ∈ w.live, l.connId = c
  | _ => True

instance (w : World) (e : Event) : Decidable (FromNode w e) := by
  cases e with
  | gattc e => cases e <;> simp only [FromNode] <;> infer_instance
  | _ => exact isTrue trivial

namespace Uplink

/-- Nothing has been sent. -/
def start : Uplink := ⟨World.start, [], []⟩

/-- One event at the router. -/
def step (parse : List UInt8 → Option CJson) (u : Uplink) (e : Event) : Option Uplink :=
  if FromNode u.world e then
    (u.world.step parse e).map fun next =>
      ⟨next.1, u.sent ++ emitted next.2, u.due ++ dueFrames u.world next.1 e⟩
  else none

/-- A frame that can come later: the node id is a slot's. -/
def Legal (f : Frame) : Prop :=
  f.nodeId.toNat < nodeMaxCount ∧ f.packet.payload.length ≤ 255

/-- However the bytes arrive, the host makes the due frames of what was sent, and goes
on to make the frames that come after it. -/
def Recovered (u : Uplink) : Prop :=
  ∀ later, (∀ f ∈ later, Legal f) → ∀ reads : List (List UInt8),
    reads.flatten = u.sent ++ frameStream later → hostReads reads = u.due ++ later

end Uplink

/-- The router's uplink as a system of events. -/
def uplink (parse : List UInt8 → Option CJson) : System Uplink Event := fun u e => u.step parse e

/-- The router looks a connection up to its own slot. -/
def World.Tagged (w : World) (c : UInt16) : Prop :=
  nodeIdByConnId w.router.nodes c = w.nodeIdOf c

/-- The condition on a step.  A PING, an ERROR and a whole packet go out under the node's
own id.  A whole packet that is forwarded is shorter than 256 bytes, and of a value that
is none at most one byte is forwarded. -/
def KeepsStep (u : Uplink) (e : Event) (u' : Uplink) : Prop :=
  match e with
  | .gattc (.connect _ c _) => u'.world.nodeIdOf c ≠ none → u'.world.Tagged c
  | .gattc (.disconnect c) => u.world.Tagged c
  | .gattc (.notify n) =>
      n.Valid →
        match wholePacket n.value with
        | some _ => n.value.length < 256 ∧ u.world.Tagged n.connId
        | none => n.value.length % 256 ≤ 1
  | _ => True

/-! ### Whole packets -/

theorem wholePacket_eq_some {value : List UInt8} {p : KlipPacket} :
    wholePacket value = some p ↔
      value = klipPacket p.command p.payload ∧ p.payload.length ≤ 255 := by
  rw [wholePacket, Option.filter_eq_some_iff, decide_eq_true_eq]
  constructor
  · rintro ⟨hdecode, hvalue⟩
    refine ⟨hvalue.symm, ?_⟩
    match value with
    | [] | [_] | [_, _] | [_, _, _] => cases hdecode
    | m0 :: m1 :: c :: l :: rest =>
        have hl := l.toNat_lt
        rw [KlipPacket.decode] at hdecode
        split at hdecode
        · cases hdecode
        · simp only at hdecode
          split at hdecode
          · cases hdecode
          · cases hdecode
            simp only [List.length_take]
            omega
  · rintro ⟨hvalue, hlen⟩
    have hdecode := KlipPacket.decode_klipPacket p.command p.payload [] hlen
    rw [List.append_nil, ← hvalue] at hdecode
    exact ⟨hdecode, hvalue.symm⟩

/-- A value with a complete header and the magic, taken apart. -/
theorem Notification.Valid.value {n : Notification} (h : n.Valid) :
    ∃ c l rest, n.value = 0x4C :: 0x4B :: c :: l :: rest := by
  obtain ⟨hlen, hmagic⟩ := h
  have hheader : klipHeaderSize = 4 := rfl
  match hvalue : n.value with
  | [] | [_] | [_, _] | [_, _, _] =>
      rw [hvalue] at hlen
      simp only [List.length_cons, List.length_nil] at hlen
      omega
  | m0 :: m1 :: c :: l :: rest =>
      rw [Notification.byte, Notification.byte, hvalue] at hmagic
      obtain ⟨hm0, hm1⟩ := magic_iff.mp hmagic
      rw [List.getD_cons_zero] at hm0
      rw [List.getD_cons_succ, List.getD_cons_zero] at hm1
      exact ⟨c, l, rest, by rw [hm0, hm1]⟩

/-- A whole packet is no value that the handler ignores. -/
theorem valid_of_wholePacket {n : Notification} {p : KlipPacket}
    (h : wholePacket n.value = some p) : n.Valid := by
  obtain ⟨hvalue, -⟩ := wholePacket_eq_some.mp h
  exact valid_klipPacket hvalue

/-! ### Node ids -/

theorem nodeIdByConnId_lt {t : NodeTable} {c : UInt16} {k : ℕ} (h : nodeIdByConnId t c = some k) :
    k < nodeMaxCount := by
  obtain ⟨⟨b, hk⟩, -⟩ := nodeIdByConnId_eq_some.mp h
  have hlt := (List.getElem?_eq_some_iff.mp hk).1
  rw [length_slots] at hlt
  exact Nat.lt_of_lt_of_le hlt t.fits

theorem World.nodeIdOf_eq_some {w : World} {c : UInt16} {k : ℕ} (h : w.nodeIdOf c = some k) :
    ∃ l ∈ w.live, l.connId = c ∧ l.slot = some k := by
  obtain ⟨l, hl, hslot⟩ := Option.bind_eq_some_iff.mp h
  exact ⟨l, List.mem_of_find?_eq_some hl, by simpa using List.find?_some hl, hslot⟩

theorem World.Sound.nodeIdOf_lt {w : World} (hs : w.Sound) {c : UInt16} {k : ℕ}
    (h : w.nodeIdOf c = some k) : k < nodeMaxCount := by
  obtain ⟨l, hl, -, hslot⟩ := World.nodeIdOf_eq_some h
  have hlt := (List.getElem?_eq_some_iff.mp (hs.admitted l hl k hslot).1).1
  rw [World.slots, length_slots] at hlt
  exact Nat.lt_of_lt_of_le hlt w.router.nodes.fits

/-- A connected node has a slot, and its connection is looked up to a slot. -/
theorem World.Sound.tag_of_node {w : World} (hs : w.Sound) {l : Link} (hl : l ∈ w.live)
    (hslot : l.slot.isSome = true) :
    (∃ k, w.nodeIdOf l.connId = some k) ∧ ∃ k, nodeIdByConnId w.router.nodes l.connId = some k := by
  obtain ⟨k, hk⟩ := Option.isSome_iff_exists.mp hslot
  constructor
  · refine ⟨k, ?_⟩
    have hfind : w.live.find? (fun m => m.connId = l.connId) = some l := by
      cases hfound : w.live.find? (fun m => m.connId = l.connId) with
      | none =>
          have hno := List.find?_eq_none.mp hfound l hl
          simp at hno
      | some m =>
          have hid : m.connId = l.connId := by simpa using List.find?_some hfound
          rw [hs.link_eq (List.mem_of_find?_eq_some hfound) hl hid]
    rw [World.nodeIdOf, hfind]
    exact hk
  · apply Option.ne_none_iff_exists'.mp
    intro hnone
    exact nodeIdByConnId_eq_none.mp hnone k l.bda (hs.admitted l hl k hk).1

theorem framesFor_eq (t : NodeTable) (c : UInt16) (p : KlipPacket) :
    framesFor t c p = framesAs (nodeIdByConnId t c) p := by
  rw [framesFor]
  cases nodeIdByConnId t c <;> rfl

theorem legal_framesAs {id : Option ℕ} (hid : ∀ k, id = some k → k < nodeMaxCount)
    {p : KlipPacket} (hp : p.payload.length ≤ 255) : ∀ f ∈ framesAs id p, Uplink.Legal f := by
  intro f hf
  obtain ⟨k, hk, rfl⟩ := List.mem_map.mp hf
  have hlt := hid k (Option.mem_toList.mp hk)
  have hmax : nodeMaxCount = 8 := rfl
  refine ⟨?_, hp⟩
  rw [toNat_byte (by omega)]
  exact hlt

theorem framesAs_inj {i j : Option ℕ} (hi : ∀ k, i = some k → k < nodeMaxCount)
    (hj : ∀ k, j = some k → k < nodeMaxCount) (p : KlipPacket) :
    framesAs i p = framesAs j p ↔ i = j := by
  refine ⟨fun h => ?_, fun h => by rw [h]⟩
  cases i with
  | none =>
      cases j with
      | none => rfl
      | some k => cases h
  | some m =>
      cases j with
      | none => cases h
      | some k =>
          have hm := hi m rfl
          have hk := hj k rfl
          have hmax : nodeMaxCount = 8 := rfl
          have hbyte : UInt8.ofNat m = UInt8.ofNat k := by
            have hhead := (List.cons.inj h).1
            exact congrArg Frame.nodeId hhead
          have hnat := congrArg UInt8.toNat hbyte
          rw [toNat_byte (by omega), toNat_byte (by omega)] at hnat
          rw [hnat]

/-! ### What the host makes of the bytes of a step -/

/-- Read after `left`, the bytes `sent` and later frames give the frames `due` and the
later ones. -/
def ReadsAs (left sent : List UInt8) (due : List Frame) : Prop :=
  ∀ later, (∀ f ∈ later, Uplink.Legal f) →
    (SerialTransport.processBuffer (left ++ (sent ++ frameStream later))).2 = due ++ later

/-- What the host has kept holds no frame start and no header. -/
structure Skippable (left : List UInt8) : Prop where
  noise : 0x4B ∉ left
  short : left.length < 5

theorem Uplink.Legal.apart {f : Frame} (h : Uplink.Legal f) :
    f.nodeId ≠ 0x4B ∧ f.packet.payload.length ≤ 255 := by
  refine ⟨?_, h.2⟩
  rintro heq
  have hlt := h.1
  rw [heq] at hlt
  exact absurd hlt (by decide)

theorem length_frameStream_replicate (k : ℕ) (f : Frame) :
    (frameStream (List.replicate k f)).length = k * f.bytes.length := by
  induction k with
  | zero => simp
  | succ k ih => rw [List.replicate_succ, frameStream_cons, List.length_append, ih, Nat.succ_mul,
      Nat.add_comm]

/-- Frames are read as they are. -/
theorem readsAs_frames {left : List UInt8} (hleft : Skippable left) {gs due : List Frame}
    (hgs : ∀ f ∈ gs, Uplink.Legal f) : ReadsAs left (frameStream gs) due ↔ gs = due := by
  constructor
  · intro h
    obtain ⟨left', hread, -⟩ := processBuffer_noise_frames hleft.noise hleft.short
      fun f hf => (hgs f hf).apart
    have hdue := h [] (by simp)
    rw [frameStream_nil, List.append_nil, List.append_nil, hread] at hdue
    exact hdue
  · rintro rfl later hlater
    have hlegal : ∀ f ∈ gs ++ later, Uplink.Legal f := List.forall_mem_append.mpr ⟨hgs, hlater⟩
    obtain ⟨left', hread, -⟩ := processBuffer_noise_frames hleft.noise hleft.short
      fun f hf => (hlegal f hf).apart
    rw [← frameStream_append, hread]

/-- Bytes without the second byte of the magic are read as nothing. -/
theorem readsAs_noise {left sent : List UInt8} (hleft : Skippable left) (hsent : 0x4B ∉ sent) :
    ReadsAs left sent [] := by
  intro later hlater
  have hquiet : 0x4B ∉ left ++ sent :=
    fun hmem => (List.mem_append.mp hmem).elim hleft.noise hsent
  obtain ⟨left', hread, hnoise, hshort⟩ := processBuffer_noise_only hquiet
  obtain ⟨left'', hframes, -⟩ := processBuffer_noise_frames hnoise hshort
    fun f hf => (hlater f hf).apart
  rw [← List.append_assoc, processBuffer_append, hread, hframes]

/-- A frame start takes bytes of what comes later, unless a frame is there. -/
theorem not_readsAs_start {left : List UInt8} (hleft : Skippable left) {n : UInt8}
    (hn : n ≠ 0x4B) (part : List UInt8) : ¬ ReadsAs left (n :: 0x4C :: 0x4B :: part) [] := by
  intro h
  -- sixty-four frames with a command that is not the byte that is read as one
  obtain ⟨c, hc⟩ : ∃ c : UInt8, c ≠ part.headD 0 := by
    by_cases hone : part.headD 0 = 1
    · exact ⟨2, by rw [hone]; decide⟩
    · exact ⟨1, fun heq => hone heq.symm⟩
  have hread := h (List.replicate 64 ⟨0, c, []⟩) fun f hf => by
    rw [List.eq_of_mem_replicate hf]
    exact ⟨Nat.zero_lt_succ 7, Nat.zero_le 255⟩
  have hlen := length_frameStream_replicate 64 ⟨0, c, []⟩
  obtain ⟨stream, hstream⟩ : ∃ stream,
      frameStream (List.replicate 64 (⟨0, c, []⟩ : Frame)) = 0 :: stream := ⟨_, rfl⟩
  rw [hstream, List.length_cons, Frame.length_bytes, List.length_nil] at hlen
  rw [hstream] at hread
  obtain ⟨x, l, rest, hpart, hx, hrest⟩ : ∃ x l rest, part ++ 0 :: stream = x :: l :: rest ∧
      x = part.headD 0 ∧ 255 ≤ rest.length := by
    match part, stream with
    | [], [] => simp at hlen
    | [], l :: rest =>
        rw [List.length_cons] at hlen
        exact ⟨0, l, rest, rfl, rfl, by omega⟩
    | [x], stream => exact ⟨x, 0, stream, rfl, rfl, by omega⟩
    | x :: l :: part, stream =>
        refine ⟨x, l, part ++ 0 :: stream, rfl, rfl, ?_⟩
        rw [List.length_append, List.length_cons]
        omega
  have hl := l.toNat_lt
  rw [List.cons_append, List.cons_append, List.cons_append, hpart,
    processBuffer_noise hleft.noise hn (by simp), processBuffer_take (by omega)] at hread
  have hhead := (List.cons.inj hread).1
  have hcommand : x = c := congrArg (fun f => f.packet.command) hhead
  exact hc (by rw [← hx, hcommand])

/-- A few bytes hold no long packet. -/
theorem not_readsAs_long {left sent : List UInt8} (hleft : Skippable left) (hsent : sent.length < 5)
    {f : Frame} (hf : 5 ≤ f.packet.payload.length) {due : List Frame} :
    ¬ ReadsAs left sent (f :: due) := by
  intro h
  have hread := h [] (by simp)
  rw [frameStream_nil, List.append_nil, List.append_nil] at hread
  have hmem := length_of_mem_processBuffer (hread ▸ List.mem_cons_self)
  have hshort := hleft.short
  rw [List.length_append] at hmem
  omega

/-! ### What a step sends -/

section Step

variable {parse : List UInt8 → Option CJson} {w w' : World}

/-- What a notification with a complete header and the magic sends. -/
theorem emitted_notify {n : Notification} {acts : List Action} (hvalid : n.Valid)
    (h : w.step parse (.gattc (.notify n)) = some (w', acts)) :
    emitted acts =
      match nodeIdByConnId w.router.nodes n.connId with
      | none => []
      | some k => UInt8.ofNat k :: n.value.take (n.value.length % 256) := by
  obtain ⟨nodes, hupdate, -, rfl⟩ := notifyEvt_valid hvalid (step_notify h)
  rw [emitFor, nodeIdByConnId_congr (slots_updateRegistry hupdate)]
  cases nodeIdByConnId w.router.nodes n.connId with
  | none => rfl
  | some k => exact List.append_nil _

/-- What any other notification sends. -/
theorem emitted_ignored {n : Notification} {acts : List Action} (hvalid : ¬ n.Valid)
    (h : w.step parse (.gattc (.notify n)) = some (w', acts)) : emitted acts = [] := by
  have hnotify := step_notify h
  generalize w'.router = r at hnotify
  rw [notifyEvt] at hnotify
  split at hnotify
  · cases hnotify
    rfl
  · next hlen =>
      split at hnotify
      · cases hnotify
        rfl
      · next hmagic => exact absurd ⟨Nat.le_of_not_lt hlen, not_not.mp hmagic⟩ hvalid

/-- The bytes of a step: frames, of which it is asked whether they were due; bytes that
are skipped; or bytes that are read as something that was not due. -/
inductive Sends (sent : List UInt8) (due : List Frame) (guard : Prop) : Prop
  | frames (gs : List Frame) : (∀ f ∈ gs, Uplink.Legal f) → sent = frameStream gs →
      (guard ↔ gs = due) → Sends sent due guard
  | skipped : 0x4B ∉ sent → due = [] → guard → Sends sent due guard
  | spoilt : ¬ guard → (∀ left, Skippable left → ¬ ReadsAs left sent due) → Sends sent due guard

/-- A packet under the id that is looked up. -/
theorem sends_framesAs {tag id : Option ℕ} (htag : ∀ k, tag = some k → k < nodeMaxCount)
    (hid : ∀ k, id = some k → k < nodeMaxCount) {p : KlipPacket} (hp : p.payload.length ≤ 255)
    {sent : List UInt8} (hsent : sent = frameStream (framesAs tag p)) :
    Sends sent (framesAs id p) (tag = id) :=
  .frames _ (legal_framesAs htag hp) hsent (framesAs_inj htag hid p).symm

theorem Sends.congr {sent : List UInt8} {due : List Frame} {guard guard' : Prop}
    (h : Sends sent due guard) (hguard : guard' ↔ guard) : Sends sent due guard' := by
  rwa [propext hguard]

theorem sends_connect {u u' : Uplink} {gattcIf c : UInt16} {b : BdAddr} {acts : List Action}
    (hs' : u'.world.Sound)
    (h : u.world.step parse (.gattc (.connect gattcIf c b)) = some (u'.world, acts)) :
    Sends (emitted acts) (dueFrames u.world u'.world (.gattc (.connect gattcIf c b)))
      (KeepsStep u (.gattc (.connect gattcIf c b)) u') := by
  have hsent := frames_connect h
  have hgiven : u'.world.nodeIdOf c = u.world.router.admittedSlot gattcIf c b := by
    rcases step_effect (world_eq_some.mpr ⟨acts, h⟩) with ⟨g, c', b', heq, hconn⟩ | ⟨c', heq, -⟩ |
      ⟨hno, -, -⟩
    · cases heq
      rw [World.nodeIdOf, hconn.live, List.find?_cons]
      simp
    · cases heq
    · cases hno
  simp only [dueFrames, KeepsStep, World.Tagged]
  rw [← hgiven, framesFor_eq] at hsent
  cases hid : u'.world.nodeIdOf c with
  | none =>
      rw [hid] at hsent
      exact .frames [] (by simp) hsent (by simp [framesAs])
  | some k =>
      rw [hid] at hsent
      refine (sends_framesAs (fun _ => nodeIdByConnId_lt) (fun _ hk => ?_) (Nat.zero_le _)
        hsent).congr (by simp)
      cases hk
      exact hs'.nodeIdOf_lt hid

theorem sends_disconnect {u u' : Uplink} {c : UInt16} {acts : List Action} (hs : u.world.Sound)
    (h : u.world.step parse (.gattc (.disconnect c)) = some (u'.world, acts)) :
    Sends (emitted acts) (dueFrames u.world u'.world (.gattc (.disconnect c)))
      (KeepsStep u (.gattc (.disconnect c)) u') := by
  have hsent := frames_disconnect h
  rw [framesFor_eq] at hsent
  exact sends_framesAs (fun _ => nodeIdByConnId_lt) (fun _ => hs.nodeIdOf_lt) (Nat.zero_le _) hsent

/-- A whole packet that is forwarded by its length modulo 256. -/
theorem sends_whole {tag k : ℕ} (htag : tag < nodeMaxCount) (hk : k < nodeMaxCount)
    {value : List UInt8} {p : KlipPacket} (hvalue : value = klipPacket p.command p.payload)
    (hp : p.payload.length ≤ 255) {sent : List UInt8}
    (hsent : sent = UInt8.ofNat tag :: value.take (value.length % 256)) :
    Sends sent (framesAs (some k) p) (value.length < 256 ∧ some tag = some k) := by
  have hlen := congrArg List.length hvalue
  rw [length_klipPacket] at hlen
  by_cases hshort : value.length < 256
  · -- forwarded in full
    rw [Nat.mod_eq_of_lt hshort, List.take_length, hvalue] at hsent
    have hslot : ∀ {j : ℕ}, j < nodeMaxCount → ∀ i, some j = some i → i < nodeMaxCount := by
      rintro j hj i ⟨⟩
      exact hj
    refine (sends_framesAs (hslot htag) (hslot hk) hp ?_).congr (and_iff_right hshort)
    rw [hsent]
    simp [framesAs, Frame.bytes]
  · -- at most three bytes are forwarded
    refine .spoilt (fun hguard => hshort hguard.1) fun left hleft => not_readsAs_long hleft ?_ ?_
    · rw [hsent, List.length_cons, List.length_take]
      omega
    · simp only
      omega

/-- A value that is no whole packet: the first two bytes that are forwarded start a
frame. -/
theorem sends_part {tag : ℕ} (htag : tag < nodeMaxCount) {value : List UInt8}
    (hvalue : ∃ c len rest, value = 0x4C :: 0x4B :: c :: len :: rest) {sent : List UInt8}
    (hsent : sent = UInt8.ofNat tag :: value.take (value.length % 256)) :
    Sends sent [] (value.length % 256 ≤ 1) := by
  have hnoise : UInt8.ofNat tag ≠ 0x4B := by
    intro heq
    have hnat := congrArg UInt8.toNat heq
    rw [toNat_byte (Nat.le_trans (Nat.le_of_lt htag) (by decide))] at hnat
    exact absurd (hnat ▸ htag) (by decide)
  obtain ⟨c, len, rest, hvalue⟩ := hvalue
  by_cases hone : value.length % 256 ≤ 1
  · refine .skipped ?_ rfl hone
    rw [hsent, List.mem_cons]
    rintro (heq | hmem)
    · exact hnoise heq.symm
    · have hfirst := List.take_subset_take_left _ hone hmem
      rw [hvalue, List.take_succ_cons, List.take_zero, List.mem_singleton] at hfirst
      exact absurd hfirst (by decide)
  · refine .spoilt hone fun left hleft => ?_
    obtain ⟨m, hm⟩ : ∃ m, value.length % 256 = m + 2 := ⟨value.length % 256 - 2, by omega⟩
    rw [hsent, hm, hvalue, List.take_succ_cons, List.take_succ_cons]
    exact not_readsAs_start hleft hnoise _

theorem sends_notify {u u' : Uplink} {n : Notification} {acts : List Action} (hs : u.world.Sound)
    (hnode : FromNode u.world (.gattc (.notify n)))
    (h : u.world.step parse (.gattc (.notify n)) = some (u'.world, acts)) :
    Sends (emitted acts) (dueFrames u.world u'.world (.gattc (.notify n)))
      (KeepsStep u (.gattc (.notify n)) u') := by
  obtain ⟨l, hl, hconn, hslot⟩ := hnode
  obtain ⟨⟨k, hid⟩, ⟨tag, htag⟩⟩ := hs.tag_of_node hl hslot
  rw [hconn] at hid htag
  by_cases hvalid : n.Valid
  · have hsent := emitted_notify hvalid h
    rw [htag] at hsent
    simp only [dueFrames, KeepsStep, hvalid, true_implies, World.Tagged, htag, hid]
    cases hwhole : wholePacket n.value with
    | some p =>
        obtain ⟨hvalue, hp⟩ := wholePacket_eq_some.mp hwhole
        exact sends_whole (nodeIdByConnId_lt htag) (hs.nodeIdOf_lt hid) hvalue hp hsent
    | none => exact sends_part (nodeIdByConnId_lt htag) hvalid.value hsent
  · have hwhole : wholePacket n.value = none := by
      cases hwhole : wholePacket n.value with
      | none => rfl
      | some p => exact absurd (valid_of_wholePacket hwhole) hvalid
    refine .skipped ?_ ?_ fun hv => absurd hv hvalid
    · rw [emitted_ignored hvalid h]
      exact List.not_mem_nil
    · simp only [dueFrames, hwhole]

/-- **The bytes of a step.** -/
theorem sends_step {u u' : Uplink} {e : Event} {acts : List Action} (hs : u.world.Sound)
    (hnode : FromNode u.world e) (h : u.world.step parse e = some (u'.world, acts)) :
    Sends (emitted acts) (dueFrames u.world u'.world e) (KeepsStep u e u') := by
  have hsilent (hc : e.connects = none) (hd : e.disconnects = none) (hn : e.notifies = none)
      (hdue : dueFrames u.world u'.world e = []) (hguard : KeepsStep u e u') :
      Sends (emitted acts) (dueFrames u.world u'.world e) (KeepsStep u e u') := by
    refine .skipped ?_ hdue hguard
    rw [emitted_silent h hc hd hn]
    exact List.not_mem_nil
  cases e with
  | gap e => exact hsilent rfl rfl rfl rfl trivial
  | serialRx data => exact hsilent rfl rfl rfl rfl trivial
  | gattc e =>
      cases e with
      | connect gattcIf c b => exact sends_connect (hs.step (world_eq_some.mpr ⟨acts, h⟩)) h
      | disconnect c => exact sends_disconnect hs h
      | notify n => exact sends_notify hs hnode h
      | _ => exact hsilent rfl rfl rfl rfl trivial

end Step

/-! ### Over a run -/

namespace Uplink

/-- What the host has made of the bytes is what was due, and what it keeps is skipped. -/
def InStep (u : Uplink) : Prop :=
  ∃ left, SerialTransport.processBuffer u.sent = (left, u.due) ∧ Skippable left

theorem inStep_start : start.InStep := ⟨[], rfl, by simp, by decide⟩

/-- What is recovered after more bytes depends on what the host has kept. -/
theorem recovered_iff {sent more : List UInt8} {due added : List Frame} {left : List UInt8}
    (h : SerialTransport.processBuffer sent = (left, due)) (w : World) :
    Recovered ⟨w, sent ++ more, due ++ added⟩ ↔ ReadsAs left more added := by
  have hread : ∀ later, (SerialTransport.processBuffer (sent ++ more ++ frameStream later)).2 =
      due ++ (SerialTransport.processBuffer (left ++ (more ++ frameStream later))).2 := by
    intro later
    rw [List.append_assoc, processBuffer_append, h]
  constructor
  · intro hrec later hlater
    have hone := hrec later hlater [sent ++ more ++ frameStream later] (by simp)
    rw [hostReads_eq, List.flatten_singleton, hread, List.append_assoc] at hone
    exact List.append_cancel_left hone
  · intro hreads later hlater reads hbytes
    rw [hostReads_eq, hbytes, hread, hreads later hlater, List.append_assoc]

theorem uplink_eq_some {parse : List UInt8 → Option CJson} {u u' : Uplink} {e : Event}
    (h : uplink parse u e = some u') :
    FromNode u.world e ∧ ∃ acts, u.world.step parse e = some (u'.world, acts) ∧
      u' = ⟨u'.world, u.sent ++ emitted acts, u.due ++ dueFrames u.world u'.world e⟩ := by
  rw [uplink, step] at h
  split at h
  · next hnode =>
      obtain ⟨⟨w', acts⟩, hstep, rfl⟩ := Option.map_eq_some_iff.mp h
      exact ⟨hnode, acts, hstep, rfl⟩
  · cases h

/-- A step from a host in step is recovered when the condition holds. -/
theorem recovered_step {parse : List UInt8 → Option CJson} {u u' : Uplink} {e : Event}
    (hs : u.world.Sound) (hin : u.InStep) (h : uplink parse u e = some u') :
    u'.Recovered ↔ KeepsStep u e u' := by
  obtain ⟨hnode, acts, hstep, hu'⟩ := uplink_eq_some h
  obtain ⟨left, hleft, hskip⟩ := hin
  have hrec : u'.Recovered ↔ ReadsAs left (emitted acts) (dueFrames u.world u'.world e) := by
    rw [hu']
    exact recovered_iff hleft u'.world
  rw [hrec]
  cases sends_step hs hnode hstep with
  | frames gs hgs hsent hguard => rw [hguard, hsent, readsAs_frames hskip hgs]
  | skipped hsent hdue hguard =>
      rw [hdue]
      exact iff_of_true (readsAs_noise hskip hsent) hguard
  | spoilt hguard hreads => exact iff_of_false (hreads left hskip) hguard

/-- Then the host is in step again. -/
theorem inStep_step {parse : List UInt8 → Option CJson} {u u' : Uplink} {e : Event}
    (hs : u.world.Sound) (hin : u.InStep) (h : uplink parse u e = some u')
    (hkeeps : KeepsStep u e u') : u'.InStep := by
  obtain ⟨hnode, acts, hstep, hu'⟩ := uplink_eq_some h
  obtain ⟨left, hleft, hskip⟩ := hin
  rw [hu', InStep]
  simp only
  rw [processBuffer_append, hleft]
  cases sends_step hs hnode hstep with
  | frames gs hgs hsent hguard =>
      obtain ⟨left', hread, hnoise, hshort⟩ := processBuffer_noise_frames hskip.noise hskip.short
        fun f hf => (hgs f hf).apart
      rw [hsent, hread, hguard.mp hkeeps]
      exact ⟨left', rfl, hnoise, hshort⟩
  | skipped hsent hdue hguard =>
      have hquiet : 0x4B ∉ left ++ emitted acts :=
        fun hmem => (List.mem_append.mp hmem).elim hskip.noise hsent
      obtain ⟨left', hread, hnoise, hshort⟩ := processBuffer_noise_only hquiet
      rw [hread, hdue]
      exact ⟨left', rfl, hnoise, hshort⟩
  | spoilt hguard => exact absurd hkeeps hguard

/-- **The host makes the due frames of what the router sends**, along a run and however
the bytes arrive, and is ready for the frames that come later, exactly when every step of
the run satisfies the condition. -/
theorem recovered_along_iff (parse : List UInt8 → Option CJson) (es : List Event) :
    System.Along (uplink parse) (fun _ _ u' => u'.Recovered) start es ↔
      System.Along (uplink parse) KeepsStep start es := by
  apply System.along_iff (fun u => u.world.Sound) InStep
  · intro u e u' hs h
    obtain ⟨-, acts, hstep, -⟩ := uplink_eq_some h
    exact hs.step (world_eq_some.mpr ⟨acts, hstep⟩)
  · exact fun u e u' hs hin h => recovered_step hs hin h
  · exact fun u e u' hs hin h hkeeps => inStep_step hs hin h hkeeps
  · exact World.sound_start
  · exact inStep_start

/-- A node's info of twenty bytes is cut to the twenty bytes of a notification, and the
node is lost. -/
def cutRun : List Event :=
  [connectTo 0 (peer 1),
    .gattc (.notify ⟨0,
      (klipPacket KlipCommand.deviceInfoResp.code (List.replicate 20 0x20)).take 20, fun _ => 0⟩),
    disconnectOf 0]

/-- The host takes four bytes of the ERROR for the rest of the info. -/
theorem cutRun_not_recovered :
    ∃ u, System.run (uplink noJson) start cutRun = some u ∧ hostReads [u.sent] ≠ u.due :=
  ⟨_, rfl, by decide⟩

end Uplink
end Klippylink
