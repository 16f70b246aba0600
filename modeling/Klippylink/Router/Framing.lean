import Klippylink.Router.Receiver

/-!
# The serial stream, cut into stretches

What the command parser does to a whole stream, stated without its buffer.  A
stretch runs from one idle point to the next: a node id byte, the bytes slid out
because no magic starts there, and the packet from its magic on.  `stretches`
cuts a stream into them, and `run_locatedReceive` says that the byte-at-a-time
receiver dispatches what the stretches say.

## Main definitions

* `Stretch`, `nextStretch`, `stretches` — the cut of a stream.
* `Stretch.dispatch` — what a stretch dispatches.
* `locate` — the dispatches of a list of stretches with their positions.
* `run_locatedReceive` — the parser and the cut agree.
-/

namespace Klippylink

open Lib

/-- `total_len`: header and announced length, in eight bits. -/
def totalLen (length : UInt8) : ℕ := (4 + length : UInt8).toNat

/-- How many bytes the parser takes from a magic on before it is idle again: the
packet, but at least the header it had to see, and one byte more than the buffer
when the packet does not fit it. -/
def bodyLen (length : UInt8) : ℕ :=
  if totalLen length ≤ klipMaxPacketSize then max 4 (totalLen length) else klipMaxPacketSize + 1

/-- What the parser reads between two idle points. -/
structure Stretch where
  nodeId : UInt8
  /-- The bytes slid out before a magic. -/
  noise : List UInt8
  /-- The bytes from the magic on. -/
  body : List UInt8
  deriving DecidableEq

namespace Stretch

/-- The bytes of the stream that make the stretch. -/
def bytes (st : Stretch) : List UInt8 := st.nodeId :: (st.noise ++ st.body)

/-- The length byte of the packet. -/
def lengthByte (st : Stretch) : UInt8 := st.body.getD 3 0

/-- What the stretch dispatches: nothing, when the packet does not fit the
buffer. -/
def dispatch (st : Stretch) : Option Dispatch :=
  if totalLen st.lengthByte ≤ klipMaxPacketSize then
    some ⟨st.nodeId, st.body.take (totalLen st.lengthByte)⟩
  else none

/-- The dispatch of a stretch that begins at position `n`. -/
def located (n : ℕ) (st : Stretch) : List Located :=
  st.dispatch.toList.map fun x => ⟨x, n + 1 + st.noise.length⟩

end Stretch

/-- The bytes before the first magic that has two more bytes after it, and the
bytes from that magic on. -/
def seek : List UInt8 → Option (List UInt8 × List UInt8)
  | m0 :: m1 :: cmd :: length :: rest =>
      if ofLe16 m0 m1 = klipprotoMagic then some ([], m0 :: m1 :: cmd :: length :: rest)
      else (seek (m1 :: cmd :: length :: rest)).map fun p => (m0 :: p.1, p.2)
  | _ => none

/-- The first stretch of a stream read from idle, and what is left of the stream;
`none` when the stream ends inside it. -/
def nextStretch : List UInt8 → Option (Stretch × List UInt8)
  | [] => none
  | nid :: s =>
      match seek s with
      | none => none
      | some (noise, t) =>
          let n := bodyLen (t.getD 3 0)
          if n ≤ t.length then some (⟨nid, noise, t.take n⟩, t.drop n) else none

/-- `stretches` with a bound on their number. -/
def stretchesGo : ℕ → List UInt8 → List Stretch
  | 0, _ => []
  | fuel + 1, s =>
      match nextStretch s with
      | none => []
      | some (st, rest) => st :: stretchesGo fuel rest

/-- The stretches of a stream read from idle. -/
def stretches (s : List UInt8) : List Stretch := stretchesGo s.length s

/-- The dispatches of consecutive stretches, the first of which begins at
position `n`. -/
def locate : ℕ → List Stretch → List Located
  | _, [] => []
  | n, st :: sts => st.located n ++ locate (n + st.bytes.length) sts

/-! ### The shape of a stretch -/

theorem four_le_bodyLen (length : UInt8) : 4 ≤ bodyLen length := by
  rw [bodyLen]
  split
  · exact Nat.le_max_left 4 _
  · decide

/-- `seek` splits the stream, and what it finds begins with a header. -/
theorem seek_eq_some :
    ∀ {s noise t : List UInt8}, seek s = some (noise, t) →
      s = noise ++ t ∧ ∃ cmd length rest, t = 0x4C :: 0x4B :: cmd :: length :: rest := by
  intro s
  induction s with
  | nil => intro noise t h; simp [seek] at h
  | cons m0 s ih =>
      intro noise t h
      rcases s with _ | ⟨m1, _ | ⟨cmd, _ | ⟨length, rest⟩⟩⟩
      · simp [seek] at h
      · simp [seek] at h
      · simp [seek] at h
      · rw [seek] at h
        by_cases hmagic : ofLe16 m0 m1 = klipprotoMagic
        · rw [if_pos hmagic] at h
          cases h
          obtain ⟨rfl, rfl⟩ := magic_iff.mp hmagic
          exact ⟨rfl, cmd, length, rest, rfl⟩
        · rw [if_neg hmagic, Option.map_eq_some_iff] at h
          obtain ⟨⟨noise', t'⟩, hrest, hp⟩ := h
          cases hp
          obtain ⟨hsplit, hhead⟩ := ih hrest
          exact ⟨by rw [hsplit]; rfl, hhead⟩

/-- A stretch and what is left make the stream; its body is a header and as many
bytes as the parser takes. -/
theorem nextStretch_eq_some {s rest : List UInt8} {st : Stretch}
    (h : nextStretch s = some (st, rest)) :
    s = st.bytes ++ rest ∧ st.body.length = bodyLen st.lengthByte ∧
      ∃ cmd tail, st.body = 0x4C :: 0x4B :: cmd :: st.lengthByte :: tail := by
  cases s with
  | nil => simp [nextStretch] at h
  | cons nid s =>
      rw [nextStretch] at h
      cases hseek : seek s with
      | none => simp [hseek] at h
      | some p =>
          obtain ⟨noise, t⟩ := p
          obtain ⟨rfl, cmd, length, tail, rfl⟩ := seek_eq_some hseek
          simp only [hseek, List.getD_cons_succ, List.getD_cons_zero] at h
          have hfour := four_le_bodyLen length
          split at h
          · next hfits =>
              cases h
              obtain ⟨k, hk⟩ : ∃ k, bodyLen length = k + 4 := ⟨bodyLen length - 4, by omega⟩
              simp only [hk] at hfits ⊢
              refine ⟨?_, ?_, cmd, tail.take k, ?_⟩
              · simp [Stretch.bytes]
              · simp only [Stretch.lengthByte, List.take_succ_cons, List.getD_cons_succ,
                  List.getD_cons_zero, hk, List.length_cons, List.length_take] at hfits ⊢
                omega
              · simp [Stretch.lengthByte]
          · cases h

/-! ### The receiver over one stretch -/

/-- The located dispatches of the list receiver from position `n`. -/
abbrev runAt (n : ℕ) (a : Held) (ds : List UInt8) : (ℕ × Held) × List Located :=
  Transducer.run locatedReceive (n, a) ds

theorem collect_magic (nid cmd length : UInt8) (rest : List UInt8) :
    collect nid (0x4C :: 0x4B :: cmd :: length :: rest) =
      if totalLen length ≤ rest.length + 4 then
        (none, [⟨nid, (0x4C :: 0x4B :: cmd :: length :: rest).take (totalLen length)⟩])
      else (some (nid, 0x4C :: 0x4B :: cmd :: length :: rest), []) := by
  rw [collect, if_pos (magic_iff.mpr ⟨rfl, rfl⟩)]
  rfl

/-- One byte while bytes are held and the buffer has room. -/
theorem runAt_held (n : ℕ) (nid d : UInt8) {held : List UInt8} (ds : List UInt8)
    (h : held.length < klipMaxPacketSize) :
    runAt (n + held.length) (some (nid, held)) (d :: ds) =
      let c := collect nid (held ++ [d])
      let r := runAt (n + held.length + 1) c.1 ds
      (r.1, c.2.map (fun x => ⟨x, n⟩) ++ r.2) := by
  rw [runAt, Transducer.run_cons]
  simp [locatedReceive, receive, h, heldLength]

/-- One more byte leaves the header incomplete, or completes it. -/
theorem header_cases {held : List UInt8} (d : UInt8) (h : held.length < 4) :
    (held ++ [d]).length < 4 ∨ ∃ m0 m1 cmd, held = [m0, m1, cmd] := by
  match held, h with
  | [], _ => exact .inl (by simp)
  | [_], _ => exact .inl (by simp)
  | [_, _], _ => exact .inl (by simp)
  | [m0, m1, cmd], _ => exact .inr ⟨m0, m1, cmd, rfl⟩

theorem lt_klipMaxPacketSize {k : ℕ} (h : k < 4) : k < klipMaxPacketSize :=
  Nat.lt_trans h (by decide)

/-- Looking for a magic that never comes. -/
theorem runAt_seek_none (nid : UInt8) :
    ∀ (ds : List UInt8) (n : ℕ) (held : List UInt8), held.length < 4 → seek (held ++ ds) = none →
      (runAt (n + held.length) (some (nid, held)) ds).2 = [] := by
  intro ds
  induction ds with
  | nil => intro n held _ _; rfl
  | cons d ds ih =>
      intro n held hlen hseek
      rw [runAt_held _ _ _ _ (lt_klipMaxPacketSize hlen)]
      rcases header_cases d hlen with hshort | ⟨m0, m1, cmd, rfl⟩
      · rw [List.append_cons] at hseek
        have hnext := ih n (held ++ [d]) hshort hseek
        rw [List.length_append, List.length_singleton, ← Nat.add_assoc] at hnext
        simp [collect_short hshort, hnext]
      · simp only [List.cons_append, List.nil_append, seek] at hseek
        by_cases hmagic : ofLe16 m0 m1 = klipprotoMagic
        · rw [if_pos hmagic] at hseek
          cases hseek
        · rw [if_neg hmagic, Option.map_eq_none_iff] at hseek
          -- the slide drops the oldest byte: the held bytes now begin one later
          have hnext := ih (n + 1) [m1, cmd, d] (by simp) hseek
          have hstart : n + [m0, m1, cmd].length + 1 = n + 1 + [m1, cmd, d].length :=
            Nat.add_right_comm n 3 1
          simp only [List.cons_append, List.nil_append, collect_slide hmagic]
          rw [hstart, hnext]
          rfl

/-- Looking for a magic that comes: the receiver holds nothing but the header
when it is complete. -/
theorem runAt_seek_some (nid : UInt8) :
    ∀ (ds : List UInt8) (n : ℕ) (held noise t : List UInt8), held.length < 4 →
      seek (held ++ ds) = some (noise, t) →
      runAt (n + held.length) (some (nid, held)) ds =
        let c := collect nid (t.take 4)
        let r := runAt (n + noise.length + 4) c.1 (t.drop 4)
        (r.1, c.2.map (fun x => ⟨x, n + noise.length⟩) ++ r.2) := by
  intro ds
  induction ds with
  | nil =>
      intro n held noise t hlen hseek
      obtain ⟨hsplit, cmd, length, rest, rfl⟩ := seek_eq_some hseek
      rw [List.append_nil] at hsplit
      rw [hsplit] at hlen
      simp at hlen
      omega
  | cons d ds ih =>
      intro n held noise t hlen hseek
      rw [runAt_held _ _ _ _ (lt_klipMaxPacketSize hlen)]
      rcases header_cases d hlen with hshort | ⟨m0, m1, cmd, rfl⟩
      · rw [List.append_cons] at hseek
        have hnext := ih n (held ++ [d]) noise t hshort hseek
        rw [List.length_append, List.length_singleton, ← Nat.add_assoc] at hnext
        simp [collect_short hshort, hnext]
      · simp only [List.cons_append, List.nil_append, seek] at hseek
        by_cases hmagic : ofLe16 m0 m1 = klipprotoMagic
        · rw [if_pos hmagic] at hseek
          cases hseek
          simp
        · rw [if_neg hmagic, Option.map_eq_some_iff] at hseek
          obtain ⟨⟨noise', t'⟩, hrest, hp⟩ := hseek
          cases hp
          have hnext := ih (n + 1) [m1, cmd, d] noise' t' (by simp) hrest
          have hpos : n + 1 + noise'.length = n + (m0 :: noise').length := by
            rw [List.length_cons]
            omega
          have hstart : n + [m0, m1, cmd].length + 1 = n + 1 + [m1, cmd, d].length :=
            Nat.add_right_comm n 3 1
          simp only [List.cons_append, List.nil_append, collect_slide hmagic]
          rw [hstart, hnext, hpos]
          rfl

/-- One byte while bytes are held and the buffer has no room. -/
theorem runAt_full {n : ℕ} {nid d : UInt8} {held ds : List UInt8}
    (h : ¬ held.length < klipMaxPacketSize) :
    runAt n (some (nid, held)) (d :: ds) = runAt (n + 1) none ds := by
  rw [runAt, Transducer.run_cons]
  simp [locatedReceive, receive, h]

/-- The dispatch of a stretch whose body begins with a header. -/
theorem dispatch_header (nid cmd length : UInt8) (noise tail : List UInt8) :
    Stretch.dispatch ⟨nid, noise, 0x4C :: 0x4B :: cmd :: length :: tail⟩ =
      if totalLen length ≤ klipMaxPacketSize then
        some ⟨nid, (0x4C :: 0x4B :: cmd :: length :: tail).take (totalLen length)⟩
      else none := rfl

/-- A header that announces more than is held: bytes are stored until the packet
is complete or the buffer is full.  `n` is the position of the magic. -/
theorem runAt_body (nid cmd length : UInt8) :
    ∀ (ds : List UInt8) (n : ℕ) (tail : List UInt8),
      tail.length + 4 < totalLen length → tail.length + 4 ≤ klipMaxPacketSize →
      let held := 0x4C :: 0x4B :: cmd :: length :: tail
      let run := runAt (n + held.length) (some (nid, held)) ds
      if bodyLen length ≤ (held ++ ds).length then
        let st : Stretch := ⟨nid, [], (held ++ ds).take (bodyLen length)⟩
        let r := runAt (n + bodyLen length) none ((held ++ ds).drop (bodyLen length))
        run = (r.1, st.dispatch.toList.map (fun x => ⟨x, n⟩) ++ r.2)
      else run.2 = [] := by
  intro ds
  induction ds with
  | nil =>
      intro n tail htotal hroom
      have hmore : ¬ bodyLen length ≤ (0x4C :: 0x4B :: cmd :: length :: tail ++ []).length := by
        simp only [List.append_nil, List.length_cons, bodyLen]
        split <;> omega
      simp only [if_neg hmore]
      rfl
  | cons d ds ih =>
      intro n tail htotal hroom
      have happ : 0x4C :: 0x4B :: cmd :: length :: tail ++ d :: ds =
          0x4C :: 0x4B :: cmd :: length :: (tail ++ [d]) ++ ds := by simp
      have hlen : (0x4C :: 0x4B :: cmd :: length :: (tail ++ [d])).length = tail.length + 5 := by
        simp
      -- when this byte ends the stretch, what it took is what is held
      have hdone (hbody : bodyLen length = tail.length + 5) :
          bodyLen length ≤ (0x4C :: 0x4B :: cmd :: length :: (tail ++ [d]) ++ ds).length ∧
          (0x4C :: 0x4B :: cmd :: length :: (tail ++ [d]) ++ ds).take (bodyLen length) =
            0x4C :: 0x4B :: cmd :: length :: (tail ++ [d]) ∧
          (0x4C :: 0x4B :: cmd :: length :: (tail ++ [d]) ++ ds).drop (bodyLen length) = ds := by
        rw [hbody, ← hlen]
        exact ⟨by rw [List.length_append]; omega, List.take_left, List.drop_left⟩
      by_cases hfull : tail.length + 4 = klipMaxPacketSize
      · have hbody : bodyLen length = tail.length + 5 := by
          rw [bodyLen, if_neg (by omega)]
          omega
        obtain ⟨hle, htake, hdrop⟩ := hdone hbody
        simp only [happ, if_pos hle, htake, hdrop, dispatch_header]
        rw [if_neg (by omega), runAt_full (by simp only [List.length_cons]; omega), hbody]
        rfl
      · have hstep := runAt_held n nid d ds
          (show (0x4C :: 0x4B :: cmd :: length :: tail).length < klipMaxPacketSize by
            simp only [List.length_cons]; omega)
        simp only [List.cons_append, collect_magic] at hstep
        rw [List.length_append, List.length_singleton] at hstep
        by_cases hend : totalLen length ≤ tail.length + 1 + 4
        · have hbody : bodyLen length = tail.length + 5 := by
            rw [bodyLen, if_pos (by omega)]
            omega
          obtain ⟨hle, htake, hdrop⟩ := hdone hbody
          simp only [happ, if_pos hle, htake, hdrop, dispatch_header]
          rw [hstep, if_pos hend, if_pos (by omega), hbody]
          rfl
        · have hnext := ih n (tail ++ [d]) (by simp; omega) (by simp; omega)
          have hpos : n + (0x4C :: 0x4B :: cmd :: length :: tail).length + 1 =
              n + (0x4C :: 0x4B :: cmd :: length :: (tail ++ [d])).length := by
            rw [hlen]
            rfl
          simp only [if_neg hend, List.map_nil, List.nil_append, hpos] at hstep
          simp only [happ]
          rw [hstep]
          exact hnext

/-- The node id byte. -/
theorem runAt_nid (n : ℕ) (nid : UInt8) (s : List UInt8) :
    runAt n none (nid :: s) = runAt (n + 1) (some (nid, [])) s := by
  rw [runAt, Transducer.run_cons]
  simp [locatedReceive, receive]

/-- From the complete header on.  `n` is the position of the magic. -/
theorem runAt_header (n : ℕ) (nid cmd length : UInt8) (tail : List UInt8) :
    let t := 0x4C :: 0x4B :: cmd :: length :: tail
    let c := collect nid (t.take 4)
    let run := runAt (n + 4) c.1 (t.drop 4)
    if bodyLen length ≤ t.length then
      let st : Stretch := ⟨nid, [], t.take (bodyLen length)⟩
      let r := runAt (n + bodyLen length) none (t.drop (bodyLen length))
      (run.1, c.2.map (fun x => ⟨x, n⟩) ++ run.2) =
        (r.1, st.dispatch.toList.map (fun x => ⟨x, n⟩) ++ r.2)
    else c.2 = [] ∧ run.2 = [] := by
  have hfour := four_le_bodyLen length
  by_cases hshort : totalLen length ≤ 4
  · -- no payload, or an announced length that wrapped: the header is the packet
    have hbody : bodyLen length = 4 := by
      rw [bodyLen, if_pos (Nat.le_trans hshort (by decide))]
      exact Nat.max_eq_left hshort
    have hle : bodyLen length ≤ (0x4C :: 0x4B :: cmd :: length :: tail).length := by
      simp only [List.length_cons]
      omega
    have hfit : totalLen length ≤ klipMaxPacketSize := Nat.le_trans hshort (by decide)
    have hcollect : collect nid [0x4C, 0x4B, cmd, length] =
        (none, [⟨nid, [0x4C, 0x4B, cmd, length].take (totalLen length)⟩]) := by
      rw [collect_magic, if_pos (by simpa using hshort)]
    simp only [if_pos hle]
    simp only [hbody, List.take_succ_cons, List.take_zero, List.drop_succ_cons, List.drop_zero,
      hcollect, dispatch_header, if_pos hfit]
    rfl
  · have hcollect : collect nid [0x4C, 0x4B, cmd, length] =
        (some (nid, [0x4C, 0x4B, cmd, length]), []) := by
      rw [collect_magic, if_neg (by simpa using hshort)]
    have hnext := runAt_body nid cmd length tail n [] (by simpa using hshort) (by decide)
    simp only [List.take_succ_cons, List.take_zero, List.drop_succ_cons, List.drop_zero, hcollect]
    simp only [List.cons_append, List.nil_append] at hnext
    by_cases hle : bodyLen length ≤ (0x4C :: 0x4B :: cmd :: length :: tail).length
    · rw [if_pos hle] at hnext ⊢
      exact hnext
    · rw [if_neg hle] at hnext ⊢
      exact ⟨trivial, hnext⟩

/-- From the node id on, when a magic comes after it. -/
theorem runAt_found {s noise tail : List UInt8} {cmd length : UInt8} (n : ℕ) (nid : UInt8)
    (hseek : seek s = some (noise, 0x4C :: 0x4B :: cmd :: length :: tail)) :
    let t := 0x4C :: 0x4B :: cmd :: length :: tail
    let k := n + 1 + noise.length
    if bodyLen length ≤ t.length then
      let st : Stretch := ⟨nid, [], t.take (bodyLen length)⟩
      let r := runAt (k + bodyLen length) none (t.drop (bodyLen length))
      runAt n none (nid :: s) = (r.1, st.dispatch.toList.map (fun x => ⟨x, k⟩) ++ r.2)
    else (runAt n none (nid :: s)).2 = [] := by
  have hheader := runAt_header (n + 1 + noise.length) nid cmd length tail
  have hskip := runAt_seek_some nid s (n + 1) [] noise _ (by simp) hseek
  rw [List.length_nil, Nat.add_zero] at hskip
  simp only
  rw [runAt_nid, hskip]
  by_cases hfits : bodyLen length ≤ (0x4C :: 0x4B :: cmd :: length :: tail).length
  · simp only [if_pos hfits] at hheader ⊢
    exact hheader
  · simp only [if_neg hfits] at hheader ⊢
    rw [hheader.1, hheader.2]
    rfl

/-- **The receiver over one stretch**: it dispatches what the stretch says and is
idle again. -/
theorem runAt_stretch {s rest : List UInt8} {st : Stretch} (n : ℕ)
    (h : nextStretch s = some (st, rest)) :
    runAt n none s =
      let r := runAt (n + st.bytes.length) none rest
      (r.1, st.located n ++ r.2) := by
  cases s with
  | nil => simp [nextStretch] at h
  | cons nid s =>
      rw [nextStretch] at h
      cases hseek : seek s with
      | none => simp [hseek] at h
      | some p =>
          obtain ⟨noise, t⟩ := p
          obtain ⟨-, cmd, length, tail, rfl⟩ := seek_eq_some hseek
          simp only [hseek, List.getD_cons_succ, List.getD_cons_zero] at h
          have hfound := runAt_found n nid hseek
          split at h
          · next hfits =>
              cases h
              simp only [if_pos hfits] at hfound
              rw [hfound]
              have hbytes : n + (Stretch.bytes ⟨nid, noise,
                  (0x4C :: 0x4B :: cmd :: length :: tail).take (bodyLen length)⟩).length =
                  n + 1 + noise.length + bodyLen length := by
                simp only [Stretch.bytes, List.length_cons, List.length_append,
                  List.length_take] at hfits ⊢
                omega
              rw [hbytes]
              rfl
          · cases h

/-- A stream that ends inside its first stretch dispatches nothing. -/
theorem runAt_unfinished {s : List UInt8} (n : ℕ) (h : nextStretch s = none) :
    (runAt n none s).2 = [] := by
  cases s with
  | nil => rfl
  | cons nid s =>
      rw [nextStretch] at h
      cases hseek : seek s with
      | none =>
          rw [runAt_nid]
          exact runAt_seek_none nid s (n + 1) [] (by simp) hseek
      | some p =>
          obtain ⟨noise, t⟩ := p
          obtain ⟨-, cmd, length, tail, rfl⟩ := seek_eq_some hseek
          simp only [hseek, List.getD_cons_succ, List.getD_cons_zero] at h
          have hfound := runAt_found n nid hseek
          split at h
          · cases h
          · next hmore =>
              simp only [if_neg hmore] at hfound
              exact hfound

/-! ### The receiver over the whole stream -/

theorem length_of_nextStretch {s rest : List UInt8} {st : Stretch}
    (h : nextStretch s = some (st, rest)) : rest.length < s.length := by
  obtain ⟨hsplit, -⟩ := nextStretch_eq_some h
  rw [hsplit, Stretch.bytes, List.length_append, List.length_cons]
  omega

/-- More fuel than bytes changes nothing. -/
theorem stretchesGo_fuel :
    ∀ (fuel : ℕ) (s : List UInt8), s.length ≤ fuel → stretchesGo fuel s = stretches s := by
  intro fuel
  induction fuel using Nat.strongRecOn with
  | ind fuel ih =>
      intro s hfuel
      cases hnext : nextStretch s with
      | none =>
          rw [stretches]
          cases fuel <;> cases s.length <;> simp [stretchesGo, hnext]
      | some p =>
          obtain ⟨st, rest⟩ := p
          have hlen := length_of_nextStretch hnext
          obtain ⟨m, hm⟩ : ∃ m, s.length = m + 1 := ⟨s.length - 1, by omega⟩
          obtain ⟨k, rfl⟩ : ∃ k, fuel = k + 1 := ⟨fuel - 1, by omega⟩
          rw [stretches, hm, stretchesGo, stretchesGo, hnext]
          simp only [List.cons.injEq, true_and]
          rw [ih k (by omega) rest (by omega)]
          rcases Nat.lt_or_ge m (k + 1) with hmk | hmk
          · rw [ih m hmk rest (by omega)]
          · omega

theorem stretches_of_none {s : List UInt8} (h : nextStretch s = none) : stretches s = [] := by
  rw [stretches]
  cases s.length <;> simp [stretchesGo, h]

theorem stretches_of_some {s rest : List UInt8} {st : Stretch}
    (h : nextStretch s = some (st, rest)) : stretches s = st :: stretches rest := by
  have hlen := length_of_nextStretch h
  obtain ⟨m, hm⟩ : ∃ m, s.length = m + 1 := ⟨s.length - 1, by omega⟩
  rw [stretches, hm, stretchesGo, h]
  simp only [List.cons.injEq, true_and]
  exact stretchesGo_fuel m rest (by omega)

/-- Induction along the cut of a stream. -/
theorem stretches_induction {P : List UInt8 → Prop}
    (unfinished : ∀ s, nextStretch s = none → P s)
    (stretch : ∀ s st rest, nextStretch s = some (st, rest) → P rest → P s) :
    ∀ s, P s := by
  intro s
  induction hn : s.length using Nat.strongRecOn generalizing s with
  | ind n ih =>
      cases hnext : nextStretch s with
      | none => exact unfinished s hnext
      | some p =>
          obtain ⟨st, rest⟩ := p
          have hlen := length_of_nextStretch hnext
          exact stretch s st rest hnext (ih rest.length (by omega) rest rfl)

/-- **The receiver dispatches what the cut of the stream says**, and where. -/
theorem run_locatedReceive (s : List UInt8) :
    ∀ n, (runAt n none s).2 = locate n (stretches s) := by
  induction s using stretches_induction with
  | unfinished s h =>
      intro n
      rw [stretches_of_none h, runAt_unfinished n h]
      rfl
  | stretch s st rest h ih =>
      intro n
      rw [stretches_of_some h, runAt_stretch n h]
      simp only [locate]
      rw [ih]

/-- **From idle and in any split into calls, the parser dispatches what the cut
of the stream says.** -/
theorem locatedFeed_idle {s : Rx} (h : s.Idle) (calls : List (List UInt8)) :
    (locatedFeed s calls).2 = locate 0 (stretches calls.flatten) := by
  rw [locatedFeed, Transducer.runChunks_eq_run_flatten,
    (run_locatedByte_eq calls.flatten 0 s none (simulates_of_idle h)).2]
  exact run_locatedReceive calls.flatten 0

end Klippylink
