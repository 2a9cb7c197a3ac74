import Reflex.Session.Codec

/-! Writing frames with one session and reading them back with another over the same AEAD.
The 16-bit length header holds `29 + len(payload)` truncated to 16 bits, so the round trip
holds exactly for payloads of at most 65506 bytes (and fewer than `2^64` frames).
-/

namespace Reflex

open Go

/-- An AEAD that meets the laws: the plaintext followed by a zero tag. It serves only to show
that the statements below are about runs that exist. -/
def Aead.zeroTag : Aead where
  Seal _ m := m ++ List.replicate overhead 0
  Open _ c := if overhead ≤ c.length then some (c.take (c.length - overhead)) else none

theorem Aead.zeroTag_correct : Aead.zeroTag.Correct where
  open_seal nonce m := by simp [Aead.zeroTag]
  seal_length nonce m := by simp [Aead.zeroTag]

/-- The session `NewSession` builds around a keyed AEAD. -/
def Session.fresh (a : Aead) : Session :=
  { aead := a, writeNonceCount := 0, readNonceCount := 0, readSeen := false }

theorem newSession_ok (new : Bytes → Aead) {key : Bytes} (h : key.length = 32)
    : newSession new key = .ok (.fresh (new key)) := by
  simp [newSession, h, Session.fresh]

theorem frameWrites_flatten {a : Aead} (ha : a.Correct) (c : Nat) (ty : UInt8) (payload : Bytes)
    : (frameWrites a c ty payload).flatten
      = BigEndian.putUint16 ((payload.length + 29) % 2 ^ 16)
        ++ (makeNonce (List.replicate nonceSize 0) c
          ++ a.Seal (makeNonce (List.replicate nonceSize 0) c) (ty :: payload)) := by
  simp only [frameWrites, List.flatten, makeNonce_length, ha.seal_length, List.length_cons,
    List.append_nil]
  congr 3
  simp only [nonceSize, overhead]
  omega

theorem readFrame_frameWrites {a : Aead} (ha : a.Correct) {s : Session} (hs : s.aead = a)
    {c : Nat} (hc : c < 2 ^ 64) (hnew : ¬(s.readSeen = true ∧ c ≤ s.readNonceCount))
    (ty : UInt8) {payload : Bytes} (hp : payload.length ≤ 65506) (rest : Bytes)
    : s.readFrame ((frameWrites a c ty payload).flatten ++ rest)
      = (.ok ⟨ty, payload⟩, { s with readSeen := true, readNonceCount := c }, rest) := by
  rw [frameWrites_flatten ha]
  have hlen : (payload.length + 29) % 2 ^ 16 % 256 ^ 2 = payload.length + 29 := by omega
  have h1 : ¬(payload.length + 29 < nonceSize) := by simp [nonceSize]
  have h2 : ¬(payload.length + 29 - nonceSize < overhead) := by simp [nonceSize, overhead]
  have hct : (a.Seal (makeNonce (List.replicate nonceSize 0) c) (ty :: payload)).length
      = payload.length + 29 - nonceSize := by
    simp [ha.seal_length, nonceSize, overhead]
  have hchk : ¬((s.readSeen && decide (c ≤ s.readNonceCount)) = true) := by simpa using hnew
  unfold Session.readFrame
  rw [List.append_assoc, readFull_append (show (BigEndian.putUint16 _).length = 2 from bePut_length 2 _)]
  dsimp only
  rw [BigEndian.uint16, BigEndian.putUint16, beUint_bePut, hlen]
  dsimp only
  rw [if_neg h1, if_neg h2, List.append_assoc, readFull_append (makeNonce_length c)]
  dsimp only
  rw [readFull_append hct]
  dsimp only
  rw [hs, ha.open_seal]
  dsimp only
  rw [if_neg (by simp), slice_uint64_of_length (makeNonce_length c)]
  dsimp only
  rw [nonceCounter_makeNonce, Nat.mod_eq_of_lt hc, if_neg hchk]
  simp [Go.index, Go.slice]

-----------------------------------------------------------------------------------------
-- Runs of writes and of reads
-----------------------------------------------------------------------------------------

/-- `WriteFrame` called once per frame, in order, on one writer. -/
def Session.writeFrames (s : Session) : List (UInt8 × Bytes) → Session × Bytes
  | [] => (s, [])
  | (ty, payload) :: rest =>
      let first := s.writeFrame ty payload
      let next := first.1.writeFrames rest
      (next.1, first.2 ++ next.2)

/-- `ReadFrame` called again and again on one stream: the frames returned in order, and the
first result that is not a frame. Each returned frame consumes input, so this ends. -/
def Session.readAll (s : Session) (r : Bytes) : List Frame × Ret Frame :=
  match h : s.readFrame r with
  | (.ok f, s', rest) =>
      have : rest.length < r.length := by
        have := (readFrame_ok_session h).2.2
        simp only [nonceSize, overhead] at this
        omega
      let next := s'.readAll rest
      (f :: next.1, next.2)
  | (.err e, _, _) => ([], .err e)
  | (.panic what, _, _) => ([], .panic what)
termination_by r.length

theorem readAll_of_ok {s s' : Session} {r rest : Bytes} {f : Frame}
    (h : s.readFrame r = (.ok f, s', rest))
    : s.readAll r = (f :: (s'.readAll rest).1, (s'.readAll rest).2) := by
  rw [Session.readAll]
  split <;> simp_all

theorem writeFrames_single (s : Session) (ty : UInt8) (payload : Bytes)
    : (s.writeFrames [(ty, payload)]).2 = (frameWrites s.aead s.writeNonceCount ty payload).flatten := by
  simp [Session.writeFrames, Session.writeFrame]

theorem readAll_of_err {s s' : Session} {r rest : Bytes} {e : GoError}
    (h : s.readFrame r = (.err e, s', rest)) : s.readAll r = ([], .err e) := by
  rw [Session.readAll]
  split <;> simp_all

theorem readAll_nil (s : Session) : s.readAll [] = ([], .err .eof) := by
  have h : s.readFrame [] = (.err .eof, s, []) := rfl
  rw [Session.readAll]
  split <;> simp_all

/-- The bounded round trip, for a reader whose last accepted counter lies below the writer's
next one, by induction on the frames. -/
theorem readAll_writeFrames {a : Aead} (ha : a.Correct) (frames : List (UInt8 × Bytes))
    (hsize : ∀ f ∈ frames, f.2.length ≤ 65506) (w r : Session) (hw : w.aead = a)
    (hr : r.aead = a) (hcount : w.writeNonceCount + frames.length ≤ 2 ^ 64)
    (hahead : r.readSeen = true → r.readNonceCount < w.writeNonceCount)
    : r.readAll (w.writeFrames frames).2 = (frames.map (fun f => ⟨f.1, f.2⟩), .err .eof) := by
  induction frames generalizing w r with
  | nil => exact readAll_nil r
  | cons f rest ih =>
      obtain ⟨ty, payload⟩ := f
      simp only [List.length_cons] at hcount
      have hc : w.writeNonceCount < 2 ^ 64 := by omega
      have hnew : ¬(r.readSeen = true ∧ w.writeNonceCount ≤ r.readNonceCount) := fun h =>
        absurd (hahead h.1) (by omega)
      let w' : Session := { w with writeNonceCount := (w.writeNonceCount + 1) % 2 ^ 64 }
      have hread := readFrame_frameWrites ha hr hc hnew ty
        (hsize (ty, payload) (List.mem_cons_self _ _)) (w'.writeFrames rest).2
      have hstream : (w.writeFrames ((ty, payload) :: rest)).2
          = (frameWrites w.aead w.writeNonceCount ty payload).flatten
            ++ (w'.writeFrames rest).2 := rfl
      rw [← hw] at hread
      rw [hstream, readAll_of_ok hread, List.map_cons]
      by_cases hrest : rest = []
      · subst hrest
        simp [Session.writeFrames, readAll_nil]
      have hpos : 0 < rest.length := List.length_pos.mpr hrest
      have hw' : w'.writeNonceCount = w.writeNonceCount + 1 := Nat.mod_eq_of_lt (by omega)
      rw [ih (fun f hf => hsize f (List.mem_cons_of_mem _ hf)) w'
        { r with readSeen := true, readNonceCount := w.writeNonceCount } hw hr (by omega)
        (fun _ => show w.writeNonceCount < w'.writeNonceCount by omega)]

-----------------------------------------------------------------------------------------
-- Past the 16-bit header
-----------------------------------------------------------------------------------------

/-- For a payload of 65507 bytes the header `WriteFrame` emits wraps to `00 00` although 65536
bytes follow it, and `ReadFrame` rejects the frame as too short. -/
theorem readFrame_wrapped_header {a : Aead} (ha : a.Correct) (r : Session) (c : Nat)
    (ty : UInt8) {payload : Bytes} (hp : payload.length = 65507) (rest : Bytes)
    : (frameWrites a c ty payload).head? = some [0, 0]
      ∧ (r.readFrame ((frameWrites a c ty payload).flatten ++ rest)).1
        = .err (.new "reflex: frame too short") := by
  have hz : (payload.length + 29) % 2 ^ 16 = 0 := by omega
  constructor
  · simp only [frameWrites, makeNonce_length, ha.seal_length, List.length_cons, hp]
    rfl
  · rw [frameWrites_flatten ha, hz]
    simp only [Session.readFrame, List.append_assoc, readFull_append (bePut_length 2 _),
      BigEndian.uint16, BigEndian.putUint16, beUint_bePut]
    rfl

/-- The round trip at a 65507-byte payload: instead of the frame and then EOF, the reader
returns no frame and the error "frame too short". -/
theorem roundTrip_fails_at_65507
    : (Session.fresh Aead.zeroTag).readAll
        ((Session.fresh Aead.zeroTag).writeFrames [(frameTypeData, List.replicate 65507 0)]).2
      = ([], .err (.new "reflex: frame too short")) := by
  obtain ⟨-, h⟩ := readFrame_wrapped_header Aead.zeroTag_correct (Session.fresh Aead.zeroTag) 0
    frameTypeData (List.length_replicate 65507 0) []
  rcases hr : (Session.fresh Aead.zeroTag).readFrame
      ((frameWrites Aead.zeroTag 0 frameTypeData (List.replicate 65507 0)).flatten ++ [])
    with ⟨res, s', rest⟩
  rw [hr] at h
  subst h
  rw [List.append_nil] at hr
  rw [writeFrames_single]
  exact readAll_of_err hr

end Reflex
