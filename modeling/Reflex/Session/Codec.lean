import Reflex.Go.Bytes

/-! The encrypted frame codec of `session.go`. A `Session` holds its AEAD and two nonce
counters; `writeFrame` seals one frame under the next write counter and `readFrame` opens
one frame and accepts it only when its counter exceeds the last accepted one.
-/

namespace Reflex

open Go

def frameTypeData : UInt8 := 0x00
def frameTypePaddingCtrl : UInt8 := 0x01
def frameTypeTimingCtrl : UInt8 := 0x02

/-- A keyed `cipher.AEAD`, used with no additional data, its methods under their Go names;
`Open` is `none` where Go's returns an error. Nothing is assumed of its behaviour. -/
structure Aead where
  Seal : Bytes → Bytes → Bytes
  Open : Bytes → Bytes → Option Bytes

/-- `NonceSize()` of ChaCha20-Poly1305, the AEAD every session is built with. -/
def nonceSize : Nat := 12

/-- `Overhead()` of ChaCha20-Poly1305: the length of its tag. -/
def overhead : Nat := 16

/-- The error `Open` returns when authentication fails. -/
def errOpen : GoError := .new "chacha20poly1305: message authentication failed"

/-- An AEAD that opens what it sealed under the same nonce and adds exactly its tag. -/
structure Aead.Correct (a : Aead) : Prop where
  open_seal : ∀ nonce m, a.Open nonce (a.Seal nonce m) = some m
  seal_length : ∀ nonce m, (a.Seal nonce m).length = m.length + overhead

/-- The state of a `Session` (its mutex apart): the counters hold `uint64` values. -/
structure Session where
  aead : Aead
  writeNonceCount : Nat
  readNonceCount : Nat
  readSeen : Bool

/-- `NewSession(sessionKey)`, given `chacha20poly1305.New` as the keyed AEAD it returns. -/
def newSession (new : Bytes → Aead) (sessionKey : Bytes) : Except GoError Session :=
  if sessionKey.length ≠ 32 then .error (.new "reflex: session key must be 32 bytes")
  else .ok { aead := new sessionKey, writeNonceCount := 0, readNonceCount := 0, readSeen := false }

/-- `makeNonce(nonceOut, counter)`: the counter big-endian into bytes 4 to 12. -/
def makeNonce (nonceOut : Bytes) (counter : Nat) : Bytes :=
  if nonceOut.length < 12 then nonceOut
  else nonceOut.take 4 ++ BigEndian.putUint64 counter ++ nonceOut.drop 12

/-- The three `w.Write` calls of `WriteFrame` for a frame sealed under `nonceCount`: the
length header, the nonce and the ciphertext. -/
def frameWrites (aead : Aead) (nonceCount : Nat) (frameType : UInt8) (payload : Bytes)
    : List Bytes :=
  let plaintext := frameType :: payload
  let nonce := makeNonce (List.replicate nonceSize 0) nonceCount
  let ciphertext := aead.Seal nonce plaintext
  let totalLen := nonce.length + ciphertext.length
  [BigEndian.putUint16 (totalLen % 2 ^ 16), nonce, ciphertext]

/-- `s.WriteFrame(w, frameType, payload)` on a writer that takes every write: the session with
its write counter advanced (as a `uint64`) and the bytes written. -/
def Session.writeFrame (s : Session) (frameType : UInt8) (payload : Bytes) : Session × Bytes :=
  ({ s with writeNonceCount := (s.writeNonceCount + 1) % 2 ^ 64 },
    (frameWrites s.aead s.writeNonceCount frameType payload).flatten)

structure Frame where
  type : UInt8
  payload : Bytes
  deriving DecidableEq, Repr

/-- `s.ReadFrame(r)` on a stream holding `r` and then EOF: what the call returns, the session
after it, and the rest of the stream. The session changes only where the Go code assigns
`readSeen` and `readNonceCount`, just before the frame is built. -/
def Session.readFrame (s : Session) (r : Bytes) : Ret Frame × Session × Bytes :=
  match readFull r 2 with
  | .error e => (.err e, s, [])
  | .ok (lenBuf, r) =>
  match BigEndian.uint16 lenBuf with
  | none => (.panic "index out of range", s, r)
  | some totalLen =>
  if totalLen < nonceSize then (.err (.new "reflex: frame too short"), s, r) else
  let cipherLen := totalLen - nonceSize
  if cipherLen < overhead then (.err (.new "reflex: ciphertext too short"), s, r) else
  match readFull r nonceSize with
  | .error e => (.err e, s, [])
  | .ok (nonce, r) =>
  match readFull r cipherLen with
  | .error e => (.err e, s, [])
  | .ok (ciphertext, r) =>
  match s.aead.Open nonce ciphertext with
  | none => (.err errOpen, s, r)
  | some plaintext =>
  if plaintext.length < 1 then (.err (.new "reflex: empty plaintext"), s, r) else
  match (slice nonce 4 12).bind BigEndian.uint64 with
  | none => (.panic "slice bounds out of range", s, r)
  | some readCounter =>
  if s.readSeen && readCounter ≤ s.readNonceCount then
    (.err (.new "reflex: replay detected"), s, r)
  else
  let s' := { s with readSeen := true, readNonceCount := readCounter }
  match index plaintext 0, slice plaintext 1 plaintext.length with
  | some type, some payload => (.ok { type, payload }, s', r)
  | _, _ => (.panic "index out of range", s', r)

-----------------------------------------------------------------------------------------
-- Small lemmas about the wire layout
-----------------------------------------------------------------------------------------

/-- The nonce of a frame: four zero bytes, then the counter. -/
theorem makeNonce_zero (counter : Nat)
    : makeNonce (List.replicate nonceSize 0) counter
      = List.replicate 4 0 ++ BigEndian.putUint64 counter := by
  simp [makeNonce, nonceSize, List.take_replicate, List.drop_replicate]

/-- A nonce only sees its counter as a `uint64`. -/
theorem makeNonce_mod (nonceOut : Bytes) (counter : Nat)
    : makeNonce nonceOut (counter % 2 ^ 64) = makeNonce nonceOut counter := by
  have h := bePut_mod 8 counter
  simp only [show (256 : Nat) ^ 8 = 2 ^ 64 from rfl] at h
  simp only [makeNonce, BigEndian.putUint64, h]

@[simp] theorem makeNonce_length (counter : Nat)
    : (makeNonce (List.replicate nonceSize 0) counter).length = nonceSize := by
  rw [makeNonce_zero]
  simp [BigEndian.putUint64, nonceSize]

/-- The counter `readFrame` reads back from a nonce. -/
def nonceCounter (nonce : Bytes) : Nat := beValue ((nonce.drop 4).take 8)

@[simp] theorem nonceCounter_makeNonce (counter : Nat)
    : nonceCounter (makeNonce (List.replicate nonceSize 0) counter) = counter % 2 ^ 64 := by
  rw [makeNonce_zero]
  simp [nonceCounter, BigEndian.putUint64, List.take_of_length_le, beValue_bePut]

/-- The counter decoding of `readFrame` on a nonce of the right length. -/
theorem slice_uint64_of_length {nonce : Bytes} (h : nonce.length = nonceSize)
    : (slice nonce 4 12).bind BigEndian.uint64 = some (nonceCounter nonce) := by
  have hs : slice nonce 4 12 = some ((nonce.drop 4).take 8) :=
    slice_of_le (by omega) (by simp [h, nonceSize])
  simp [hs, BigEndian.uint64, beUint, nonceCounter, h, nonceSize, List.take_take]

theorem nonceCounter_frame {lenBuf nonce rest : Bytes} (hl : lenBuf.length = 2)
    (hn : nonce.length = nonceSize)
    : nonceCounter ((lenBuf ++ (nonce ++ rest)).drop 2) = nonceCounter nonce := by
  rw [List.drop_left' hl, nonceCounter, nonceCounter,
    List.drop_append_of_le_length (by simp [hn, nonceSize]),
    List.take_append_of_le_length (by simp [hn, nonceSize])]

-----------------------------------------------------------------------------------------
-- What one `readFrame` call can do
-----------------------------------------------------------------------------------------

/-- The possible results of `s.readFrame r`: an error leaves the session as it was; a frame
is returned only when the counter of the nonce on the wire passes the replay check, which
then records it, and only after a header, a nonce and a tag were consumed; no panic. -/
def ReadStep (s : Session) (r : Bytes) : Ret Frame × Session × Bytes → Prop
  | (.err _, s', _) => s' = s
  | (.ok _, s', rest) =>
      ¬(s.readSeen = true ∧ nonceCounter (r.drop 2) ≤ s.readNonceCount)
      ∧ s' = { s with readSeen := true, readNonceCount := nonceCounter (r.drop 2) }
      ∧ rest.length + 2 + nonceSize + overhead ≤ r.length
  | (.panic _, _, _) => False

/-- Every call of `readFrame` is a `ReadStep`, by following the reads and checks in order. -/
theorem readFrame_step (s : Session) (r : Bytes) : ReadStep s r (s.readFrame r) := by
  unfold Session.readFrame
  rcases h1 : readFull r 2 with e | ⟨lenBuf, r1⟩
  · rfl
  obtain ⟨hl1, rfl⟩ := readFull_ok h1
  obtain ⟨len, hlen, -⟩ := beUint_of_length (show 2 ≤ lenBuf.length by omega)
  simp only [BigEndian.uint16, hlen]
  split
  · rfl
  split
  · rfl
  rcases h2 : readFull r1 nonceSize with e | ⟨nonce, r2⟩
  · rfl
  obtain ⟨hl2, rfl⟩ := readFull_ok h2
  dsimp only
  rcases h3 : readFull r2 (len - nonceSize) with e | ⟨ct, r3⟩
  · rfl
  obtain ⟨hl3, rfl⟩ := readFull_ok h3
  dsimp only
  rcases s.aead.Open nonce ct with _ | pt
  · rfl
  dsimp only
  split
  · rfl
  rw [slice_uint64_of_length hl2]
  dsimp only
  split
  · rfl
  rename_i hseen
  rw [index_of_lt (by omega), slice_of_le (by omega) le_rfl]
  simp only [ReadStep, nonceCounter_frame hl1 hl2]
  refine ⟨by simpa using hseen, trivial, ?_⟩
  simp only [List.length_append, hl1, hl2, hl3]
  omega

/-- An error return leaves the session, and so its read state, as it was. -/
theorem readFrame_err_session {s s' : Session} {r rest : Bytes} {e : GoError}
    (h : s.readFrame r = (.err e, s', rest)) : s' = s := by
  simpa [h, ReadStep] using readFrame_step s r

/-- A returned frame records the counter of its nonce, which passed the replay check. -/
theorem readFrame_ok_session {s s' : Session} {r rest : Bytes} {f : Frame}
    (h : s.readFrame r = (.ok f, s', rest))
    : ¬(s.readSeen = true ∧ nonceCounter (r.drop 2) ≤ s.readNonceCount)
      ∧ s' = { s with readSeen := true, readNonceCount := nonceCounter (r.drop 2) }
      ∧ rest.length + 2 + nonceSize + overhead ≤ r.length := by
  simpa [h, ReadStep] using readFrame_step s r

/-- An accepted frame consumes input: its header, nonce and tag at least. -/
theorem readFrame_ok_shorter {s s' : Session} {r rest : Bytes} {f : Frame}
    (h : s.readFrame r = (.ok f, s', rest)) : rest.length < r.length := by
  have := (readFrame_ok_session h).2.2
  simp only [nonceSize, overhead] at this
  omega

theorem readFrame_not_panic (s : Session) (r : Bytes) (what : String)
    : (s.readFrame r).1 ≠ .panic what := by
  intro h
  have := readFrame_step s r
  rcases hr : s.readFrame r with ⟨res, s', rest⟩
  simp only [hr] at h this
  subst h
  exact this

end Reflex
