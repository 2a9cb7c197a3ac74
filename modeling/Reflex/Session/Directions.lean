import Reflex.Session.RoundTrip
import Reflex.Session.Replay
import Mathlib.Data.List.Nodup

/-! Nonces under one session key. Each `Session` seals its own frames under pairwise
distinct nonces, but the server and its peer both count from zero behind the same zero
prefix, so the two directions share one nonce space: their `i`-th frames use the same nonce,
and a frame the server wrote and gets back is accepted by its own `readFrame`.
-/

namespace Reflex

open Go

/-- The nonce `WriteFrame` seals its next frame under. -/
def Session.nextNonce (s : Session) : Bytes :=
  makeNonce (List.replicate nonceSize 0) s.writeNonceCount

/-- The nonce a frame carries on the wire: the second of the three writes of `WriteFrame`. -/
def wireNonce (writes : List Bytes) : Bytes := writes.getD 1 []

/-- The nonces the frames a session writes along a run of calls carry on the wire, in order. -/
def Session.runNonces (s : Session) : List Call → List Bytes
  | [] => []
  | .read r :: cs => (s.call (.read r)).1.runNonces cs
  | .write frameType payload :: cs =>
      wireNonce (frameWrites s.aead s.writeNonceCount frameType payload)
        :: (s.call (.write frameType payload)).1.runNonces cs

/-- The number of writes in a run. -/
def writeCount : List Call → Nat
  | [] => 0
  | .read _ :: cs => writeCount cs
  | .write _ _ :: cs => writeCount cs + 1

theorem frameWrites_nonce (s : Session) (frameType : UInt8) (payload : Bytes)
    : frameWrites s.aead s.writeNonceCount frameType payload
      = [BigEndian.putUint16 ((nonceSize + (s.aead.Seal s.nextNonce (frameType :: payload)).length)
          % 2 ^ 16), s.nextNonce, s.aead.Seal s.nextNonce (frameType :: payload)] := by
  simp [frameWrites, Session.nextNonce]

/-- A frame carries the nonce of its session's write counter. -/
theorem wireNonce_frameWrites (s : Session) (frameType : UInt8) (payload : Bytes)
    : wireNonce (frameWrites s.aead s.writeNonceCount frameType payload) = s.nextNonce := by
  rw [frameWrites_nonce]
  rfl

/-- Reads leave the write counter alone, by the cases of `readFrame_step`. -/
theorem Session.call_read_writeNonceCount (s : Session) (r : Bytes)
    : (s.call (.read r)).1.writeNonceCount = s.writeNonceCount := by
  have step := readFrame_step s r
  rcases hr : s.readFrame r with ⟨res | e | what, s', rest⟩ <;>
    simp only [hr, ReadStep] at step <;> simp only [Session.call, hr]
  · rw [step.2.1]
  · rw [step]

/-- The nonces of a run are those of consecutive counters from the session's own, one per
write, by induction on the run. -/
theorem Session.runNonces_eq (s : Session) (calls : List Call)
    : s.runNonces calls = (List.range (writeCount calls)).map
        (fun i => makeNonce (List.replicate nonceSize 0) ((s.writeNonceCount + i) % 2 ^ 64)) := by
  induction calls generalizing s with
  | nil => rfl
  | cons c cs ih =>
      cases c with
      | read r =>
          rw [Session.runNonces, ih, writeCount, Session.call_read_writeNonceCount]
      | write frameType payload =>
          have hw : (s.call (.write frameType payload)).1.writeNonceCount
              = (s.writeNonceCount + 1) % 2 ^ 64 := rfl
          rw [Session.runNonces, wireNonce_frameWrites, ih, writeCount, List.range_succ_eq_map,
            List.map_cons, List.map_map, hw, Session.nextNonce, Nat.add_zero, makeNonce_mod]
          congr 1
          apply List.map_congr_left
          intro i _
          simp only [Function.comp]
          congr 1
          omega

/-- Within one session every nonce is used once, as long as at most `2^64` frames are
written: the counters of a run differ modulo `2^64`. -/
theorem Session.runNonces_nodup (s : Session) {calls : List Call}
    (h : writeCount calls ≤ 2 ^ 64) : (s.runNonces calls).Nodup := by
  rw [Session.runNonces_eq]
  refine List.Nodup.map_on (fun i hi j hj he => ?_) (List.nodup_range _)
  have hc := congrArg nonceCounter he
  simp only [nonceCounter_makeNonce, Nat.mod_mod] at hc
  simp only [List.mem_range] at hi hj
  omega

/-- The `i`-th nonce of a run depends on the session's write counter only: two sessions with
the same counter, whatever they read and write, seal their `i`-th frames alike. -/
theorem Session.runNonces_agree {s t : Session} (h : s.writeNonceCount = t.writeNonceCount)
    (calls calls' : List Call) {i : Nat} (hi : i < writeCount calls) (hi' : i < writeCount calls')
    : (s.runNonces calls)[i]? = (t.runNonces calls')[i]? := by
  simp [Session.runNonces_eq, hi, hi', h]

/-- A frame a session wrote, fed back to its own `readFrame`, is accepted whenever its counter
lies above the last one accepted (or none was), by the decoding lemma of the round trip. -/
theorem Session.readFrame_own_frame {s : Session} (ha : s.aead.Correct) (ty : UInt8)
    {payload : Bytes} (hp : payload.length ≤ 65506) (hc : s.writeNonceCount < 2 ^ 64)
    (hnew : ¬(s.readSeen = true ∧ s.writeNonceCount ≤ s.readNonceCount)) (rest : Bytes)
    : ((s.writeFrame ty payload).1.readFrame ((s.writeFrame ty payload).2 ++ rest)).1
      = .ok ⟨ty, payload⟩ := by
  have h := readFrame_frameWrites ha
    (show (s.writeFrame ty payload).1.aead = s.aead from rfl) hc hnew ty hp rest
  exact congrArg Prod.fst h

-----------------------------------------------------------------------------------------
-- The two directions under one key
-----------------------------------------------------------------------------------------

/-- Under one key the server's first frame and the peer's first frame carry the same nonce
on the wire although their plaintexts differ, and the server's first frame, reflected back
to it, is accepted. -/
theorem directions_share_nonces
    : let server := (Session.fresh Aead.zeroTag).writeFrame frameTypeData [1]
      let peer := (Session.fresh Aead.zeroTag).writeFrame frameTypeData [2]
      (server.2.drop 2).take nonceSize = (peer.2.drop 2).take nonceSize
      ∧ server.2 ≠ peer.2
      ∧ (server.1.readFrame server.2).1 = .ok ⟨frameTypeData, [1]⟩ := by
  refine ⟨by decide, by decide, ?_⟩
  simpa using @Session.readFrame_own_frame (Session.fresh Aead.zeroTag)
    Aead.zeroTag_correct frameTypeData [1] (by decide) (by decide) (by decide) []

/-- Nonces are unique within one direction only. Along any run of one session, the frames of
at most `2^64` writes carry pairwise distinct nonces on the wire; two sessions with equal write
counters, as the server and its peer are when the handshake creates them, put the same nonce
on the wire in their `i`-th frames; and a session accepts its own frame back when its counter lies above
the last one accepted. -/
theorem nonces_unique_per_direction
    : (∀ (s : Session) (calls : List Call), writeCount calls ≤ 2 ^ 64
        → (s.runNonces calls).Nodup)
      ∧ (∀ (server peer : Session) (calls calls' : List Call) (i : Nat),
          server.writeNonceCount = peer.writeNonceCount
          → i < writeCount calls → i < writeCount calls'
          → (server.runNonces calls)[i]? = (peer.runNonces calls')[i]?)
      ∧ (∀ (s : Session) (ty : UInt8) (payload rest : Bytes), s.aead.Correct
          → payload.length ≤ 65506 → s.writeNonceCount < 2 ^ 64
          → ¬(s.readSeen = true ∧ s.writeNonceCount ≤ s.readNonceCount)
          → ((s.writeFrame ty payload).1.readFrame ((s.writeFrame ty payload).2 ++ rest)).1
            = .ok ⟨ty, payload⟩) :=
  ⟨fun s _ h => s.runNonces_nodup h,
    fun _ _ calls calls' _ h hi hi' => Session.runNonces_agree h calls calls' hi hi',
    fun _ ty _ rest ha hp hc hnew => Session.readFrame_own_frame ha ty hp hc hnew rest⟩

/-- The three parts at fresh sessions of the zero-tag AEAD: two writes, a first frame of
each party, and an empty frame reflected. -/
theorem nonces_unique_per_direction_fresh
    : ((Session.fresh Aead.zeroTag).runNonces
          [.write frameTypeData [1], .write frameTypeData [2]]).Nodup
      ∧ ((Session.fresh Aead.zeroTag).runNonces [.write frameTypeData [1]])[0]?
        = ((Session.fresh Aead.zeroTag).runNonces [.read [], .write frameTypeData [2]])[0]?
      ∧ (((Session.fresh Aead.zeroTag).writeFrame frameTypeData []).1.readFrame
          (((Session.fresh Aead.zeroTag).writeFrame frameTypeData []).2 ++ [])).1
        = .ok ⟨frameTypeData, []⟩ :=
  ⟨nonces_unique_per_direction.1 _ _ (by decide),
    nonces_unique_per_direction.2.1 _ _ _ _ 0 rfl (by decide) (by decide),
    nonces_unique_per_direction.2.2 _ frameTypeData [] [] Aead.zeroTag_correct (by decide)
      (by decide) (by decide)⟩

end Reflex
