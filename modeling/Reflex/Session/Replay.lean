import Reflex.Session.Codec
import Mathlib.Data.List.Chain

/-! The read side's replay check over whole runs. Along any sequence of `ReadFrame` and
`WriteFrame` calls, on streams of any content, the counters of the accepted frames increase
strictly; a failing read changes nothing of the read state.
-/

namespace Reflex

open Go

/-- One call on a session: `ReadFrame` on a stream, or `WriteFrame` of a frame. -/
inductive Call where
  | read (r : Bytes)
  | write (frameType : UInt8) (payload : Bytes)

/-- The session after a call, and the counter of the frame the call accepted, if any. -/
def Session.call (s : Session) : Call → Session × Option Nat
  | .read r =>
      match s.readFrame r with
      | (.ok _, s', _) => (s', some (nonceCounter (r.drop 2)))
      | (_, s', _) => (s', none)
  | .write frameType payload => ((s.writeFrame frameType payload).1, none)

/-- A run of calls: the last session and the counters of the accepted frames, in order. -/
def Session.run (s : Session) : List Call → Session × List Nat
  | [] => (s, [])
  | c :: cs =>
      let first := s.call c
      let next := first.1.run cs
      (next.1, first.2.toList ++ next.2)

/-- Counters strictly increasing, and above the last accepted counter if there is one. -/
def Session.Above (s : Session) (counters : List Nat) : Prop :=
  if s.readSeen then counters.Chain (· < ·) s.readNonceCount else counters.Chain' (· < ·)

/-- A call either accepts nothing and keeps the read state, or accepts a counter that passes
the replay check and records it. -/
theorem Session.call_cases (s : Session) (c : Call)
    : ((s.call c).2 = none ∧ (s.call c).1.readSeen = s.readSeen
        ∧ (s.call c).1.readNonceCount = s.readNonceCount)
      ∨ ∃ n, (s.call c).2 = some n ∧ ¬(s.readSeen = true ∧ n ≤ s.readNonceCount)
        ∧ (s.call c).1.readSeen = true ∧ (s.call c).1.readNonceCount = n := by
  cases c with
  | write frameType payload => exact .inl ⟨rfl, rfl, rfl⟩
  | read r =>
      have step := readFrame_step s r
      rcases hr : s.readFrame r with ⟨res | e | what, s', rest⟩ <;>
        simp only [hr, ReadStep] at step
      · exact .inr ⟨_, by simp [Session.call, hr], step.1, by simp [Session.call, hr, step.2.1],
          by simp [Session.call, hr, step.2.1]⟩
      · subst step
        exact .inl (by simp [Session.call, hr])

/-- One call keeps the invariant: a run above the next session is above this one once the
call's own counter is put in front. -/
theorem Session.above_call {s : Session} {c : Call} {rest : List Nat}
    (h : (s.call c).1.Above rest) : s.Above ((s.call c).2.toList ++ rest) := by
  rcases s.call_cases c with ⟨hn, hseen, hcount⟩ | ⟨n, hn, hcheck, hseen, hcount⟩
  · simpa only [hn, Option.toList, List.nil_append, Session.Above, hseen, hcount] using h
  · simp only [Session.Above, hseen, hcount, if_true] at h
    simp only [hn, Option.toList, List.singleton_append, Session.Above]
    split
    · exact .cons (by simp_all) h
    · exact h

/-- Every run is above its starting session, by induction on the calls. -/
theorem Session.run_above (s : Session) (calls : List Call) : s.Above (s.run calls).2 := by
  induction calls generalizing s with
  | nil => cases s.readSeen <;> simp [Session.run, Session.Above]
  | cons c cs ih => exact Session.above_call (ih _)

theorem Session.Above.chain' {s : Session} {counters : List Nat} (h : s.Above counters)
    : counters.Chain' (· < ·) := by
  unfold Session.Above at h
  split at h
  · exact List.Chain'.tail (show List.Chain' (· < ·) (s.readNonceCount :: counters) from h)
  · exact h

/-- The replay invariant of the read side: in every run from every session, the counters of
accepted frames increase strictly and exceed the counter last accepted before the run, and
a `ReadFrame` that returns an error leaves `readSeen` and `readNonceCount` as they were. -/
theorem readFrame_replay_invariant (s : Session) (calls : List Call)
    : (s.run calls).2.Chain' (· < ·)
      ∧ (∀ n ∈ (s.run calls).2, s.readSeen = true → s.readNonceCount < n)
      ∧ ∀ (t : Session) (r : Bytes) (e : GoError) (t' : Session) (rest : Bytes),
          t.readFrame r = (.err e, t', rest)
          → t'.readSeen = t.readSeen ∧ t'.readNonceCount = t.readNonceCount := by
  have above := s.run_above calls
  refine ⟨above.chain', fun n hn hs => ?_, fun t r e t' rest h => ?_⟩
  · simp only [Session.Above, hs, if_true] at above
    exact List.Chain.rel above hn
  · rw [readFrame_err_session h]
    exact ⟨rfl, rfl⟩

end Reflex
