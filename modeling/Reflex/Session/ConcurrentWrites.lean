import Reflex.Session.RoundTrip
import Mathlib.Data.List.Nodup

/-! Concurrent `WriteFrame` calls on one session and one writer. A call takes its counter
under `s.mu` (fetch and increment) and then, with the lock released, makes its three
`w.Write` calls; each of these four is one atomic step, and the steps of different calls
interleave in any order.
-/

namespace Reflex

open Go

/-- One `WriteFrame` call in flight: its frame, the counter it took under `s.mu` once it has,
and how many of its three writes are done. -/
structure WriteCall where
  frameType : UInt8
  payload : Bytes
  nonceCount : Option Nat
  written : Nat

/-- An atomic step of a call: the counter fetch-and-increment, or one `w.Write`. -/
inductive WriteEvent where
  | take (call nonceCount : Nat)
  | write (call : Nat) (bytes : Bytes)

/-- Concurrent calls on one session: the session, the calls, and the steps taken so far. -/
structure Writers where
  session : Session
  calls : List WriteCall
  trace : List WriteEvent

/-- The calls, none of them started, of one frame each. -/
def Writers.start (s : Session) (frames : List (UInt8 × Bytes)) : Writers :=
  { session := s, calls := frames.map (fun f => ⟨f.1, f.2, none, 0⟩), trace := [] }

/-- Call `i` makes its next atomic step; a finished or unknown call does nothing. -/
def Writers.step (st : Writers) (i : Nat) : Writers :=
  match st.calls[i]? with
  | none => st
  | some c =>
      match c.nonceCount with
      | none =>
          { session := { st.session with
              writeNonceCount := (st.session.writeNonceCount + 1) % 2 ^ 64 }
            calls := st.calls.set i { c with nonceCount := some st.session.writeNonceCount }
            trace := st.trace ++ [.take i st.session.writeNonceCount] }
      | some n =>
          match (frameWrites st.session.aead n c.frameType c.payload)[c.written]? with
          | none => st
          | some bytes =>
              { st with
                calls := st.calls.set i { c with written := c.written + 1 }
                trace := st.trace ++ [.write i bytes] }

/-- The steps of a schedule, one call index per step. -/
def Writers.run (st : Writers) (schedule : List Nat) : Writers := schedule.foldl Writers.step st

def WriteEvent.bytes : WriteEvent → Bytes
  | .take _ _ => []
  | .write _ bytes => bytes

def WriteEvent.taken : WriteEvent → Option (Nat × Nat)
  | .take call nonceCount => some (call, nonceCount)
  | .write _ _ => none

/-- The bytes on the writer, in order. -/
def Writers.out (st : Writers) : Bytes := (st.trace.map WriteEvent.bytes).flatten

/-- The counters taken so far, with the call that took each, in order. -/
def Writers.takes (st : Writers) : List (Nat × Nat) := st.trace.filterMap WriteEvent.taken

-----------------------------------------------------------------------------------------
-- The counters taken under the lock
-----------------------------------------------------------------------------------------

/-- What holds of every interleaving from a session with write counter `w0`: the `p`-th
counter taken is `w0 + p` (as a `uint64`), no call takes two, and a call holds exactly the
counter it took. -/
structure Writers.Inv (w0 : Nat) (st : Writers) : Prop where
  counter : st.session.writeNonceCount = (w0 + st.takes.length) % 2 ^ 64
  consecutive : ∀ p x, st.takes[p]? = some x → x.2 = (w0 + p) % 2 ^ 64
  takersNodup : (st.takes.map Prod.fst).Nodup
  held : ∀ i c n, st.calls[i]? = some c → (c.nonceCount = some n ↔ (i, n) ∈ st.takes)
  bound : ∀ x ∈ st.takes, x.1 < st.calls.length

theorem Writers.inv_start {s : Session} (hs : s.writeNonceCount < 2 ^ 64)
    (frames : List (UInt8 × Bytes)) : (Writers.start s frames).Inv s.writeNonceCount where
  counter := by simpa [Writers.start, Writers.takes] using (Nat.mod_eq_of_lt hs).symm
  consecutive := by simp [Writers.start, Writers.takes]
  takersNodup := by simp [Writers.start, Writers.takes]
  held i c n h := by
    simp only [Writers.start, List.getElem?_map, Option.map_eq_some'] at h
    obtain ⟨f, -, rfl⟩ := h
    simp [Writers.takes, Writers.start]
  bound := by simp [Writers.start, Writers.takes]

/-- A take keeps the invariant: the call held no counter, so the counter it takes is the
next one and the only one it holds. -/
theorem Writers.Inv.take {w0 : Nat} {st : Writers} (h : st.Inv w0) {i : Nat} {c : WriteCall}
    (hc : st.calls[i]? = some c) (hn : c.nonceCount = none)
    : Writers.Inv w0
        { session := { st.session with
            writeNonceCount := (st.session.writeNonceCount + 1) % 2 ^ 64 }
          calls := st.calls.set i { c with nonceCount := some st.session.writeNonceCount }
          trace := st.trace ++ [.take i st.session.writeNonceCount] } := by
  have hlen : i < st.calls.length := (List.getElem?_eq_some_iff.mp hc).1
  have hfree : ∀ m, (i, m) ∉ st.takes := fun m hm => by
    simpa [hn] using (h.held i c m hc).mpr hm
  have htakes : ∀ ss cs,
      (Writers.mk ss cs (st.trace ++ [WriteEvent.take i st.session.writeNonceCount])).takes
      = st.takes ++ [(i, st.session.writeNonceCount)] := by
    simp [Writers.takes, WriteEvent.taken]
  constructor <;> simp only [htakes]
  case counter =>
    rw [h.counter, List.length_append, List.length_singleton]
    omega
  case consecutive =>
    intro p x hx
    rcases Nat.lt_or_ge p st.takes.length with hp | hp
    · exact h.consecutive p x (by rwa [List.getElem?_append_left hp] at hx)
    · rw [List.getElem?_append_right hp] at hx
      rcases hq : p - st.takes.length with _ | q
      · rw [hq, List.getElem?_cons_zero, Option.some.injEq] at hx
        rw [← hx, h.counter, show p = st.takes.length by omega]
      · simp [hq] at hx
  case takersNodup =>
    rw [List.map_append, List.nodup_append]
    refine ⟨h.takersNodup, List.nodup_singleton _, ?_⟩
    simp only [List.map_cons, List.map_nil, List.disjoint_singleton, List.mem_map]
    rintro ⟨x, hx, rfl⟩
    exact hfree x.2 hx
  case held =>
    intro j c' m hj
    by_cases hji : j = i
    · subst hji
      rw [List.getElem?_set_self hlen, Option.some.injEq] at hj
      subst hj
      simp only [Option.some.injEq, List.mem_append, List.mem_singleton, Prod.mk.injEq, true_and]
      exact ⟨fun hm => .inr hm.symm, fun hm => hm.elim (absurd · (hfree m)) Eq.symm⟩
    · rw [List.getElem?_set_ne (Ne.symm hji)] at hj
      rw [h.held j c' m hj]
      simp [hji]
  case bound =>
    intro x hx
    simp only [List.mem_append, List.mem_singleton] at hx
    rw [List.length_set]
    rcases hx with hx | rfl
    · exact h.bound x hx
    · exact hlen

/-- A write keeps the invariant: it takes no counter and the call keeps the counter it
holds. -/
theorem Writers.Inv.write {w0 : Nat} {st : Writers} (h : st.Inv w0) {i : Nat} {c : WriteCall}
    (hc : st.calls[i]? = some c) (bytes : Bytes)
    : Writers.Inv w0
        { st with
          calls := st.calls.set i { c with written := c.written + 1 }
          trace := st.trace ++ [.write i bytes] } := by
  have hlen : i < st.calls.length := (List.getElem?_eq_some_iff.mp hc).1
  have htakes : ∀ ss cs,
      (Writers.mk ss cs (st.trace ++ [WriteEvent.write i bytes])).takes = st.takes := by
    simp [Writers.takes, WriteEvent.taken]
  constructor <;> simp only [htakes]
  case counter => exact h.counter
  case consecutive => exact h.consecutive
  case takersNodup => exact h.takersNodup
  case held =>
    intro j c' m hj
    by_cases hji : j = i
    · subst hji
      rw [List.getElem?_set_self hlen, Option.some.injEq] at hj
      subst hj
      exact h.held j c m hc
    · rw [List.getElem?_set_ne (Ne.symm hji)] at hj
      exact h.held j c' m hj
  case bound =>
    intro x hx
    rw [List.length_set]
    exact h.bound x hx

/-- Every step keeps the invariant, by the take and write cases. -/
theorem Writers.Inv.step {w0 : Nat} {st : Writers} (h : st.Inv w0) (i : Nat)
    : (st.step i).Inv w0 := by
  unfold Writers.step
  rcases hc : st.calls[i]? with _ | c
  · exact h
  dsimp only
  rcases hn : c.nonceCount with _ | n
  · exact h.take hc hn
  · dsimp only
    rcases (frameWrites st.session.aead n c.frameType c.payload)[c.written]? with _ | bytes
    · exact h
    · rw [← hn]
      exact h.write hc bytes

/-- Every run from a session keeps the invariant, by induction on the schedule. -/
theorem Writers.Inv.run {w0 : Nat} {st : Writers} (h : st.Inv w0) (schedule : List Nat)
    : (st.run schedule).Inv w0 := by
  induction schedule generalizing st with
  | nil => exact h
  | cons i rest ih => exact ih (h.step i)

theorem Writers.length_calls_step (st : Writers) (i : Nat)
    : (st.step i).calls.length = st.calls.length := by
  unfold Writers.step
  split
  · rfl
  split
  · simp
  split <;> simp

theorem Writers.length_calls_run (st : Writers) (schedule : List Nat)
    : (st.run schedule).calls.length = st.calls.length := by
  induction schedule generalizing st with
  | nil => rfl
  | cons i rest ih => exact (ih _).trans (st.length_calls_step i)

/-- No call takes two counters, so there are no more counters than calls. -/
theorem Writers.Inv.takes_length_le {w0 : Nat} {st : Writers} (h : st.Inv w0)
    : st.takes.length ≤ st.calls.length := by
  have hsub : st.takes.map Prod.fst ⊆ List.range st.calls.length := fun i hi => by
    obtain ⟨x, hx, rfl⟩ := List.mem_map.mp hi
    exact List.mem_range.mpr (h.bound x hx)
  simpa using (List.subperm_of_subset h.takersNodup hsub).length_le

/-- Two calls never hold the same counter while there are at most `2^64` calls: their
counters are `w0 + p` and `w0 + q` for distinct positions below the number of calls. -/
theorem Writers.Inv.nonceCount_ne {w0 : Nat} {st : Writers} (h : st.Inv w0)
    (hcalls : st.calls.length ≤ 2 ^ 64) {i j : Nat} (hij : i ≠ j) {ci cj : WriteCall}
    {ni nj : Nat} (hi : st.calls[i]? = some ci) (hj : st.calls[j]? = some cj)
    (hci : ci.nonceCount = some ni) (hcj : cj.nonceCount = some nj) : ni ≠ nj := by
  obtain ⟨p, hp⟩ := List.mem_iff_getElem?.mp ((h.held i ci ni hi).mp hci)
  obtain ⟨q, hq⟩ := List.mem_iff_getElem?.mp ((h.held j cj nj hj).mp hcj)
  have hpv := h.consecutive p _ hp
  have hqv := h.consecutive q _ hq
  have hpl := (List.getElem?_eq_some_iff.mp hp).1
  have hql := (List.getElem?_eq_some_iff.mp hq).1
  have hlen := h.takes_length_le
  intro he
  have hpq : p = q := by
    simp only at hpv hqv
    omega
  subst hpq
  rw [hp, Option.some.injEq, Prod.mk.injEq] at hq
  exact hij hq.1

-----------------------------------------------------------------------------------------
-- Calls that do not overlap
-----------------------------------------------------------------------------------------

/-- A schedule in which the calls run one after another, each through its four steps. -/
def serial (order : List Nat) : List Nat := (order.map (fun i => List.replicate 4 i)).flatten

theorem Writers.run_append (st : Writers) (a b : List Nat)
    : st.run (a ++ b) = (st.run a).run b := List.foldl_append _ _ _ _

/-- A call run alone from its start writes one whole frame, exactly as `writeFrame` does,
and touches no other call. -/
theorem Writers.run_call (st : Writers) {i : Nat} {c : WriteCall} (hc : st.calls[i]? = some c)
    (hn : c.nonceCount = none) (hw : c.written = 0)
    : (st.run (List.replicate 4 i)).out = st.out ++ (st.session.writeFrame c.frameType c.payload).2
      ∧ (st.run (List.replicate 4 i)).session = (st.session.writeFrame c.frameType c.payload).1
      ∧ ∀ j, j ≠ i → (st.run (List.replicate 4 i)).calls[j]? = st.calls[j]? := by
  have hlen := (List.getElem?_eq_some_iff.mp hc).1
  simp [Writers.run, List.replicate, Writers.step, hc, hn, hw, hlen, frameWrites, Writers.out,
    Session.writeFrame, WriteEvent.bytes]
  exact fun j hj => List.getElem?_set_ne (Ne.symm hj)

/-- Calls run one after another write their frames in that order, under consecutive
counters: the stream is what sequential `writeFrame` calls write. By induction on the order;
an index without a call runs no step. -/
theorem Writers.run_serial (frames : List (UInt8 × Bytes)) (order : List Nat)
    (hnodup : order.Nodup) (st : Writers)
    (hcalls : ∀ i ∈ order, st.calls[i]? = frames[i]?.map (fun f => ⟨f.1, f.2, none, 0⟩))
    : (st.run (serial order)).out
      = st.out ++ (st.session.writeFrames (order.filterMap (fun i => frames[i]?))).2 := by
  induction order generalizing st with
  | nil => simp [serial, Writers.run, Session.writeFrames]
  | cons i rest ih =>
      obtain ⟨hi, hrest⟩ := List.nodup_cons.mp hnodup
      rw [show serial (i :: rest) = List.replicate 4 i ++ serial rest from rfl,
        Writers.run_append]
      rcases hf : frames[i]? with _ | f
      · have hstep : st.run (List.replicate 4 i) = st := by
          have hc : st.calls[i]? = none := by simpa [hf] using hcalls i (List.mem_cons_self _ _)
          simp [Writers.run, List.replicate, Writers.step, hc]
        rw [hstep, List.filterMap_cons, hf]
        exact ih hrest st (fun j hj => hcalls j (List.mem_cons_of_mem _ hj))
      · have hc : st.calls[i]? = some ⟨f.1, f.2, none, 0⟩ := by
          simpa [hf] using hcalls i (List.mem_cons_self _ _)
        obtain ⟨hout, hsession, hothers⟩ := st.run_call hc rfl rfl
        rw [ih hrest _ (fun j hj => by
            rw [hothers j (fun he => hi (he ▸ hj))]
            exact hcalls j (List.mem_cons_of_mem _ hj)),
          hout, hsession, List.filterMap_cons, hf]
        simp [Session.writeFrames]

-----------------------------------------------------------------------------------------
-- What concurrent calls guarantee, and what they do not
-----------------------------------------------------------------------------------------

/-- Two calls on a fresh session: the first takes counter 0, then the second takes counter 1
and writes its whole frame before the first writes anything. The stream holds frame 1 before
frame 0, and the peer returns frame 1 and then rejects frame 0 as a replay. -/
theorem concurrent_writes_out_of_order
    : (Session.fresh Aead.zeroTag).readAll
        ((Writers.start (Session.fresh Aead.zeroTag)
          [(frameTypeData, []), (frameTypeData, [])]).run [0, 1, 1, 1, 1, 0, 0, 0]).out
      = ([⟨frameTypeData, []⟩], .err (.new "reflex: replay detected")) := by
  let frame : Nat → Bytes := fun n => (frameWrites Aead.zeroTag n frameTypeData []).flatten
  let seen : Session := { Session.fresh Aead.zeroTag with readSeen := true, readNonceCount := 1 }
  have hout : ((Writers.start (Session.fresh Aead.zeroTag)
      [(frameTypeData, []), (frameTypeData, [])]).run [0, 1, 1, 1, 1, 0, 0, 0]).out
      = frame 1 ++ frame 0 := rfl
  have first : (Session.fresh Aead.zeroTag).readFrame (frame 1 ++ frame 0)
      = (.ok ⟨frameTypeData, []⟩, seen, frame 0) :=
    readFrame_frameWrites Aead.zeroTag_correct rfl (by decide) (by simp [Session.fresh])
      frameTypeData (by decide) (frame 0)
  have second : seen.readFrame (frame 0) = (.err (.new "reflex: replay detected"), seen, []) :=
    rfl
  rw [hout, readAll_of_ok first, readAll_of_err second]

/-- What concurrent `WriteFrame` calls on one session do guarantee, from a session whose
counter is a `uint64`, with at most `2^64` calls. Under every interleaving no two calls hold
the same counter. Calls that do not overlap write whole frames, in the order they run, under
consecutive counters, exactly as sequential calls; a reader over a correct AEAD whose last
accepted counter lies below decodes them all, when every payload has at most 65506 bytes and
the counters do not wrap. -/
theorem concurrent_writes_guarantees (s : Session) (hs : s.writeNonceCount < 2 ^ 64)
    (frames : List (UInt8 × Bytes)) (hcalls : frames.length ≤ 2 ^ 64)
    : (∀ (schedule : List Nat) (i j : Nat) (ci cj : WriteCall) (ni nj : Nat), i ≠ j
        → ((Writers.start s frames).run schedule).calls[i]? = some ci
        → ((Writers.start s frames).run schedule).calls[j]? = some cj
        → ci.nonceCount = some ni → cj.nonceCount = some nj → ni ≠ nj)
      ∧ (∀ order : List Nat, order.Nodup
        → ((Writers.start s frames).run (serial order)).out
          = (s.writeFrames (order.filterMap (fun i => frames[i]?))).2)
      ∧ (∀ (order : List Nat) (r : Session), order.Nodup → s.aead.Correct → r.aead = s.aead
        → (r.readSeen = true → r.readNonceCount < s.writeNonceCount)
        → s.writeNonceCount + (order.filterMap (fun i => frames[i]?)).length ≤ 2 ^ 64
        → (∀ f ∈ frames, f.2.length ≤ 65506)
        → r.readAll ((Writers.start s frames).run (serial order)).out
          = ((order.filterMap (fun i => frames[i]?)).map (fun f => ⟨f.1, f.2⟩), .err .eof)) := by
  have hserial : ∀ order : List Nat, order.Nodup
      → ((Writers.start s frames).run (serial order)).out
        = (s.writeFrames (order.filterMap (fun i => frames[i]?))).2 := fun order hnodup => by
    simpa [Writers.start, Writers.out] using
      Writers.run_serial frames order hnodup (Writers.start s frames)
        (fun i _ => by simp [Writers.start])
  refine ⟨fun schedule i j ci cj ni nj hij hi hj hci hcj => ?_, hserial,
    fun order r hnodup ha hr hahead hcount hsize => ?_⟩
  · have hinv := (Writers.inv_start hs frames).run schedule
    refine hinv.nonceCount_ne ?_ hij hi hj hci hcj
    simpa [Writers.length_calls_run, Writers.start] using hcalls
  · rw [hserial order hnodup]
    refine readAll_writeFrames ha _ (fun f hf => ?_) s r rfl hr hcount hahead
    obtain ⟨i, -, hi⟩ := List.mem_filterMap.mp hf
    exact hsize f (List.getElem?_mem hi)

/-- The guarantees at two empty frames on a fresh session: the counters the two calls hold
after the interleaving above differ, and run one after the other, second call first, they
write frame 0 and then frame 1, which a fresh reader of the same key decodes, both, before
EOF. -/
theorem concurrent_writes_guarantees_fresh
    : (0 : Nat) ≠ 1
      ∧ ((Writers.start (Session.fresh Aead.zeroTag)
          [(frameTypeData, []), (frameTypeData, [])]).run (serial [1, 0])).out
        = ((Session.fresh Aead.zeroTag).writeFrames [(frameTypeData, []), (frameTypeData, [])]).2
      ∧ (Session.fresh Aead.zeroTag).readAll ((Writers.start (Session.fresh Aead.zeroTag)
          [(frameTypeData, []), (frameTypeData, [])]).run (serial [1, 0])).out
        = ([⟨frameTypeData, []⟩, ⟨frameTypeData, []⟩], .err .eof) :=
  let g := concurrent_writes_guarantees (Session.fresh Aead.zeroTag) (by decide)
    [(frameTypeData, []), (frameTypeData, [])] (by decide)
  ⟨g.1 [0, 1, 1, 1, 1, 0, 0, 0] 0 1 _ _ 0 1 (by decide) rfl rfl rfl rfl,
    g.2.1 [1, 0] (by decide),
    g.2.2 [1, 0] (Session.fresh Aead.zeroTag) (by decide) Aead.zeroTag_correct rfl nofun
      (by decide) (by decide)⟩

end Reflex
