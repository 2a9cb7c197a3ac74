import Reflex.Go.Bytes
import Mathlib.Data.List.Count

/-! The relay of `handleFallback`: one pump copies the client's stream to the target, the
other the target's answer to the client, and the handler returns as soon as the first of
them reports on `errc`, closing the target. The target closes its connection when it likes,
and a write that reaches it after that can make it reset the connection. A run is a schedule
of which party moves next; a pump's step moves one byte, a read of more bytes being a run of
such steps.
-/

namespace Reflex

open Go

/-- The parties of the relay: the two pumps, the handler waiting on `errc`, and the fallback
target. -/
inductive Party where
  | peerToTarget
  | targetToPeer
  | main
  | target
  deriving DecidableEq, Repr

/-- `net.ErrClosed`, the error of a read or write on a connection this side has closed. -/
def errClosed : GoError := .new "use of closed network connection"

/-- `EPIPE`, the error of a write on a connection the target has reset after closing it: the
reset of a connection whose peer has closed its side leaves that error pending. -/
def errPipe : GoError := .new "broken pipe"

/-- The state of a relay on the client's pending stream and the target's answer. -/
structure Relay where
  /-- The client's bytes the first pump has not read; EOF follows them. -/
  clientLeft : Bytes
  /-- How many of them `bufio` already holds: those stay readable once the client's
  connection is closed. -/
  buffered : Nat
  /-- The target's bytes the second pump has not read. -/
  targetLeft : Bytes
  /-- The target has closed its connection: EOF follows its bytes. -/
  targetClosed : Bool
  /-- The target has reset the connection after closing it: writes to it fail, while its bytes
  stay readable up to its EOF. -/
  targetReset : Bool
  toTarget : Bytes
  toClient : Bytes
  /-- The reports sent on `errc`, in order, with the pump that sent each. -/
  errc : List (Party × Option GoError)
  /-- The first pump has reported. -/
  upDone : Bool
  /-- The second pump's copy has ended with this result and it has closed the client's
  connection; it reports at its next move. -/
  downEnd : Option (Option GoError)
  /-- The second pump has reported. -/
  downDone : Bool
  /-- The report the handler received; it has then returned and closed the target. -/
  returned : Option (Party × Option GoError)
  deriving DecidableEq, Repr

/-- The client's connection is closed once the second pump's copy has ended. -/
def Relay.clientClosed (st : Relay) : Bool := st.downEnd.isSome

def Relay.start (c r : Bytes) (buffered : Nat) : Relay :=
  ⟨c, buffered, r, false, false, [], [], [], false, none, false, none⟩

/-- A pump's `errc <- e`. -/
def Relay.send (st : Relay) (p : Party) (e : Option GoError) : Relay :=
  { st with errc := st.errc ++ [(p, e)] }

/-- The first pump's `errc <- e`, after its copy and the `CloseWrite` of the target. -/
def Relay.reportUp (st : Relay) (e : Option GoError) : Relay :=
  { st.send .peerToTarget e with upDone := true }

/-- A move of the first pump, `io.Copy(target, wrapped)`: at the client's EOF it reports nil,
or the error of a read on the closed client connection; a read past the buffered bytes of a
closed client connection, or a write to a target the handler has closed or the target has
reset, ends it with that error. -/
def Relay.pumpUp (st : Relay) : Relay :=
  if st.upDone then st
  else
    match st.clientLeft with
    | [] => st.reportUp (if st.clientClosed then some errClosed else none)
    | b :: rest =>
        if st.clientClosed ∧ st.buffered = 0 then st.reportUp (some errClosed)
        else if st.returned.isSome then st.reportUp (some errClosed)
        else if st.targetReset then st.reportUp (some errPipe)
        else { st with clientLeft := rest, buffered := st.buffered - 1, toTarget := st.toTarget ++ [b] }

/-- A move of the second pump, `io.Copy(wrapped, target)`: its copy ends at the target's EOF,
which a reset after the close leaves in place, or with the closed-connection error once the
handler has closed the target, and then `wrapped.Close()` closes the client's connection;
`errc <- e` is its next move. It waits on a target that neither sends nor closes. -/
def Relay.pumpDown (st : Relay) : Relay :=
  if st.downDone then st
  else
    match st.downEnd with
    | some e => { st.send .targetToPeer e with downDone := true }
    | none =>
        if st.returned.isSome then { st with downEnd := some (some errClosed) }
        else
          match st.targetLeft with
          | b :: rest => { st with targetLeft := rest, toClient := st.toClient ++ [b] }
          | [] => if st.targetClosed then { st with downEnd := some none } else st

/-- A move of the target: it closes its connection, and at a later move resets it, as a write
that reaches it after its close makes it do. -/
def Relay.targetMove (st : Relay) : Relay :=
  if st.targetClosed then { st with targetReset := true } else { st with targetClosed := true }

/-- A move of the handler: it receives the first report and returns. -/
def Relay.receive (st : Relay) : Relay :=
  match st.returned, st.errc with
  | none, first :: _ => { st with returned := some first }
  | _, _ => st

def Relay.step (st : Relay) : Party → Relay
  | .peerToTarget => st.pumpUp
  | .targetToPeer => st.pumpDown
  | .main => st.receive
  | .target => st.targetMove

def Relay.run (st : Relay) (schedule : List Party) : Relay := schedule.foldl Relay.step st

/-- What `handleFallback` returns for the report it received: the error, unless it is nil or
EOF. -/
def fallbackResult (report : Party × Option GoError) : Option GoError :=
  report.2.filter (fun e => e != .eof)

@[simp] theorem Relay.run_nil (st : Relay) : st.run [] = st := rfl

@[simp] theorem Relay.run_cons (st : Relay) (p : Party) (schedule : List Party)
    : st.run (p :: schedule) = (st.step p).run schedule := rfl

theorem Relay.run_append (st : Relay) (a b : List Party) : st.run (a ++ b) = (st.run a).run b := by
  simp [Relay.run, List.foldl_append]

-----------------------------------------------------------------------------------------
-- What each pump's move can do
-----------------------------------------------------------------------------------------

/-- A move of the first pump does nothing once it has reported; otherwise it reports nil at
the client's EOF, the closed-connection error on a closed client connection or target, `EPIPE`
on a reset target, or it copies the next byte. -/
theorem Relay.pumpUp_cases (st : Relay)
    : st.upDone = true ∧ st.pumpUp = st
      ∨ (∃ e, st.upDone = false ∧ st.pumpUp = st.reportUp e
          ∧ (e = none ∧ st.clientLeft = []
            ∨ e = some errClosed ∧ (st.clientClosed = true ∨ st.returned.isSome)
            ∨ e = some errPipe ∧ st.targetReset = true))
      ∨ ∃ b rest, st.upDone = false ∧ st.clientLeft = b :: rest ∧ st.returned = none
          ∧ st.pumpUp
            = { st with clientLeft := rest, buffered := st.buffered - 1, toTarget := st.toTarget ++ [b] } := by
  unfold Relay.pumpUp
  by_cases hd : st.upDone = true
  · exact .inl ⟨hd, if_pos hd⟩
  rw [if_neg hd]
  replace hd : st.upDone = false := by simpa using hd
  split
  · rename_i hl
    refine .inr (.inl ⟨_, hd, rfl, ?_⟩)
    cases hc : st.clientClosed
    · exact .inl ⟨rfl, hl⟩
    · exact .inr (.inl ⟨rfl, .inl rfl⟩)
  · rename_i b rest hl
    split_ifs with hcb hret hrs
    · exact .inr (.inl ⟨_, hd, rfl, .inr (.inl ⟨rfl, .inl hcb.1⟩)⟩)
    · exact .inr (.inl ⟨_, hd, rfl, .inr (.inl ⟨rfl, .inr hret⟩)⟩)
    · exact .inr (.inl ⟨_, hd, rfl, .inr (.inr ⟨rfl, hrs⟩)⟩)
    · exact .inr (.inr ⟨b, rest, hd, hl, by simpa using hret, rfl⟩)

/-- A move of the second pump does nothing, sends its report, ends its copy with the
closed-connection error once the handler has returned, ends it at the target's EOF, or copies
the next byte. -/
theorem Relay.pumpDown_cases (st : Relay)
    : st.pumpDown = st
      ∨ (∃ e, st.downEnd = some e ∧ st.pumpDown = { st.send .targetToPeer e with downDone := true })
      ∨ (st.returned.isSome ∧ st.pumpDown = { st with downEnd := some (some errClosed) })
      ∨ (st.targetLeft = [] ∧ st.targetClosed = true ∧ st.pumpDown = { st with downEnd := some none })
      ∨ ∃ b rest, st.downEnd = none ∧ st.returned = none ∧ st.targetLeft = b :: rest
          ∧ st.pumpDown = { st with targetLeft := rest, toClient := st.toClient ++ [b] } := by
  unfold Relay.pumpDown
  split
  · exact .inl rfl
  split
  · exact .inr (.inl ⟨_, ‹_›, rfl⟩)
  rename_i hnone
  split
  · exact .inr (.inr (.inl ⟨‹_›, rfl⟩))
  rename_i hret
  split
  · rename_i b rest hl
    exact .inr (.inr (.inr (.inr ⟨b, rest, hnone, by simpa using hret, hl, rfl⟩)))
  · split
    · exact .inr (.inr (.inr (.inl ⟨‹_›, ‹_›, rfl⟩)))
    · exact .inl rfl

-----------------------------------------------------------------------------------------
-- What every move keeps
-----------------------------------------------------------------------------------------

/-- What a move never undoes: the bytes delivered each way, the target's close and reset, and
the reports already sent. -/
structure Relay.Mono (st st' : Relay) : Prop where
  toTarget : st.toTarget <+: st'.toTarget
  toClient : st.toClient <+: st'.toClient
  targetClosed : st.targetClosed = true → st'.targetClosed = true
  targetReset : st.targetReset = true → st'.targetReset = true
  errc : st.errc <+: st'.errc

-----------------------------------------------------------------------------------------
-- The invariant of a relay
-----------------------------------------------------------------------------------------

/-- What the first report on `errc` says about the run on the client's stream `c` and the
answer `r`: a pump reports nil only once its whole stream is delivered; the first pump's
closed-connection error comes only after the second pump has closed the client's connection
at the target's EOF, all of `r` delivered, and its `EPIPE` only after the target's reset. The
second pump's error follows the handler's return and is never first, and neither the handler
nor the target reports. -/
def Relay.FirstReport (c r : Bytes) (st : Relay) : Party × Option GoError → Prop
  | (.peerToTarget, none) => st.toTarget = c
  | (.targetToPeer, none) => st.toClient = r
  | (.peerToTarget, some e) =>
      e = errClosed ∧ st.toClient = r ∧ st.targetClosed = true ∨ e = errPipe ∧ st.targetReset = true
  | (.targetToPeer, some _) => False
  | (.main, _) => False
  | (.target, _) => False

/-- Bytes delivered in full stay delivered in full. -/
theorem eq_of_prefix_of_eq {a b c : Bytes} (ha : a = c) (hab : a <+: b) (hb : b <+: c) : b = c :=
  hb.eq_of_length (le_antisymm hb.length_le (ha ▸ hab.length_le))

/-- What a first report says holds on after any move that keeps both deliveries prefixes. -/
theorem Relay.FirstReport.mono {c r : Bytes} {st st' : Relay} (hm : Relay.Mono st st')
    (hc : st'.toTarget <+: c) (hr : st'.toClient <+: r)
    : ∀ {x}, Relay.FirstReport c r st x → Relay.FirstReport c r st' x
  | (.peerToTarget, none), h => eq_of_prefix_of_eq h hm.toTarget hc
  | (.targetToPeer, none), h => eq_of_prefix_of_eq h hm.toClient hr
  | (.peerToTarget, some _), h =>
      h.imp (fun ⟨he, hcl, htc⟩ => ⟨he, eq_of_prefix_of_eq hcl hm.toClient hr, hm.targetClosed htc⟩)
        fun ⟨he, hrs⟩ => ⟨he, hm.targetReset hrs⟩
  | (.targetToPeer, some _), h => h.elim

/-- What holds along every run on the client's stream `c` and the answer `r`: each pump has
delivered a prefix of its stream, the second pump's copy ends at the target's EOF only after
its close and with an error only after the handler's return, the first report says what
`FirstReport` says, a pump that has reported has sent a report, and the handler holds the
first report once it has returned. -/
structure Relay.Inv (c r : Bytes) (st : Relay) : Prop where
  target_prefix : st.toTarget ++ st.clientLeft = c
  client_prefix : st.toClient ++ st.targetLeft = r
  down_eof : st.downEnd = some none → st.targetLeft = [] ∧ st.targetClosed = true
  down_err : ∀ e, st.downEnd = some (some e) → e = errClosed ∧ st.returned.isSome
  first : ∀ x ∈ st.errc.head?, Relay.FirstReport c r st x
  up_reported : st.upDone = true → st.errc ≠ []
  returned_first : ∀ x, st.returned = some x → st.errc.head? = some x

theorem Relay.inv_start (c r : Bytes) (buffered : Nat) : (Relay.start c r buffered).Inv c r :=
  ⟨rfl, rfl, nofun, nofun, nofun, nofun, nofun⟩

theorem Relay.Inv.errc_ne_of_returned {c r : Bytes} {st : Relay} (h : st.Inv c r)
    (hret : st.returned.isSome) : st.errc ≠ [] := by
  obtain ⟨x, hx⟩ := Option.isSome_iff_exists.mp hret
  intro he
  simpa [he] using h.returned_first x hx

/-- The closed client connection a pump meets before any report was closed by the second
pump at the target's EOF, after all of `r`. -/
theorem Relay.Inv.closed_before_report {c r : Bytes} {st : Relay} (h : st.Inv c r)
    (hc : st.clientClosed = true) (he : st.errc = []) : st.toClient = r ∧ st.targetClosed = true := by
  obtain ⟨e, hend⟩ := Option.isSome_iff_exists.mp hc
  rcases e with _ | e
  · obtain ⟨hl, htc⟩ := h.down_eof hend
    exact ⟨by simpa [hl] using h.client_prefix, htc⟩
  · exact absurd he (h.errc_ne_of_returned (h.down_err e hend).2)

/-- A report behind others keeps the first one. -/
theorem head?_append_report {l : List (Party × Option GoError)} (h : l ≠ []) (x : Party × Option GoError)
    : (l ++ [x]).head? = l.head? := by
  cases l with
  | nil => exact absurd rfl h
  | cons y l => rfl

/-- A move that keeps the deliveries prefixes keeps the first report and what it says; a first
report sent by the move must say it. -/
theorem Relay.Inv.first_of_mono {c r : Bytes} {st st' : Relay} (h : st.Inv c r)
    (hm : Relay.Mono st st') (hc : st'.toTarget <+: c) (hr : st'.toClient <+: r)
    (hnew : st.errc = [] → ∀ x ∈ st'.errc.head?, Relay.FirstReport c r st' x)
    : ∀ x ∈ st'.errc.head?, Relay.FirstReport c r st' x := by
  by_cases he : st.errc = []
  · exact hnew he
  · obtain ⟨rest, hrest⟩ := hm.errc
    intro x hx
    rw [← hrest, List.head?_append_of_ne_nil _ he] at hx
    exact (h.first x hx).mono hm hc hr

/-- A move that sends no report keeps what the first report says. -/
theorem Relay.Inv.first_same {c r : Bytes} {st st' : Relay} (h : st.Inv c r)
    (hm : Relay.Mono st st') (he : st'.errc = st.errc) (hc : st'.toTarget <+: c)
    (hr : st'.toClient <+: r) : ∀ x ∈ st'.errc.head?, Relay.FirstReport c r st' x :=
  h.first_of_mono hm hc hr fun h0 x hx => by simp [he, h0] at hx

/-- A report keeps the invariant when, if it is the first, it says what a first report
says. -/
theorem Relay.Inv.send {c r : Bytes} {st : Relay} (h : st.Inv c r) (p : Party) (e : Option GoError)
    (hfirst : st.errc = [] → Relay.FirstReport c r st (p, e)) : (st.send p e).Inv c r := by
  refine ⟨h.target_prefix, h.client_prefix, h.down_eof, h.down_err,
    h.first_of_mono ⟨List.prefix_refl _, List.prefix_refl _, id, id, List.prefix_append _ _⟩
      ⟨_, h.target_prefix⟩ ⟨_, h.client_prefix⟩ fun he x hx => ?_,
    fun _ => by simp [Relay.send], fun x hx => ?_⟩
  · simp only [Relay.send, he, List.nil_append, List.head?_cons, Option.mem_def, Option.some.injEq] at hx
    exact hx ▸ hfirst he
  · show (st.errc ++ _).head? = some x
    rw [head?_append_report (h.errc_ne_of_returned (by rw [show st.returned = some x from hx]; rfl))]
    exact h.returned_first x hx

theorem Relay.Inv.reportUp {c r : Bytes} {st : Relay} (h : st.Inv c r) (e : Option GoError)
    (hfirst : st.errc = [] → Relay.FirstReport c r st (.peerToTarget, e)) : (st.reportUp e).Inv c r :=
  have h' := h.send .peerToTarget e hfirst
  ⟨h'.target_prefix, h'.client_prefix, h'.down_eof, h'.down_err, h'.first,
    fun _ => by simp [Relay.reportUp, Relay.send], h'.returned_first⟩

theorem Relay.Inv.pumpUp {c r : Bytes} {st : Relay} (h : st.Inv c r) : st.pumpUp.Inv c r := by
  rcases st.pumpUp_cases with ⟨-, hst⟩ | ⟨e, -, hst, hwhy⟩ | ⟨b, rest, -, hl, -, hst⟩ <;> rw [hst]
  · exact h
  · refine h.reportUp e fun he => ?_
    rcases hwhy with ⟨rfl, hl⟩ | ⟨rfl, hcl | hret⟩ | ⟨rfl, hrs⟩
    · simpa [hl] using h.target_prefix
    · exact .inl ⟨rfl, h.closed_before_report hcl he⟩
    · exact absurd he (h.errc_ne_of_returned hret)
    · exact .inr ⟨rfl, hrs⟩
  · have hc : st.toTarget ++ [b] ++ rest = c := by simpa [hl] using h.target_prefix
    exact ⟨hc, h.client_prefix, h.down_eof, h.down_err,
      h.first_same ⟨List.prefix_append _ _, List.prefix_refl _, id, id, List.prefix_refl _⟩ rfl ⟨_, hc⟩
        ⟨_, h.client_prefix⟩, h.up_reported, h.returned_first⟩

theorem Relay.Inv.pumpDown {c r : Bytes} {st : Relay} (h : st.Inv c r) : st.pumpDown.Inv c r := by
  rcases st.pumpDown_cases with hst | ⟨e, hend, hst⟩ | ⟨hret, hst⟩ | ⟨hl, htc, hst⟩
    | ⟨b, rest, hnone, -, hl, hst⟩ <;> rw [hst]
  · exact h
  · have h' := h.send .targetToPeer e fun he => by
      rcases e with _ | e
      · show st.toClient = r
        simpa [(h.down_eof hend).1] using h.client_prefix
      · exact absurd he (h.errc_ne_of_returned (h.down_err e hend).2)
    exact ⟨h'.target_prefix, h'.client_prefix, h'.down_eof, h'.down_err, h'.first, h'.up_reported,
      h'.returned_first⟩
  · exact ⟨h.target_prefix, h.client_prefix, nofun,
      fun e he => ⟨(Option.some.inj (Option.some.inj he)).symm, hret⟩, h.first, h.up_reported,
      h.returned_first⟩
  · exact ⟨h.target_prefix, h.client_prefix, fun _ => ⟨hl, htc⟩, fun e he => absurd he (by simp),
      h.first, h.up_reported, h.returned_first⟩
  · have hc : st.toClient ++ [b] ++ rest = r := by simpa [hl] using h.client_prefix
    exact ⟨h.target_prefix, hc, fun he => absurd (hnone.symm.trans he) nofun,
      fun e he => absurd (hnone.symm.trans he) nofun,
      h.first_same ⟨List.prefix_refl _, List.prefix_append _ _, id, id, List.prefix_refl _⟩
        rfl ⟨_, h.target_prefix⟩ ⟨_, hc⟩, h.up_reported, h.returned_first⟩

theorem Relay.Inv.receive {c r : Bytes} {st : Relay} (h : st.Inv c r) : st.receive.Inv c r := by
  unfold Relay.receive
  split
  · rename_i first rest hret herrc
    exact ⟨h.target_prefix, h.client_prefix, h.down_eof,
      fun e he => ⟨(h.down_err e he).1, rfl⟩,
      h.first, h.up_reported, fun x hx => by simp_all⟩
  · exact h

theorem Relay.Inv.targetMove {c r : Bytes} {st : Relay} (h : st.Inv c r) : st.targetMove.Inv c r := by
  unfold Relay.targetMove
  split
  · exact ⟨h.target_prefix, h.client_prefix, h.down_eof, h.down_err,
      h.first_same ⟨List.prefix_refl _, List.prefix_refl _, id, fun _ => rfl, List.prefix_refl _⟩ rfl
        ⟨_, h.target_prefix⟩ ⟨_, h.client_prefix⟩, h.up_reported, h.returned_first⟩
  · exact ⟨h.target_prefix, h.client_prefix, fun he => ⟨(h.down_eof he).1, rfl⟩, h.down_err,
      h.first_same ⟨List.prefix_refl _, List.prefix_refl _, fun _ => rfl, id, List.prefix_refl _⟩ rfl
        ⟨_, h.target_prefix⟩ ⟨_, h.client_prefix⟩, h.up_reported, h.returned_first⟩

/-- Every move keeps the invariant. -/
theorem Relay.Inv.step {c r : Bytes} {st : Relay} (h : st.Inv c r) : ∀ p, (st.step p).Inv c r
  | .peerToTarget => h.pumpUp
  | .targetToPeer => h.pumpDown
  | .main => h.receive
  | .target => h.targetMove

theorem Relay.Inv.run {c r : Bytes} {st : Relay} (h : st.Inv c r) (schedule : List Party)
    : (st.run schedule).Inv c r := by
  induction schedule generalizing st with
  | nil => exact h
  | cons p ps ih => exact ih (h.step p)

-----------------------------------------------------------------------------------------
-- After the handler returns
-----------------------------------------------------------------------------------------

/-- A move that delivers nothing and leaves the handler as it was. -/
def Relay.Frozen (st st' : Relay) : Prop :=
  st'.toTarget = st.toTarget ∧ st'.toClient = st.toClient ∧ st'.returned = st.returned

/-- Once the handler has returned, the target is closed and nothing more is delivered. -/
theorem Relay.frozen_step {st : Relay} (h : st.returned.isSome) : ∀ p, Relay.Frozen st (st.step p)
  | .peerToTarget => by
      show Relay.Frozen st st.pumpUp
      rcases st.pumpUp_cases with ⟨-, hst⟩ | ⟨e, -, hst, -⟩ | ⟨b, rest, -, -, hret, -⟩
      case inr.inr => simp [hret] at h
      all_goals rw [hst]; exact ⟨rfl, rfl, rfl⟩
  | .targetToPeer => by
      show Relay.Frozen st st.pumpDown
      rcases st.pumpDown_cases with hst | ⟨e, -, hst⟩ | ⟨-, hst⟩ | ⟨-, -, hst⟩ | ⟨b, rest, -, hret, -, -⟩
      case inr.inr.inr.inr => simp [hret] at h
      all_goals rw [hst]; exact ⟨rfl, rfl, rfl⟩
  | .main => by
      obtain ⟨x, hx⟩ := Option.isSome_iff_exists.mp h
      simp only [Relay.step, Relay.receive, hx]
      exact ⟨rfl, rfl, rfl⟩
  | .target => by
      show Relay.Frozen st st.targetMove
      unfold Relay.targetMove
      split <;> exact ⟨rfl, rfl, rfl⟩

theorem Relay.frozen_run {st : Relay} (h : st.returned.isSome) (schedule : List Party)
    : Relay.Frozen st (st.run schedule) := by
  induction schedule generalizing st with
  | nil => exact ⟨rfl, rfl, rfl⟩
  | cons p ps ih =>
      obtain ⟨h1, h2, h3⟩ := Relay.frozen_step h p
      obtain ⟨h1', h2', h3'⟩ := ih (h3 ▸ h)
      exact ⟨h1'.trans h1, h2'.trans h2, h3'.trans h3⟩

-----------------------------------------------------------------------------------------
-- The handler returns once the first pump has copied the client's stream
-----------------------------------------------------------------------------------------

/-- The moves the first pump still needs: one per pending byte and one for EOF. -/
def Relay.upLeft (st : Relay) : Nat := if st.upDone then 0 else st.clientLeft.length + 1

/-- A move of the first pump brings it one move closer to its report. -/
theorem Relay.upLeft_pumpUp (st : Relay) : st.pumpUp.upLeft + 1 ≤ max st.upLeft 1 := by
  rcases st.pumpUp_cases with ⟨hd, hst⟩ | ⟨e, -, hst, -⟩ | ⟨b, rest, hd, hl, -, hst⟩ <;> rw [hst]
  · simp [Relay.upLeft, hd]
  · simp [Relay.upLeft, Relay.reportUp]
  · simp [Relay.upLeft, hd, hl]

/-- The other parties' moves leave the first pump where it was. -/
theorem Relay.upLeft_step {p : Party} (hp : p ≠ .peerToTarget) (st : Relay)
    : (st.step p).upLeft = st.upLeft := by
  cases p with
  | peerToTarget => exact absurd rfl hp
  | targetToPeer =>
      show st.pumpDown.upLeft = st.upLeft
      rcases st.pumpDown_cases with hst | ⟨e, -, hst⟩ | ⟨-, hst⟩ | ⟨-, -, hst⟩ | ⟨b, rest, -, -, -, hst⟩ <;>
        rw [hst] <;> rfl
  | main =>
      show st.receive.upLeft = st.upLeft
      unfold Relay.receive
      split <;> rfl
  | target =>
      show st.targetMove.upLeft = st.upLeft
      unfold Relay.targetMove
      split <;> rfl

/-- Over a run, each move of the first pump brings it one move closer to its report, by
induction on the schedule. -/
theorem Relay.upLeft_run (st : Relay) (schedule : List Party)
    : (st.run schedule).upLeft ≤ st.upLeft - schedule.count .peerToTarget := by
  induction schedule generalizing st with
  | nil => simp
  | cons p ps ih =>
      rw [Relay.run_cons]
      have := ih (st.step p)
      by_cases hp : p = .peerToTarget
      · subst hp
        have h1 := Relay.upLeft_pumpUp st
        rw [List.count_cons_self]
        simp only [Relay.step] at this ⊢
        omega
      · rw [List.count_cons_of_ne (Ne.symm hp)]
        rwa [Relay.upLeft_step hp] at this

/-- The first pump has reported once it has moved as often as it needs. -/
theorem Relay.upDone_of_count {st : Relay} {schedule : List Party}
    (h : st.upLeft ≤ schedule.count .peerToTarget) : (st.run schedule).upDone = true := by
  have hrun := Relay.upLeft_run st schedule
  by_contra hnd
  have : 1 ≤ (st.run schedule).upLeft := by simp [Relay.upLeft, hnd]
  omega

/-- The handler returns at its first move once a report is waiting. -/
theorem Relay.receive_returned {st : Relay} (h : st.errc ≠ []) : st.receive.returned.isSome := by
  unfold Relay.receive
  split
  · rfl
  · rename_i hne
    cases hret : st.returned with
    | some x => rfl
    | none =>
        obtain ⟨first, rest, he⟩ := List.exists_cons_of_ne_nil h
        exact (hne first rest hret he).elim

/-- Moves other than the target's leave its close and its reset as they were. -/
theorem Relay.step_target {p : Party} (hp : p ≠ .target) (st : Relay)
    : (st.step p).targetClosed = st.targetClosed ∧ (st.step p).targetReset = st.targetReset := by
  cases p with
  | peerToTarget =>
      show st.pumpUp.targetClosed = _ ∧ st.pumpUp.targetReset = _
      rcases st.pumpUp_cases with ⟨-, hst⟩ | ⟨e, -, hst, -⟩ | ⟨b, rest, -, -, -, hst⟩ <;> rw [hst] <;>
        exact ⟨rfl, rfl⟩
  | targetToPeer =>
      show st.pumpDown.targetClosed = _ ∧ st.pumpDown.targetReset = _
      rcases st.pumpDown_cases with hst | ⟨e, -, hst⟩ | ⟨-, hst⟩ | ⟨-, -, hst⟩ | ⟨b, rest, -, -, -, hst⟩ <;>
        rw [hst] <;> exact ⟨rfl, rfl⟩
  | main =>
      show st.receive.targetClosed = _ ∧ st.receive.targetReset = _
      unfold Relay.receive
      split <;> exact ⟨rfl, rfl⟩
  | target => exact absurd rfl hp

/-- A run in which the target never moves leaves it open. -/
theorem Relay.run_target {schedule : List Party} (h : .target ∉ schedule) (st : Relay)
    : (st.run schedule).targetClosed = st.targetClosed
      ∧ (st.run schedule).targetReset = st.targetReset := by
  induction schedule generalizing st with
  | nil => exact ⟨rfl, rfl⟩
  | cons p ps ih =>
      have hp : p ≠ .target := fun he => h (he ▸ List.mem_cons_self _ _)
      obtain ⟨h1, h2⟩ := ih (fun hm => h (List.mem_cons_of_mem _ hm)) (st.step p)
      rw [Relay.run_cons, h1, h2]
      exact Relay.step_target hp st

/-- While the target stays open, a first report is nil. -/
theorem Relay.FirstReport.nil_of_open {c r : Bytes} {st : Relay} {x : Party × Option GoError}
    (h : Relay.FirstReport c r st x) (hc : st.targetClosed = false) (hr : st.targetReset = false)
    : x.2 = none := by
  obtain ⟨party, _ | e⟩ := x
  · rfl
  · cases party <;> simp_all [Relay.FirstReport]

/-- The handler returns at its first move after the first pump has moved once per pending
byte and once more for EOF, whatever the other pump and the target do; it returns nil when the
target has not closed its connection. -/
theorem Relay.returns (c r : Bytes) (buffered : Nat) {schedule : List Party}
    (h : c.length + 1 ≤ schedule.count .peerToTarget) (more : List Party)
    : ∃ report, ((Relay.start c r buffered).run (schedule ++ .main :: more)).returned = some report
        ∧ (.target ∉ schedule → fallbackResult report = none) := by
  have hinv := (Relay.inv_start c r buffered).run (schedule ++ [.main])
  have hdone := Relay.upDone_of_count
    (show (Relay.start c r buffered).upLeft ≤ schedule.count .peerToTarget by
      simpa [Relay.upLeft, Relay.start] using h)
  have hinv0 := (Relay.inv_start c r buffered).run schedule
  have hret : ((Relay.start c r buffered).run (schedule ++ [.main])).returned.isSome := by
    rw [Relay.run_append]
    exact Relay.receive_returned (hinv0.up_reported hdone)
  obtain ⟨report, hrep⟩ := Option.isSome_iff_exists.mp hret
  refine ⟨report, ?_, fun hsink => ?_⟩
  · rw [show schedule ++ .main :: more = (schedule ++ [.main]) ++ more by simp, Relay.run_append,
      (Relay.frozen_run hret more).2.2, hrep]
  · have hopen := Relay.run_target (show .target ∉ schedule ++ [.main] by simpa using hsink)
      (Relay.start c r buffered)
    have hnil := (hinv.first report (by simp [hinv.returned_first report hrep])).nil_of_open
      hopen.1 hopen.2
    simp [fallbackResult, hnil]

-----------------------------------------------------------------------------------------
-- What reaches each side
-----------------------------------------------------------------------------------------

end Reflex
