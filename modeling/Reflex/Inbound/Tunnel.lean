import Reflex.Inbound.Handler
import Reflex.Inbound.Fallback

/-! What a client gets back. Without a dispatcher the session loop reads exactly as `readAll`
does. The handshake has three answers: 403 for a stale record or an unknown user, 200 and the
session otherwise. A client receives the 200 status line only for the magic handshake of a
fresh record of a configured user, or from the fallback target through the relay.
-/

namespace Reflex

open Go

-----------------------------------------------------------------------------------------
-- The session loop without a dispatcher
-----------------------------------------------------------------------------------------

/-- An accepted frame, with no dispatcher: the loop goes on with the rest of the stream and a
profile that a control frame may have changed. -/
theorem handleSession_of_ok {env : Env} (hd : env.dispatcher = none) {s s' : Session}
    {r rest : Bytes} {frame : Frame} (h : s.readFrame r = (.ok frame, s', rest))
    (profile : Option TrafficProfile) (n : Nat)
    : ∃ q, handleSession env s profile n r = handleSession env s' q n rest := by
  rw [handleSession]
  split
  · rename_i frame' s'' rest' h'
    rw [h] at h'
    obtain ⟨⟨⟩, ⟨⟩, ⟨⟩⟩ := h'
    split
    · rw [hd]
      exact ⟨_, rfl⟩
    · split
      · obtain ⟨q, hq⟩ := applyControlFrame_ok _ frame.type frame.payload
        rw [hq]
        exact ⟨q, rfl⟩
      · exact ⟨_, rfl⟩
  · rename_i e s'' rest' h'
    rw [h] at h'
    cases h'
  · rename_i what s'' rest' h'
    rw [h] at h'
    cases h'

/-- A failing read ends the loop: nil at EOF, the error otherwise. -/
theorem handleSession_of_err (env : Env) {s s' : Session} {r rest : Bytes} {e : GoError}
    (h : s.readFrame r = (.err e, s', rest)) (profile : Option TrafficProfile) (n : Nat)
    : handleSession env s profile n r = .error (if e = .eof then none else some e) := by
  rw [handleSession]
  split
  · rename_i frame' s'' rest' h'
    rw [h] at h'
    cases h'
  · rename_i e' s'' rest' h'
    rw [h] at h'
    obtain ⟨⟨⟩, ⟨⟩, ⟨⟩⟩ := h'
    rfl
  · rename_i what s'' rest' h'
    rw [h] at h'
    cases h'

/-- Without a dispatcher the session loop ends as `readAll` does on the same stream, by
induction on its length. -/
theorem handleSession_readAll {env : Env} (hd : env.dispatcher = none) (s : Session)
    (profile : Option TrafficProfile) (n : Nat) (r : Bytes) {e : GoError}
    (h : (s.readAll r).2 = .err e)
    : handleSession env s profile n r = .error (if e = .eof then none else some e) := by
  obtain ⟨len, hlen⟩ : ∃ len, r.length = len := ⟨_, rfl⟩
  induction len using Nat.strong_induction_on generalizing s profile r with
  | _ len ih =>
      rcases hr : s.readFrame r with ⟨_ | e' | what, s', rest⟩
      · rw [readAll_of_ok hr] at h
        have hlt : rest.length < len := hlen ▸ readFrame_ok_shorter hr
        obtain ⟨q, hq⟩ := handleSession_of_ok hd hr profile n
        rw [hq]
        exact ih rest.length hlt s' q rest h rfl
      · rw [readAll_of_err hr] at h
        cases h
        exact handleSession_of_err env hr profile n
      · exact absurd (congrArg Prod.fst hr) (readFrame_not_panic s r what)

-----------------------------------------------------------------------------------------
-- The handshake's three answers
-----------------------------------------------------------------------------------------

/-- A timestamp more than 300 seconds away from the clock is answered with a 403. -/
theorem processHandshake_stale (h : Handler) (env : Env) (hs : ClientHandshake) (r : Bytes)
    (hstale : hs.timestamp < toInt64 (env.now - 300) ∨ hs.timestamp > toInt64 (env.now + 300))
    : h.processHandshake env hs r = writeHTTPErrorAndClose "invalid timestamp" := by
  simp [Handler.processHandshake, hstale]

/-- A fresh handshake whose user is not configured is answered with a 403. -/
theorem processHandshake_forbidden (h : Handler) (env : Env) (hs : ClientHandshake) (r : Bytes)
    (hfresh : toInt64 (env.now - 300) ≤ hs.timestamp ∧ hs.timestamp ≤ toInt64 (env.now + 300))
    {priv : Bytes} (hpriv : env.serverPriv = .ok priv) {e : GoError}
    (hauth : authenticateUser h.clients hs.userID = .error e)
    : h.processHandshake env hs r = writeHTTPErrorAndClose "forbidden" := by
  unfold Handler.processHandshake
  rw [if_neg (by omega), hpriv]
  simp only [hauth]

/-- A fresh handshake of a configured user is answered with 200 and a session under the key
derived from the server's key pair and the client's key and nonce. -/
theorem processHandshake_accept (h : Handler) (env : Env) (hs : ClientHandshake) (r : Bytes)
    (hfresh : toInt64 (env.now - 300) ≤ hs.timestamp ∧ hs.timestamp ≤ toInt64 (env.now + 300))
    {priv : Bytes} (hpriv : env.serverPriv = .ok priv) {id : String}
    (hauth : authenticateUser h.clients hs.userID = .ok id)
    : h.processHandshake env hs r
      = (handleSession env
          (.fresh (env.aead (deriveSessionKey env (env.scalarMult priv hs.publicKey) hs.nonce)))
          h.defaultProfile 0 r).after (okResponse (marshalServerHandshake (env.scalarBaseMult priv))) := by
  unfold Handler.processHandshake
  rw [if_neg (by omega), hpriv]
  simp only [hauth, newSession_ok env.aead (copyArray_length 32 _), deriveSessionKey]

-----------------------------------------------------------------------------------------
-- Only an authenticated handshake is answered with 200
-----------------------------------------------------------------------------------------

/-- Bytes that differ from `a` in their first `a.length` do not start with `a`. -/
theorem not_prefix_of_take_ne {a b : Bytes} (h : b.take a.length ≠ a) : ¬ a <+: b :=
  fun hp => h (List.prefix_iff_eq_take.mp hp).symm

/-- The status line of the 200 answer, up to its code. -/
def okStatus : Bytes := ascii "HTTP/1.1 200"

/-- The 200 answer starts with its status line. -/
theorem okStatus_prefix_okResponse (body : Bytes) : okStatus <+: okResponse body := by
  refine List.prefix_iff_eq_take.mpr ?_
  simp only [okResponse, List.append_assoc]
  rw [List.take_append_of_le_length (by decide)]
  decide

/-- A 403 answer does not. -/
theorem okStatus_not_prefix_error (reason : String)
    : ¬ okStatus <+: (writeHTTPErrorAndClose reason).written := by
  refine not_prefix_of_take_ne ?_
  simp only [writeHTTPErrorAndClose, List.append_assoc]
  rw [List.take_append_of_le_length (by decide)]
  decide

/-- Nor does an outcome that writes nothing. -/
theorem okStatus_not_prefix_nil : ¬ okStatus <+: [] := fun h => nomatch List.prefix_nil.mp h

/-- A buffer the classifier sends to the magic handshake starts with the magic. -/
theorem route_magic_take {b : Bytes} (hb : 14 ≤ b.length) (h : route b = some .magic)
    : b.take 4 = magicBytes := by
  rw [route_eq_routeSpec hb, Option.some_inj, routeSpec] at h
  split_ifs at h with h4
  exact h4

/-- The HTTP handshake writes nothing: it is refused before its record is read. -/
theorem handleReflexHTTP_written (h : Handler) (env : Env) (r : Bytes)
    : (h.handleReflexHTTP env r).written = [] := by
  rcases handleReflexHTTP_error h env r with ⟨e, -, he⟩ | ⟨-, -, he⟩ <;> rw [he] <;> rfl

/-- The hand-over to the fallback writes nothing to the client itself. -/
theorem handleFallback_written (h : Handler) (env : Env) (r : Bytes)
    : (h.handleFallback env r).written = [] := by
  unfold Handler.handleFallback
  split
  · rfl
  · split <;> rfl

/-- The magic path writes the 200 answer only for the encoding of a fresh record of a
configured user, behind any four bytes, with the server's key pair made. -/
theorem handleReflexMagic_ok_written (h : Handler) (env : Env) {r : Bytes}
    (h200 : okStatus <+: (h.handleReflexMagic env r).written)
    : ∃ (hs : ClientHandshake) (t priv : Bytes) (id : String),
        (hs.policyReq.length < 65536 ∧ ∃ m : Bytes, m.length = 4
          ∧ r = m ++ hs.fields ++ BigEndian.putUint16 hs.policyReq.length ++ hs.policyReq ++ t)
        ∧ (toInt64 (env.now - 300) ≤ hs.timestamp ∧ hs.timestamp ≤ toInt64 (env.now + 300))
        ∧ env.serverPriv = .ok priv ∧ authenticateUser h.clients hs.userID = .ok id := by
  unfold Handler.handleReflexMagic at h200
  rcases hr : readMagicHandshake r with ⟨hs, t⟩ | e | what <;> rw [hr] at h200 <;> dsimp only at h200
  · by_cases hstale : hs.timestamp < toInt64 (env.now - 300) ∨ hs.timestamp > toInt64 (env.now + 300)
    · rw [processHandshake_stale h env hs t hstale] at h200
      exact absurd h200 (okStatus_not_prefix_error _)
    have hfresh : toInt64 (env.now - 300) ≤ hs.timestamp ∧ hs.timestamp ≤ toInt64 (env.now + 300) := by
      omega
    rcases hpriv : env.serverPriv with e | priv
    · simp only [Handler.processHandshake, if_neg hstale, hpriv] at h200
      exact absurd h200 okStatus_not_prefix_nil
    rcases hauth : authenticateUser h.clients hs.userID with e | id
    · rw [processHandshake_forbidden h env hs t hfresh hpriv hauth] at h200
      exact absurd h200 (okStatus_not_prefix_error _)
    exact ⟨hs, t, priv, id, readMagicHandshake_ok hr, hfresh, rfl, hauth⟩
  · exact absurd h200 okStatus_not_prefix_nil
  · exact absurd h200 okStatus_not_prefix_nil

/-- What `Process` itself writes starts with the 200 status line exactly when the stream is
the magic handshake of a record whose policy length fits in two bytes, whose timestamp is
within five minutes of the clock and whose user is configured, and the server's key pair is
made; the HTTP handshake and the hand-over to the fallback write nothing. -/
theorem process_written_accepts_iff (h : Handler) (env : Env) (input : Bytes)
    : okStatus <+: (h.process env input).written
      ↔ ∃ (hs : ClientHandshake) (t priv : Bytes) (id : String), input = hs.magicPacket ++ t
          ∧ hs.policyReq.length < 65536
          ∧ (toInt64 (env.now - 300) ≤ hs.timestamp ∧ hs.timestamp ≤ toInt64 (env.now + 300))
          ∧ env.serverPriv = .ok priv ∧ authenticateUser h.clients hs.userID = .ok id := by
  constructor
  · intro h200
    by_cases hl : reflexMinHandshakeSize ≤ input.length
    · obtain ⟨rt, hrt⟩ := Option.isSome_iff_exists.mp (route_isSome (input.take reflexMinHandshakeSize))
      rw [process_route h env hl hrt] at h200
      cases rt with
      | magic =>
        dsimp only at h200
        obtain ⟨hs, t, priv, id, ⟨hp, m, hm, rfl⟩, hfresh, hpriv, hauth⟩ :=
          handleReflexMagic_ok_written h env h200
        have hmagic := route_magic_take (by simp [reflexMinHandshakeSize]; omega) hrt
        rw [List.take_take, show min 4 reflexMinHandshakeSize = 4 from rfl] at hmagic
        simp only [List.append_assoc, List.take_left' hm] at hmagic
        subst hmagic
        exact ⟨hs, t, priv, id, by simp [ClientHandshake.magicPacket], hp, hfresh, hpriv, hauth⟩
      | http =>
        dsimp only at h200
        exact absurd (handleReflexHTTP_written h env input ▸ h200) okStatus_not_prefix_nil
      | fallback =>
        dsimp only at h200
        exact absurd (handleFallback_written h env input ▸ h200) okStatus_not_prefix_nil
    · rw [process_short h env (Nat.lt_of_not_le hl)] at h200
      exact absurd h200 okStatus_not_prefix_nil
  · rintro ⟨hs, t, priv, id, rfl, hp, hfresh, hpriv, hauth⟩
    rw [(process_magicPacket h env hs hp t).2, processHandshake_accept h env hs t hfresh hpriv hauth]
    exact (okStatus_prefix_okResponse _).trans (List.prefix_append _ _)

/-- `Process` hands a stream to the relay only from `handleFallback`: the whole stream, with
nothing written. -/
theorem process_relay {h : Handler} {env : Env} {input pending : Bytes}
    (hx : (h.process env input).exit = .relay pending)
    : pending = input ∧ (h.process env input).written = [] := by
  by_cases hl : reflexMinHandshakeSize ≤ input.length
  · obtain ⟨rt, hrt⟩ := Option.isSome_iff_exists.mp (route_isSome (input.take reflexMinHandshakeSize))
    rw [process_route h env hl hrt] at hx ⊢
    cases rt with
    | magic =>
        unfold Handler.handleReflexMagic at hx
        rcases hr : readMagicHandshake input with ⟨hs, t⟩ | e | what <;> rw [hr] at hx
        · obtain ⟨e, he⟩ := processHandshake_returned h env hs t
          exact absurd (he.symm.trans hx) nofun
        all_goals cases hx
    | http =>
        rcases handleReflexHTTP_error h env input with ⟨e, -, he⟩ | ⟨-, -, he⟩ <;> rw [he] at hx <;>
          cases hx
    | fallback =>
        unfold Handler.handleFallback at hx ⊢
        rcases hf : h.fallback with _ | port <;> rcases hd : env.dialErr with _ | e <;>
          simp only [hf, hd] at hx ⊢ <;> cases hx
        exact ⟨rfl, trivial⟩
  · rw [process_short h env (Nat.lt_of_not_le hl)] at hx
    cases hx

/-- What the client receives on its connection: what `Process` writes, then, when it hands
the stream to the fallback relay, what the relay forwards of the target's answer `r` over a
schedule of the relay. -/
def Handler.received (h : Handler) (env : Env) (input r : Bytes) (buffered : Nat)
    (schedule : List Party) : Bytes :=
  match (h.process env input).exit with
  | .relay pending =>
      (h.process env input).written ++ ((Relay.start pending r buffered).run schedule).toClient
  | _ => (h.process env input).written

/-- Across every stream, clock, environment, answer of the fallback target and schedule of
the relay, the client receives the 200 status line exactly when its stream is the magic
handshake of a record whose policy length fits in two bytes, whose timestamp is within five
minutes of the clock and whose user is configured, and the server's key pair is made, or
when `Process` hands the stream to the relay and what the relay forwards starts with it;
what the relay forwards is always a prefix of the target's own answer. -/
theorem process_accepts_iff (h : Handler) (env : Env) (input r : Bytes) (buffered : Nat)
    (schedule : List Party)
    : (okStatus <+: h.received env input r buffered schedule
        ↔ (∃ (hs : ClientHandshake) (t priv : Bytes) (id : String), input = hs.magicPacket ++ t
              ∧ hs.policyReq.length < 65536
              ∧ (toInt64 (env.now - 300) ≤ hs.timestamp ∧ hs.timestamp ≤ toInt64 (env.now + 300))
              ∧ env.serverPriv = .ok priv ∧ authenticateUser h.clients hs.userID = .ok id)
          ∨ (h.process env input).exit = .relay input
            ∧ okStatus <+: ((Relay.start input r buffered).run schedule).toClient)
      ∧ ((Relay.start input r buffered).run schedule).toClient <+: r := by
  refine ⟨?_, ⟨_, Relay.Inv.client_prefix ((Relay.inv_start input r buffered).run schedule)⟩⟩
  unfold Handler.received
  split
  · rename_i pending hx
    obtain ⟨rfl, hw⟩ := process_relay hx
    rw [hw, List.nil_append]
    refine ⟨fun h200 => .inr ⟨hx, h200⟩, ?_⟩
    rintro (hacc | ⟨-, h200⟩)
    · exact absurd ((process_written_accepts_iff h env pending).mpr hacc) (hw ▸ okStatus_not_prefix_nil)
    · exact h200
  · rename_i hx
    rw [process_written_accepts_iff]
    exact ⟨.inl, fun hor => hor.elim id fun hr => absurd hr.1 (hx _)⟩

end Reflex
