import Reflex.Inbound.Handshake
import Reflex.Morph.Morphing
import Reflex.Morph.Overrides

/-! `Handler.Process` and what it calls: the two handshakes, the answer to a rejected client,
the session loop, and the hand-over to the fallback relay. The client's stream is finite and
ends in EOF, and writes to the client succeed. What library code computes (curve25519, HKDF,
JSON, base64, the dispatcher, the fallback dial) is an input, as the AEAD is for the session.
-/

namespace Reflex

open Go

/-- `Handler`: the ids of the configured clients, the fallback port, the default profile. The
profile is a pointer into the global `Profiles` table, one mutable object that every handler
and every connection shares: `defaultProfile` is its value when the table is built, and what
other connections do to it later reaches a connection through `Env.others`. -/
structure Handler where
  clients : List String
  fallback : Option Nat
  defaultProfile : Option TrafficProfile

/-- `New(ctx, config)`: the clients in order, the fallback if configured, and as the default
the pointer `Profiles["http2-api"]`, shared with every other handler `New` builds. -/
def newHandler (clientIds : List String) (fallback : Option Nat) : Handler :=
  { clients := clientIds, fallback := fallback, defaultProfile := profile "http2-api" }

/-- What the handling of one connection reads besides the client's bytes. -/
structure Env where
  /-- `time.Now().Unix()`. -/
  now : Int
  /-- The 32 bytes `generateKeyPair` reads from `crypto/rand`, or the error of the read. -/
  serverPriv : Except GoError Bytes
  scalarBaseMult : Bytes → Bytes
  scalarMult : Bytes → Bytes → Bytes
  /-- The HKDF-SHA256 output stream for a secret and a salt, with info `reflex-session`. -/
  hkdf : Bytes → Bytes → Bytes
  /-- `chacha20poly1305.New` on a key. -/
  aead : Bytes → Aead
  /-- `json.Unmarshal` of a body into `struct { Data string }`. -/
  jsonData : Bytes → Except GoError String
  /-- `base64.StdEncoding.DecodeString`. -/
  base64Decode : String → Except GoError Bytes
  /-- The dispatcher, if any: the upstream's answer to the `n`-th DATA payload, `none` when
  the dispatch fails or the answer is an error or empty. -/
  dispatcher : Option (Nat → Bytes → Option Bytes)
  /-- The random bytes of the padding of the `n`-th answer. -/
  padding : Nat → Nat → UInt8
  /-- The size and delay draws of the `n`-th answer. -/
  draws : Nat → Float × Float
  /-- The error of `net.Dial` to the fallback target, if it fails. -/
  dialErr : Option GoError
  /-- The calls other connections make on the shared default profile while this one waits
  for the frame at the head of the stream `r` left to read; the stream is shorter at each
  frame, so each frame has its own batch. Every call holds the profile's mutex, and a call of
  the size side commutes with one of the delay side (`TrafficProfile.call_comm`), so calls
  that fall between this connection's `GetPacketSize` and `GetDelay` act as they would before
  or after the pair: the batches cover every interleaving. -/
  others : Bytes → List ProfileCall

/-- The shared profile as a connection finds it at the frame at the head of the stream `r`:
after the calls the other connections made on it in the meantime. -/
def Env.profileAt (env : Env) (r : Bytes) (profile : Option TrafficProfile) : Option TrafficProfile :=
  profile.map (·.calls (env.others r))

/-- How the handling of a connection ends: `Process` returns nil or an error, the fallback
relay starts with the client's stream still to read, or the runtime panics. -/
inductive Exit where
  | returned (err : Option GoError)
  | relay (pending : Bytes)
  | panicked (what : String)
  deriving DecidableEq, Repr

/-- The end of the handling, with what was written to the client before it and whether the
handler closed the client's connection. -/
structure Outcome where
  exit : Exit
  written : Bytes
  closed : Bool
  deriving DecidableEq, Repr

/-- An outcome after earlier writes to the client. -/
def Outcome.after (w : Bytes) (o : Outcome) : Outcome := { o with written := w ++ o.written }

/-- Returning an error (or nil), with nothing written. -/
def Outcome.error (e : Option GoError) : Outcome := ⟨.returned e, [], false⟩

-----------------------------------------------------------------------------------------
-- Keys, users and answers
-----------------------------------------------------------------------------------------

/-- `deriveSessionKey(shared, salt)`: the first 32 bytes of the HKDF stream, read into a
zeroed buffer. -/
def deriveSessionKey (env : Env) (sharedKey salt : Bytes) : Bytes := copyArray 32 (env.hkdf sharedKey salt)

def hexByte (b : UInt8) : List Char := [Nat.digitChar (b.toNat / 16), Nat.digitChar (b.toNat % 16)]

/-- `uuid.UUID(u).String()`: lowercase hex digits in groups of 8, 4, 4, 4 and 12. -/
def uuidString (u : Bytes) : String :=
  "-".intercalate ([u.take 4, (u.drop 4).take 2, (u.drop 6).take 2, (u.drop 8).take 2, u.drop 10].map
    fun g => String.mk (g.map hexByte).flatten)

/-- `authenticateUser(userID)`: the first client whose id is the UUID's string. -/
def authenticateUser (clients : List String) (userID : Bytes) : Except GoError String :=
  match clients.find? (fun id => id = uuidString userID) with
  | some id => .ok id
  | none => .error (.new "user not found")

/-- `json.Marshal(ServerHandshake{PublicKey: pub, PolicyGrant: nil})`: the key array as JSON
numbers, the nil grant as null. -/
def marshalServerHandshake (pub : Bytes) : Bytes :=
  ascii "\x7b\"public_key\":[" ++ ascii (",".intercalate (pub.map fun b => toString b.toNat))
    ++ ascii "],\"policy_grant\":null\x7d"

/-- `writeHTTPErrorAndClose(conn, reason)`: a 403 with a JSON body naming the reason, then
the connection closed. -/
def writeHTTPErrorAndClose (reason : String) : Outcome :=
  let body := ascii "\x7b\"error\":\"" ++ ascii reason ++ ascii "\"\x7d"
  let resp := ascii "HTTP/1.1 403 Forbidden\r\nContent-Type: application/json\r\nContent-Length: "
    ++ ascii (toString body.length) ++ ascii "\r\n\r\n"
  ⟨.returned none, resp ++ body, true⟩

/-- The 200 answer of `processHandshake`: its header, then the JSON body. -/
def okResponse (respBody : Bytes) : Bytes :=
  ascii "HTTP/1.1 200 OK\r\nContent-Type: application/json\r\nContent-Length: "
    ++ ascii (toString respBody.length) ++ ascii "\r\n\r\n" ++ respBody

-----------------------------------------------------------------------------------------
-- The session loop
-----------------------------------------------------------------------------------------

/-- `handleSession`: read frames until one fails, EOF ending it without error. A DATA frame
goes to the dispatcher, whose answer is written back as a morphed frame; control frames
update the profile; other types are ignored. `n` counts the DATA frames dispatched. The
profile is shared: before each frame it takes the calls of the other connections. -/
def handleSession (env : Env) (s : Session) (profile : Option TrafficProfile) (n : Nat)
    (r : Bytes) : Outcome :=
  let profile := env.profileAt r profile
  match h : s.readFrame r with
  | (.ok frame, s', rest) =>
      have : rest.length < r.length := by
        have := (readFrame_ok_session h).2.2
        simp only [nonceSize, overhead] at this
        omega
      if frame.type = frameTypeData then
        match env.dispatcher with
        | none => handleSession env s' profile n rest
        | some dispatch =>
            match dispatch n frame.payload with
            | none => handleSession env s' profile (n + 1) rest
            | some data =>
                let m := writeFrameWithMorphing s' frameTypeData data profile (env.padding n)
                  (env.draws n).1 (env.draws n).2
                (handleSession env m.session m.profile (n + 1) rest).after m.written
      else if frame.type = frameTypePaddingCtrl ∨ frame.type = frameTypeTimingCtrl then
        match applyControlFrame profile frame.type frame.payload with
        | .ok q => handleSession env s' q n rest
        | .error what => ⟨.panicked what, [], false⟩
      else handleSession env s' profile n rest
  | (.err e, _, _) => .error (if e = .eof then none else some e)
  | (.panic what, _, _) => ⟨.panicked what, [], false⟩
termination_by r.length

-----------------------------------------------------------------------------------------
-- The handshakes and Process
-----------------------------------------------------------------------------------------

/-- `processHandshake`: the timestamp window, the server key pair, the session key, the user,
then the 200 answer and the session loop on the rest of the stream. -/
def Handler.processHandshake (h : Handler) (env : Env) (clientHS : ClientHandshake)
    (reader : Bytes) : Outcome :=
  if clientHS.timestamp < toInt64 (env.now - 300) ∨ clientHS.timestamp > toInt64 (env.now + 300) then
    writeHTTPErrorAndClose "invalid timestamp"
  else
    match env.serverPriv with
    | .error e => .error (some e)
    | .ok serverPriv =>
        let serverPub := env.scalarBaseMult serverPriv
        let sessionKey :=
          deriveSessionKey env (env.scalarMult serverPriv clientHS.publicKey) clientHS.nonce
        match authenticateUser h.clients clientHS.userID with
        | .error _ => writeHTTPErrorAndClose "forbidden"
        | .ok _ =>
            let resp := okResponse (marshalServerHandshake serverPub)
            match newSession env.aead sessionKey with
            | .error e => (Outcome.error (some e)).after resp
            | .ok session => (handleSession env session h.defaultProfile 0 reader).after resp

/-- `handleReflexMagic`. -/
def Handler.handleReflexMagic (h : Handler) (env : Env) (r : Bytes) : Outcome :=
  match readMagicHandshake r with
  | .ok (hs, rest) => h.processHandshake env hs rest
  | .err e => .error (some e)
  | .panic what => ⟨.panicked what, [], false⟩

/-- The largest length `make` accepts for a byte slice on a 64-bit platform. -/
def maxAlloc : Int := 2 ^ 48

/-- `handleReflexHTTP`: the header loop, then a body of the content length, its JSON `data`
field decoded from base64, and the record parsed from it. -/
def Handler.handleReflexHTTP (h : Handler) (env : Env) (r : Bytes) : Outcome :=
  match readHeaders 0 r with
  | .err e => .error (some e)
  | .panic what => ⟨.panicked what, [], false⟩
  | .ok (contentLength, rest) =>
      if contentLength ≤ 0 then .error (some (.new "invalid content length"))
      else if contentLength > maxAlloc then ⟨.panicked "makeslice: len out of range", [], false⟩
      else
        match readFull rest contentLength.toNat with
        | .error e => .error (some e)
        | .ok (body, rest') =>
            match env.jsonData body >>= env.base64Decode with
            | .error e => .error (some e)
            | .ok raw =>
                match parseClientHandshakeFromBytes raw with
                | .ok hs => h.processHandshake env hs rest'
                | .err e => .error (some e)
                | .panic what => ⟨.panicked what, [], false⟩

/-- `handleFallback` up to the relay: without a fallback, or when the dial fails, the client's
connection is closed and the error returned; otherwise the relay starts on the reader. -/
def Handler.handleFallback (h : Handler) (env : Env) (reader : Bytes) : Outcome :=
  match h.fallback with
  | none => ⟨.returned (some (.new "no fallback configured")), [], true⟩
  | some _ =>
      match env.dialErr with
      | some e => ⟨.returned (some e), [], true⟩
      | none => ⟨.relay reader, [], false⟩

/-- `Process(ctx, network, conn, dispatcher)` on the client's whole stream: peek 64 bytes, EOF
there ending the connection silently, then dispatch on them. -/
def Handler.process (h : Handler) (env : Env) (input : Bytes) : Outcome :=
  match peek input reflexMinHandshakeSize with
  | (_, some e) => .error (if e = .eof then none else some e)
  | (peeked, none) =>
      match route peeked with
      | none => ⟨.panicked "slice bounds out of range", [], false⟩
      | some .magic => h.handleReflexMagic env input
      | some .http => h.handleReflexHTTP env input
      | some .fallback => h.handleFallback env input

-----------------------------------------------------------------------------------------
-- What Process does with each kind of stream
-----------------------------------------------------------------------------------------

/-- A stream shorter than the peek ends at EOF: `Process` returns nil, writing nothing. -/
theorem process_short (h : Handler) (env : Env) {input : Bytes}
    (hl : input.length < reflexMinHandshakeSize) : h.process env input = .error none := by
  simp [Handler.process, peek, Nat.not_le.mpr hl]

/-- Past the peek, `Process` goes where the classification of the first 64 bytes says. -/
theorem process_route (h : Handler) (env : Env) {input : Bytes}
    (hl : reflexMinHandshakeSize ≤ input.length) {rt : Route}
    (hr : route (input.take reflexMinHandshakeSize) = some rt)
    : h.process env input = match rt with
        | .magic => h.handleReflexMagic env input
        | .http => h.handleReflexHTTP env input
        | .fallback => h.handleFallback env input := by
  cases rt <;> simp only [Handler.process, peek, if_pos hl, hr]

theorem magicPacket_length (hs : ClientHandshake)
    : hs.magicPacket.length = 78 + hs.policyReq.length := by
  simp [ClientHandshake.magicPacket, BigEndian.putUint16, magicBytes, BigEndian.putUint32]
  omega

/-- A record after the magic is routed to the magic handshake and decoded to itself, the
bytes after it left to the session. -/
theorem process_magicPacket (h : Handler) (env : Env) (hs : ClientHandshake)
    (hp : hs.policyReq.length < 65536) (t : Bytes)
    : route ((hs.magicPacket ++ t).take reflexMinHandshakeSize) = some .magic
      ∧ h.process env (hs.magicPacket ++ t) = h.processHandshake env hs t := by
  have hl : reflexMinHandshakeSize ≤ (hs.magicPacket ++ t).length := by
    simp only [List.length_append, magicPacket_length, reflexMinHandshakeSize]
    omega
  have hr : route ((hs.magicPacket ++ t).take reflexMinHandshakeSize) = some .magic := by
    apply route_magic
    rw [List.prefix_take_iff]
    exact ⟨⟨hs.fields ++ BigEndian.putUint16 hs.policyReq.length ++ hs.policyReq ++ t,
      by simp [ClientHandshake.magicPacket]⟩, by decide⟩
  refine ⟨hr, ?_⟩
  rw [process_route h env hl hr]
  simp [Handler.handleReflexMagic, readMagicHandshake_magicPacket hs hp t]

/-- The HTTP path returns an error and writes nothing: a read error of the header loop, or,
the loop never taking a length, `invalid content length`. -/
theorem handleReflexHTTP_error (h : Handler) (env : Env) (r : Bytes)
    : (∃ e, readHeaders 0 r = .err e ∧ h.handleReflexHTTP env r = .error (some e))
      ∨ ∃ rest, readHeaders 0 r = .ok (0, rest)
        ∧ h.handleReflexHTTP env r = .error (some (.new "invalid content length")) := by
  rcases readHeaders_eq 0 r with ⟨e, he⟩ | ⟨rest, he⟩
  · exact .inl ⟨e, he, by simp [Handler.handleReflexHTTP, he]⟩
  · exact .inr ⟨rest, he, by simp [Handler.handleReflexHTTP, he]⟩

-----------------------------------------------------------------------------------------
-- No panic
-----------------------------------------------------------------------------------------

/-- The session loop always returns, nil or an error, by induction on the length of the
stream: every frame it accepts consumes input, and `ReadFrame` and `ApplyControlFrame` never
panic. -/
theorem handleSession_returned (env : Env) (s : Session) (profile : Option TrafficProfile)
    (n : Nat) (r : Bytes) : ∃ e, (handleSession env s profile n r).exit = .returned e := by
  obtain ⟨len, hlen⟩ : ∃ len, r.length = len := ⟨_, rfl⟩
  induction len using Nat.strong_induction_on generalizing s profile n r with
  | _ len ih =>
      rw [handleSession]
      split
      · rename_i frame s' rest hr
        have hlt : rest.length < len := hlen ▸ readFrame_ok_shorter hr
        split
        · split
          · exact ih _ hlt _ _ _ _ rfl
          · split
            · exact ih _ hlt _ _ _ _ rfl
            · exact ih _ hlt _ _ _ _ rfl
        · split
          · split
            · exact ih _ hlt _ _ _ _ rfl
            · rename_i hc
              obtain ⟨q, hq⟩ := applyControlFrame_ok _ frame.type frame.payload
              rw [hq] at hc
              cases hc
          · exact ih _ hlt _ _ _ _ rfl
      · exact ⟨_, rfl⟩
      · rename_i what' s' rest hr
        exact absurd (congrArg Prod.fst hr) (readFrame_not_panic s r what')

/-- The handshake's answer, then the session loop: it always returns. -/
theorem processHandshake_returned (h : Handler) (env : Env) (hs : ClientHandshake) (r : Bytes)
    : ∃ e, (h.processHandshake env hs r).exit = .returned e := by
  unfold Handler.processHandshake
  split
  · exact ⟨_, rfl⟩
  · split
    · exact ⟨_, rfl⟩
    · dsimp only
      split
      · exact ⟨_, rfl⟩
      · split
        · exact ⟨_, rfl⟩
        · exact handleSession_returned env _ _ 0 r

/-- The magic path reads a fixed block of 74 bytes, so its slices lie in range. -/
theorem readMagicHandshake_not_panic (r : Bytes) (what : String)
    : readMagicHandshake r ≠ .panic what := by
  unfold readMagicHandshake
  split
  · simp
  · split
    · simp
    · rename_i fixed r2 hf
      have hl := (readFull_ok hf).1
      simp only [fixedSize] at hl
      rw [slice_of_le (by omega) (by omega), slice_of_le (by omega) (by omega),
        slice_of_le (by omega) (by omega), slice_of_le (by omega) (by omega),
        slice_of_le (by omega) (by omega)]
      obtain ⟨ts, hts, -⟩ := beUint_of_length (show 8 ≤ ((fixed.drop 48).take (56 - 48)).length by simp; omega)
      obtain ⟨len, hlen, -⟩ := beUint_of_length (show 2 ≤ ((fixed.drop 72).take (74 - 72)).length by simp; omega)
      simp only [Option.some_bind, BigEndian.uint64, BigEndian.uint16, hts, hlen]
      split
      · split <;> simp
      · simp

theorem parseClientHandshakeFromBytes_not_panic (b : Bytes) (what : String)
    : parseClientHandshakeFromBytes b ≠ .panic what := by
  unfold parseClientHandshakeFromBytes
  split
  · simp
  · rw [slice_of_le (by omega) (by omega), slice_of_le (by omega) (by omega),
      slice_of_le (by omega) (by omega), slice_of_le (by omega) (by omega)]
    obtain ⟨ts, hts, -⟩ := beUint_of_length (show 8 ≤ ((b.drop 48).take (56 - 48)).length by simp; omega)
    simp [BigEndian.uint64, hts]

end Reflex
