import Reflex.Inbound.Handler
import Reflex.Inbound.Fallback

/-! What `Process` does with each kind of client stream: short streams end silently, other
traffic goes whole to the fallback relay, a magic handshake is decoded to the client's
record, and an HTTP handshake is always refused for want of a content length. Nothing a
client sends makes it panic, and each of its loops consumes input.
-/

namespace Reflex

open Go

/-- An environment in which the clock reads zero, the library functions return their input
or nothing, no dispatcher is set and the fallback dial succeeds. It instantiates the
statements below. -/
def Env.quiet : Env where
  now := 0
  serverPriv := .ok (List.replicate 32 0)
  scalarBaseMult := id
  scalarMult := fun priv _ => priv
  hkdf := fun secret _ => secret
  aead := fun _ => Aead.zeroTag
  jsonData := fun _ => .ok ""
  base64Decode := fun _ => .ok []
  dispatcher := none
  padding := fun _ _ => 0
  draws := fun _ => (0.5, 0.5)
  dialErr := none
  others := fun _ => []

/-- The record with every field zero and no policy. -/
def ClientHandshake.zero : ClientHandshake :=
  ⟨List.replicate 32 0, List.replicate 16 0, [], 0, List.replicate 16 0, rfl, rfl, rfl, by decide⟩

-----------------------------------------------------------------------------------------
-- Streams that are not a handshake
-----------------------------------------------------------------------------------------

/-- With a fallback configured and dialled: a stream shorter than the peek ends silently;
other traffic is handed whole, from its first byte, to the relay; a magic stream without a
complete record and every HTTP POST stream end in an error. None of these writes to the
client. -/
theorem process_without_handshake (h : Handler) (env : Env) (input : Bytes) {port : Nat}
    (hf : h.fallback = some port) (hd : env.dialErr = none)
    : (input.length < reflexMinHandshakeSize → h.process env input = ⟨.returned none, [], false⟩)
      ∧ (reflexMinHandshakeSize ≤ input.length
          → route (input.take reflexMinHandshakeSize) = some .fallback
          → h.process env input = ⟨.relay input, [], false⟩)
      ∧ (reflexMinHandshakeSize ≤ input.length
          → route (input.take reflexMinHandshakeSize) = some .magic
          → ∀ e, readMagicHandshake input = .err e
          → h.process env input = ⟨.returned (some e), [], false⟩)
      ∧ (reflexMinHandshakeSize ≤ input.length
          → route (input.take reflexMinHandshakeSize) = some .http
          → ∃ e, h.process env input = ⟨.returned (some e), [], false⟩) := by
  refine ⟨process_short h env, fun hl hr => ?_, fun hl hr e he => ?_, fun hl hr => ?_⟩
  · rw [process_route h env hl hr]
    simp [Handler.handleFallback, hf, hd]
  · rw [process_route h env hl hr]
    simp [Handler.handleReflexMagic, he, Outcome.error]
  · rw [process_route h env hl hr]
    rcases handleReflexHTTP_error h env input with ⟨e, -, he⟩ | ⟨-, -, he⟩
    · exact ⟨e, he⟩
    · exact ⟨_, he⟩

/-- The four cases at the handler `New` builds with port 80 and no clients: a GET request
shorter than the peek, one longer, the magic followed by 60 zero bytes, too few for a record,
and a POST request. -/
theorem process_without_handshake_requests
    : let h := newHandler [] (some 80)
      let short := ascii "GET / HTTP/1.1\r\nHost: x\r\n\r\n"
      let page := ascii "GET /index.html HTTP/1.1\r\nHost: www.example.com\r\nAccept: text/html\r\n\r\n"
      let cut := magicBytes ++ List.replicate 60 0
      let post := ascii "POST /api HTTP/1.1\r\nHost: www.example.com\r\nContent-Type: text/plain\r\n\r\n"
      h.fallback = some 80 ∧ Env.quiet.dialErr = none
      ∧ (short.length < reflexMinHandshakeSize ∧ h.process Env.quiet short = ⟨.returned none, [], false⟩)
      ∧ (reflexMinHandshakeSize ≤ page.length ∧ route (page.take reflexMinHandshakeSize) = some .fallback
          ∧ h.process Env.quiet page = ⟨.relay page, [], false⟩)
      ∧ (reflexMinHandshakeSize ≤ cut.length ∧ route (cut.take reflexMinHandshakeSize) = some .magic
          ∧ readMagicHandshake cut = .err .errUnexpectedEOF
          ∧ h.process Env.quiet cut = ⟨.returned (some .errUnexpectedEOF), [], false⟩)
      ∧ (reflexMinHandshakeSize ≤ post.length ∧ route (post.take reflexMinHandshakeSize) = some .http
          ∧ ∃ e, h.process Env.quiet post = ⟨.returned (some e), [], false⟩) := by
  intro h short page cut post
  have hw := fun input => @process_without_handshake h Env.quiet input 80 rfl rfl
  have hcut : readMagicHandshake cut = .err .errUnexpectedEOF := rfl
  refine ⟨rfl, rfl, ⟨by decide, (hw short).1 (by decide)⟩,
    ⟨by decide, by decide, (hw page).2.1 (by decide) (by decide)⟩,
    ⟨by decide, by decide, hcut, (hw cut).2.2.1 (by decide) (by decide) _ hcut⟩,
    ⟨by decide, by decide, (hw post).2.2.2 (by decide) (by decide)⟩⟩

-----------------------------------------------------------------------------------------
-- The dispatch
-----------------------------------------------------------------------------------------

/-- Past the 64-byte peek, `Process` hands a stream to `handleReflexMagic` exactly when it
starts with the magic, to `handleReflexHTTP` exactly when it starts with `POST` and the peeked
bytes hold `HTTP/1.1` at an offset `i` with `i + 8 ≤ 64`, and to `handleFallback` otherwise;
the fallback inside the handshake branch is never taken. -/
theorem process_dispatch (h : Handler) (env : Env) (input : Bytes)
    (hl : reflexMinHandshakeSize ≤ input.length)
    : h.process env input
        = (match routeSpec (input.take reflexMinHandshakeSize) with
          | .magic => h.handleReflexMagic env input
          | .http => h.handleReflexHTTP env input
          | .fallback => h.handleFallback env input)
      ∧ (isReflexHandshake (input.take reflexMinHandshakeSize) = some true
          → isReflexMagic (input.take reflexMinHandshakeSize) = some true
            ∨ isHTTPPostLike (input.take reflexMinHandshakeSize) = some true) := by
  have hb : 14 ≤ (input.take reflexMinHandshakeSize).length := by
    rw [List.length_take, Nat.min_eq_left hl]
    decide
  refine ⟨?_, isReflexHandshake_true⟩
  have hr := route_eq_routeSpec hb
  generalize routeSpec _ = rt at hr ⊢
  cases rt <;> exact process_route h env hl hr

/-- The dispatch of a stream of 64 zero bytes, at the handler `New` builds with no clients. -/
theorem process_dispatch_zeros
    : let input : Bytes := List.replicate 64 0
      reflexMinHandshakeSize ≤ input.length
      ∧ (newHandler [] none).process Env.quiet input
          = (match routeSpec (input.take reflexMinHandshakeSize) with
            | .magic => (newHandler [] none).handleReflexMagic Env.quiet input
            | .http => (newHandler [] none).handleReflexHTTP Env.quiet input
            | .fallback => (newHandler [] none).handleFallback Env.quiet input)
      ∧ (isReflexHandshake (input.take reflexMinHandshakeSize) = some true
          → isReflexMagic (input.take reflexMinHandshakeSize) = some true
            ∨ isHTTPPostLike (input.take reflexMinHandshakeSize) = some true) :=
  ⟨by decide, process_dispatch (newHandler [] none) Env.quiet (List.replicate 64 0) (by decide)⟩

-----------------------------------------------------------------------------------------
-- The magic handshake
-----------------------------------------------------------------------------------------

/-- Every record with a policy of at most 65535 bytes, sent after the magic, the bytes
`52 46 58 4C`, and followed by any bytes `t`, is routed to the magic handshake, decoded to
itself, and handed to `processHandshake` with exactly `t` left to read. -/
theorem magic_handshake_decodes (h : Handler) (env : Env) (hs : ClientHandshake)
    (hp : hs.policyReq.length < 65536) (t : Bytes)
    : magicBytes = [0x52, 0x46, 0x58, 0x4C]
      ∧ route ((hs.magicPacket ++ t).take reflexMinHandshakeSize) = some .magic
      ∧ readMagicHandshake (hs.magicPacket ++ t) = .ok (hs, t)
      ∧ h.process env (hs.magicPacket ++ t) = h.processHandshake env hs t := by
  obtain ⟨hr, hproc⟩ := process_magicPacket h env hs hp t
  exact ⟨rfl, hr, readMagicHandshake_magicPacket hs hp t, hproc⟩

theorem magic_handshake_decodes_zero
    : ClientHandshake.zero.policyReq.length < 65536
      ∧ magicBytes = [0x52, 0x46, 0x58, 0x4C]
      ∧ route ((ClientHandshake.zero.magicPacket ++ []).take reflexMinHandshakeSize) = some .magic
      ∧ readMagicHandshake (ClientHandshake.zero.magicPacket ++ []) = .ok (ClientHandshake.zero, [])
      ∧ (newHandler [] none).process Env.quiet (ClientHandshake.zero.magicPacket ++ [])
        = (newHandler [] none).processHandshake Env.quiet ClientHandshake.zero [] :=
  ⟨by decide, magic_handshake_decodes (newHandler [] none) Env.quiet ClientHandshake.zero (by decide) []⟩

-----------------------------------------------------------------------------------------
-- The HTTP handshake
-----------------------------------------------------------------------------------------

/-- Every request of CRLF-terminated lines, an empty line and any body, routed to the HTTP
handshake, is refused with `invalid content length` before its body is read, whatever its
`Content-Length` header says: nothing is written and `processHandshake` is never called. -/
theorem http_handshake_refused (h : Handler) (env : Env) {lines : List Bytes}
    (hl : ∀ l ∈ lines, HeaderLine l) (body : Bytes)
    (hlen : reflexMinHandshakeSize ≤ (lines.flatten ++ ascii "\r\n" ++ body).length)
    (hr : route ((lines.flatten ++ ascii "\r\n" ++ body).take reflexMinHandshakeSize) = some .http)
    : h.process env (lines.flatten ++ ascii "\r\n" ++ body)
      = ⟨.returned (some (.new "invalid content length")), [], false⟩ := by
  rw [process_route h env hlen hr, Handler.handleReflexHTTP, readHeaders_lines 0 hl body]
  rfl

/-- The JSON body of an HTTP handshake carrying the zero record: its 72 bytes in base64. -/
def zeroHandshakeBody : Bytes :=
  ascii "\x7b\"data\":\"" ++ List.replicate 96 (ascii "A").head! ++ ascii "\"\x7d"

/-- A well-formed HTTP handshake of the zero record, with its exact `Content-Length: 107`, is
refused. -/
theorem http_handshake_refused_zero
    : (∀ l ∈ [ascii "POST / HTTP/1.1\r\n", ascii "Content-Length: 107\r\n"], HeaderLine l)
      ∧ reflexMinHandshakeSize ≤ ([ascii "POST / HTTP/1.1\r\n", ascii "Content-Length: 107\r\n"].flatten
          ++ ascii "\r\n" ++ zeroHandshakeBody).length
      ∧ route (([ascii "POST / HTTP/1.1\r\n", ascii "Content-Length: 107\r\n"].flatten
          ++ ascii "\r\n" ++ zeroHandshakeBody).take reflexMinHandshakeSize) = some .http
      ∧ (newHandler [] none).process Env.quiet ([ascii "POST / HTTP/1.1\r\n",
          ascii "Content-Length: 107\r\n"].flatten ++ ascii "\r\n" ++ zeroHandshakeBody)
        = ⟨.returned (some (.new "invalid content length")), [], false⟩ := by
  have hl : ∀ l ∈ [ascii "POST / HTTP/1.1\r\n", ascii "Content-Length: 107\r\n"], HeaderLine l := by
    simp only [List.mem_cons, List.mem_singleton, List.not_mem_nil, or_false, forall_eq_or_imp,
      forall_eq]
    exact ⟨⟨ascii "POST / HTTP/1.1", rfl, by decide, by decide⟩,
      ⟨ascii "Content-Length: 107", rfl, by decide, by decide⟩⟩
  have hlen : reflexMinHandshakeSize ≤ ([ascii "POST / HTTP/1.1\r\n", ascii "Content-Length: 107\r\n"].flatten
      ++ ascii "\r\n" ++ zeroHandshakeBody).length := by
    simp only [List.flatten, List.length_append, zeroHandshakeBody, List.length_replicate,
      List.length_nil, ascii, List.length_map, String.length, reflexMinHandshakeSize]
    decide
  have hr : route (([ascii "POST / HTTP/1.1\r\n", ascii "Content-Length: 107\r\n"].flatten
      ++ ascii "\r\n" ++ zeroHandshakeBody).take reflexMinHandshakeSize) = some .http := by decide
  exact ⟨hl, hlen, hr, http_handshake_refused (newHandler [] none) Env.quiet hl zeroHandshakeBody hlen hr⟩

-----------------------------------------------------------------------------------------
-- No panic, and every loop consumes input
-----------------------------------------------------------------------------------------

/-- `Process` never panics: the classification, both handshakes, the session loop and the
hand-over to the fallback keep every slice in range, and the HTTP path never reaches its
`make` of a body. -/
theorem Handler.process_not_panicked (h : Handler) (env : Env) (input : Bytes) (what : String)
    : (h.process env input).exit ≠ .panicked what := by
  unfold Handler.process
  split
  · simp [Outcome.error]
  · rename_i peeked _
    obtain ⟨rt, hrt⟩ := Option.isSome_iff_exists.mp (route_isSome peeked)
    rw [hrt]
    cases rt with
    | magic =>
        dsimp only [Handler.handleReflexMagic]
        split
        · obtain ⟨e, he⟩ := processHandshake_returned h env _ _
          rw [he]
          nofun
        · simp [Outcome.error]
        · rename_i w hw
          exact absurd hw (readMagicHandshake_not_panic input w)
    | http =>
        rcases handleReflexHTTP_error h env input with ⟨e, -, he⟩ | ⟨-, -, he⟩ <;>
          simp [he, Outcome.error]
    | fallback =>
        dsimp only [Handler.handleFallback]
        split
        · simp
        · split <;> simp

/-- On every stream, clock, AEAD and library behaviour, `Process` returns or hands over to the
relay without panicking, and so does the parse of the HTTP handshake's record for every body;
the relay returns, with nil or the error of the first pump to end, once its first pump has
moved once per byte of the stream and once more for EOF, whatever the target answers and
however the goroutines interleave, and with nil when the target neither closes nor resets; and
the header loop and the frame loop consume input at every turn. -/
theorem process_terminates_without_panic (h : Handler) (env : Env) (input : Bytes)
    : (∀ what, (h.process env input).exit ≠ .panicked what)
      ∧ (∀ b what, parseClientHandshakeFromBytes b ≠ .panic what)
      ∧ (∀ pending, (h.process env input).exit = .relay pending →
          ∀ (r : Bytes) (buffered : Nat) (schedule more : List Party),
            pending.length + 1 ≤ schedule.count .peerToTarget →
            ∃ report, ((Relay.start pending r buffered).run (schedule ++ .main :: more)).returned
              = some report ∧ (.target ∉ schedule → fallbackResult report = none))
      ∧ (∀ r line rest : Bytes, readString 10 r = .ok (line, rest) → rest.length < r.length)
      ∧ (∀ (s s' : Session) (r rest : Bytes) (frame : Frame),
          s.readFrame r = (.ok frame, s', rest) → rest.length < r.length) := by
  refine ⟨h.process_not_panicked env input, parseClientHandshakeFromBytes_not_panic,
    fun pending _ r buffered _ more hcount => Relay.returns pending r buffered hcount more,
    fun r line rest hr => ?_, fun _ _ _ _ _ hr => readFrame_ok_shorter hr⟩
  obtain ⟨rfl, hne⟩ := readString_ok hr
  simpa using List.length_pos.mpr hne

end Reflex
