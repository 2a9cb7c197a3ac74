import Reflex.Inbound.Tunnel
import Reflex.Inbound.Process
import Reflex.Go.Uuid

/-! Which configured client a handshake's user id selects. `authenticateUser` compares each
configured id, as a string, with the canonical lowercase string of the 16-byte id, which
parses back to the id: a fresh handshake is answered 200 exactly when that string is
configured. Other strings `uuid.Parse` reads as the same id, such as the braced form, are
never found.
-/

namespace Reflex

open Go

/-- The bytes of a group of the canonical string: each byte as two lowercase hex digits. -/
def hexBytes (g : Bytes) : Bytes :=
  g.flatMap fun b => [hexDigitByte (b.toNat / 16), hexDigitByte (b.toNat % 16)]

theorem hexBytes_length (g : Bytes) : (hexBytes g).length = 2 * g.length := by
  induction g with
  | nil => rfl
  | cons b g ih =>
      simp only [hexBytes, List.flatMap_cons, List.length_append, List.length_cons,
        List.length_nil] at ih ⊢
      omega

theorem utf8_hexGroup (g : Bytes) : utf8 (String.mk (g.map hexByte).flatten) = hexBytes g := by
  rw [utf8_ascii]
  · simp [hexBytes, hexByte, hexDigitByte, List.map_flatten, List.flatMap, Function.comp_def]
  · intro c hc
    simp only [List.mem_flatten, List.mem_map] at hc
    obtain ⟨_, ⟨b, -, rfl⟩, hc⟩ := hc
    have hb := toNat_lt_u8 b
    simp only [hexByte, List.mem_cons, List.mem_singleton, List.not_mem_nil, or_false] at hc
    rcases hc with rfl | rfl <;> exact digitChar_lt _ (by omega)

/-- The bytes of `uuid.UUID(u).String()`: the groups of 4, 2, 2, 2 and 6 bytes in hex, joined
by dashes. -/
theorem utf8_uuidString (u : Bytes)
    : utf8 (uuidString u) = hexBytes (u.take 4) ++ [45] ++ hexBytes ((u.drop 4).take 2) ++ [45]
        ++ hexBytes ((u.drop 6).take 2) ++ [45] ++ hexBytes ((u.drop 8).take 2) ++ [45]
        ++ hexBytes (u.drop 10) := by
  simp only [uuidString, List.map_cons, List.map_nil, String.intercalate, String.intercalate.go,
    utf8_append, utf8_hexGroup]
  rfl

theorem utf8_uuidString_length {u : Bytes} (hu : u.length = 16)
    : (utf8 (uuidString u)).length = 36 := by
  simp only [utf8_uuidString, List.length_append, hexBytes_length, List.length_take,
    List.length_drop, List.length_singleton, hu]
  rfl

/-- The dashed form reads the canonical string back, whatever follows it: by the sixteen
digit pairs of a 16-byte id. -/
theorem parseDashed_uuidString {u : Bytes} (hu : u.length = 16) (rest : Bytes)
    : parseDashed (utf8 (uuidString u) ++ rest) = some u := by
  rcases u with _|⟨b0,_|⟨b1,_|⟨b2,_|⟨b3,_|⟨b4,_|⟨b5,_|⟨b6,_|⟨b7,_|⟨b8,_|⟨b9,_|⟨b10,_|⟨b11,_|
    ⟨b12,_|⟨b13,_|⟨b14,_|⟨b15,_|⟨b16,u⟩⟩⟩⟩⟩⟩⟩⟩⟩⟩⟩⟩⟩⟩⟩⟩⟩ <;> simp at hu
  rw [utf8_uuidString]
  simp only [List.take, List.drop, hexBytes, List.flatMap_cons, List.flatMap_nil,
    List.cons_append, List.nil_append, List.append_nil, List.singleton_append]
  simp only [parseDashed, dashedPairs, hexPairsAt, List.getD_cons_succ, List.getD_cons_zero,
    xtob_hexDigitByte, ne_eq, not_true_eq_false, or_self, if_false, Option.map_some']

/-- The canonical string of a 16-byte id parses to the id. -/
theorem uuidParse_uuidString {u : Bytes} (hu : u.length = 16) : uuidParse (uuidString u) = some u := by
  rw [uuidParse, if_pos (utf8_uuidString_length hu)]
  simpa using parseDashed_uuidString hu []

/-- So does the canonical string in braces, the form `{xxxxxxxx-xxxx-xxxx-xxxx-xxxxxxxxxxxx}`. -/
theorem uuidParse_braced {u : Bytes} (hu : u.length = 16)
    : uuidParse ("\x7b" ++ uuidString u ++ "\x7d") = some u := by
  have hs : utf8 ("\x7b" ++ uuidString u ++ "\x7d") = 123 :: (utf8 (uuidString u) ++ [125]) := by
    rw [utf8_append, utf8_append]
    rfl
  have hl : (utf8 ("\x7b" ++ uuidString u ++ "\x7d")).length = 38 := by
    rw [hs, List.length_cons, List.length_append, utf8_uuidString_length hu]
    rfl
  rw [uuidParse, if_neg (by omega), if_neg (by omega), if_pos hl, hs, List.drop_one,
    List.tail_cons]
  exact parseDashed_uuidString hu [125]

/-- `authenticateUser` finds the configured string equal to the canonical one, if any. -/
theorem authenticateUser_eq (clients : List String) (u : Bytes)
    : authenticateUser clients u
      = if uuidString u ∈ clients then .ok (uuidString u) else .error (.new "user not found") := by
  unfold authenticateUser
  rcases hf : clients.find? (fun id => id = uuidString u) with _ | found
  · rw [if_neg fun hm => by simpa using List.find?_eq_none.mp hf _ hm]
  · obtain rfl : found = uuidString u := by simpa using List.find?_some hf
    rw [if_pos (List.mem_of_find?_eq_some hf)]

/-- `authenticateUser` accepts a user id exactly when its canonical string is configured, and
returns that string. -/
theorem authenticateUser_ok_iff (clients : List String) (u : Bytes) (id : String)
    : authenticateUser clients u = .ok id ↔ id = uuidString u ∧ uuidString u ∈ clients := by
  rw [authenticateUser_eq]
  split <;> simp [*, eq_comm]

/-- A client configured by its UUID in braces, a string `uuid.Parse` reads as that UUID, is
refused with a 403, while the canonical string, which parses to the same UUID, is accepted:
`authenticateUser` compares strings, not UUIDs. -/
theorem braced_uuid_forbidden (env : Env) (hs : ClientHandshake) (fallback : Option Nat)
    (r : Bytes) (hfresh : toInt64 (env.now - 300) ≤ hs.timestamp ∧ hs.timestamp ≤ toInt64 (env.now + 300))
    {priv : Bytes} (hpriv : env.serverPriv = .ok priv)
    : let id := "\x7b" ++ uuidString hs.userID ++ "\x7d"
      uuidParse id = some hs.userID
      ∧ uuidParse (uuidString hs.userID) = some hs.userID
      ∧ authenticateUser [uuidString hs.userID] hs.userID = .ok (uuidString hs.userID)
      ∧ (newHandler [id] fallback).processHandshake env hs r = writeHTTPErrorAndClose "forbidden" := by
  intro id
  have hne : id ≠ uuidString hs.userID := fun he => by
    have hl := congrArg (fun s => (utf8 s).length) he
    simp only [id, utf8_append, List.length_append, utf8_uuidString_length hs.userID_length] at hl
    exact absurd hl (by decide)
  have hauth : authenticateUser [id] hs.userID = .error (.new "user not found") := by
    rw [authenticateUser_eq, if_neg (mt List.mem_singleton.mp (Ne.symm hne))]
  exact ⟨uuidParse_braced hs.userID_length, uuidParse_uuidString hs.userID_length,
    (authenticateUser_ok_iff _ _ _).mpr ⟨rfl, List.mem_singleton_self _⟩,
    processHandshake_forbidden _ env hs r hfresh hpriv hauth⟩

/-- Across every list of configured ids and every fresh handshake with the server's key pair
made, `authenticateUser` accepts the user id exactly when its canonical lowercase string, which
parses back to the id, is configured, and returns that string; `processHandshake` then answers
200 and goes on with the session, and answers 403 `forbidden` otherwise. -/
theorem canonical_id_accepted (clients : List String) (fallback : Option Nat) (env : Env)
    (hs : ClientHandshake) (r : Bytes)
    (hfresh : toInt64 (env.now - 300) ≤ hs.timestamp ∧ hs.timestamp ≤ toInt64 (env.now + 300))
    {priv : Bytes} (hpriv : env.serverPriv = .ok priv)
    : uuidParse (uuidString hs.userID) = some hs.userID
      ∧ (∀ id, authenticateUser clients hs.userID = .ok id
          ↔ id = uuidString hs.userID ∧ uuidString hs.userID ∈ clients)
      ∧ (uuidString hs.userID ∈ clients
          → (newHandler clients fallback).processHandshake env hs r
            = (handleSession env
                (.fresh (env.aead (deriveSessionKey env (env.scalarMult priv hs.publicKey) hs.nonce)))
                (profile "http2-api") 0 r).after
              (okResponse (marshalServerHandshake (env.scalarBaseMult priv))))
      ∧ (uuidString hs.userID ∉ clients
          → (newHandler clients fallback).processHandshake env hs r
            = writeHTTPErrorAndClose "forbidden") := by
  refine ⟨uuidParse_uuidString hs.userID_length, authenticateUser_ok_iff clients hs.userID,
    fun hm => processHandshake_accept _ env hs r hfresh hpriv
      ((authenticateUser_ok_iff _ _ _).mpr ⟨rfl, hm⟩),
    fun hm => ?_⟩
  have hauth : authenticateUser clients hs.userID = .error (.new "user not found") := by
    rw [authenticateUser_eq, if_neg hm]
  exact processHandshake_forbidden (newHandler clients fallback) env hs r hfresh hpriv hauth

/-- The acceptance at the handshake of the zero record, configured by its canonical string,
the clock at zero. -/
theorem canonical_id_accepted_zero
    : (toInt64 (Env.quiet.now - 300) ≤ ClientHandshake.zero.timestamp
        ∧ ClientHandshake.zero.timestamp ≤ toInt64 (Env.quiet.now + 300))
      ∧ Env.quiet.serverPriv = .ok (List.replicate 32 0)
      ∧ uuidString ClientHandshake.zero.userID ∈ [uuidString ClientHandshake.zero.userID]
      ∧ (newHandler [uuidString ClientHandshake.zero.userID] none).processHandshake Env.quiet
          ClientHandshake.zero []
        = (handleSession Env.quiet (.fresh (Env.quiet.aead (deriveSessionKey Env.quiet
              (Env.quiet.scalarMult (List.replicate 32 0) ClientHandshake.zero.publicKey)
              ClientHandshake.zero.nonce)))
            (profile "http2-api") 0 []).after
          (okResponse (marshalServerHandshake (Env.quiet.scalarBaseMult (List.replicate 32 0)))) :=
  ⟨by decide, rfl, List.mem_singleton_self _,
    (canonical_id_accepted [uuidString ClientHandshake.zero.userID] none Env.quiet ClientHandshake.zero
      [] (by decide) rfl).2.2.1 (List.mem_singleton_self _)⟩

/-- The refusal at the handshake of the zero record, the clock at zero. -/
theorem braced_uuid_forbidden_zero
    : (toInt64 (Env.quiet.now - 300) ≤ ClientHandshake.zero.timestamp
        ∧ ClientHandshake.zero.timestamp ≤ toInt64 (Env.quiet.now + 300))
      ∧ Env.quiet.serverPriv = .ok (List.replicate 32 0)
      ∧ (let id := "\x7b" ++ uuidString ClientHandshake.zero.userID ++ "\x7d"
        uuidParse id = some ClientHandshake.zero.userID
        ∧ uuidParse (uuidString ClientHandshake.zero.userID) = some ClientHandshake.zero.userID
        ∧ authenticateUser [uuidString ClientHandshake.zero.userID] ClientHandshake.zero.userID
          = .ok (uuidString ClientHandshake.zero.userID)
        ∧ (newHandler [id] none).processHandshake Env.quiet ClientHandshake.zero []
          = writeHTTPErrorAndClose "forbidden") :=
  ⟨by decide, rfl, braced_uuid_forbidden Env.quiet ClientHandshake.zero none [] (by decide) rfl⟩

end Reflex
