import Reflex.Inbound.Classify

/-! The two handshake parsers of the inbound handler: the binary record after the magic
(`handleReflexMagic`), and the HTTP POST request whose JSON body carries the same record in
base64 (`handleReflexHTTP`, `parseClientHandshakeFromBytes`). The magic record decodes to
what a client encodes; the header loop of the HTTP request never takes a length.
-/

namespace Reflex

open Go

/-- `copy(dst[:], src)` into a zeroed `[n]byte` array. -/
def copyArray (n : Nat) (src : Bytes) : Bytes := src.take n ++ List.replicate (n - src.length) 0

@[simp] theorem copyArray_length (n : Nat) (src : Bytes) : (copyArray n src).length = n := by
  simp only [copyArray, List.length_append, List.length_take, List.length_replicate]
  omega

theorem copyArray_of_length {n : Nat} {src : Bytes} (h : src.length = n) : copyArray n src = src := by
  simp [copyArray, h, List.take_of_length_le]

/-- `ClientHandshake`. Its arrays keep their sizes and its timestamp is an `int64`. -/
@[ext] structure ClientHandshake where
  publicKey : Bytes
  userID : Bytes
  policyReq : Bytes
  timestamp : Int
  nonce : Bytes
  publicKey_length : publicKey.length = 32
  userID_length : userID.length = 16
  nonce_length : nonce.length = 16
  timestamp_range : -2 ^ 63 ≤ timestamp ∧ timestamp < 2 ^ 63

/-- The record both parsers fill: the three arrays copied from their slices, the timestamp
converted to `int64`, the policy as read (nil when empty). -/
def ClientHandshake.ofFields (pub user : Bytes) (ts : Nat) (nonce policy : Bytes)
    : ClientHandshake where
  publicKey := copyArray 32 pub
  userID := copyArray 16 user
  policyReq := policy
  timestamp := toInt64 ts
  nonce := copyArray 16 nonce
  publicKey_length := copyArray_length _ _
  userID_length := copyArray_length _ _
  nonce_length := copyArray_length _ _
  timestamp_range := toInt64_range _

/-- `32 + 16 + 8 + 16 + 2`: key, user id, timestamp, nonce, policy length. -/
def fixedSize : Nat := 32 + 16 + 8 + 16 + 2

/-- The reads of `handleReflexMagic` up to its call of `processHandshake`: the magic, the
fixed block, then the policy when its length is positive. Returns the record and the rest of
the stream. -/
def readMagicHandshake (r : Bytes) : Ret (ClientHandshake × Bytes) :=
  match readFull r 4 with
  | .error e => .err e
  | .ok (_, r1) =>
      match readFull r1 fixedSize with
      | .error e => .err e
      | .ok (fixed, r2) =>
          match slice fixed 0 32, slice fixed 32 48, (slice fixed 48 56).bind BigEndian.uint64,
              slice fixed 56 72, (slice fixed 72 74).bind BigEndian.uint16 with
          | some pub, some user, some ts, some nonce, some policyLen =>
              if policyLen > 0 then
                match readFull r2 policyLen with
                | .error e => .err e
                | .ok (policy, r3) => .ok (.ofFields pub user ts nonce policy, r3)
              else .ok (.ofFields pub user ts nonce [], r2)
          | _, _, _, _, _ => .panic "slice bounds out of range"

/-- `parseClientHandshakeFromBytes(b)`: the fixed fields, and the rest as the policy. -/
def parseClientHandshakeFromBytes (b : Bytes) : Ret ClientHandshake :=
  if b.length < 32 + 16 + 8 + 16 then .err (.new "handshake packet too short")
  else
    match slice b 0 32, slice b 32 48, (slice b 48 56).bind BigEndian.uint64, slice b 56 72 with
    | some pub, some user, some ts, some nonce =>
        .ok (.ofFields pub user ts nonce (if 72 < b.length then b.drop 72 else []))
    | _, _, _, _ => .panic "slice bounds out of range"

-----------------------------------------------------------------------------------------
-- The encodings of a client
-----------------------------------------------------------------------------------------

/-- The fixed fields as a client sends them: key, user id, the eight big-endian bytes of the
`int64` timestamp, nonce. -/
def ClientHandshake.fields (hs : ClientHandshake) : Bytes :=
  hs.publicKey ++ hs.userID ++ BigEndian.putUint64 (hs.timestamp % 2 ^ 64).toNat ++ hs.nonce

/-- The magic handshake of a record: magic, fixed fields, policy length, policy. -/
def ClientHandshake.magicPacket (hs : ClientHandshake) : Bytes :=
  magicBytes ++ hs.fields ++ BigEndian.putUint16 hs.policyReq.length ++ hs.policyReq

/-- The handshake bytes an HTTP client base64-encodes: fixed fields, then the policy. -/
def ClientHandshake.rawPacket (hs : ClientHandshake) : Bytes := hs.fields ++ hs.policyReq

@[simp] theorem ClientHandshake.fields_length (hs : ClientHandshake) : hs.fields.length = 72 := by
  simp [ClientHandshake.fields, BigEndian.putUint64, hs.publicKey_length, hs.userID_length,
    hs.nonce_length]

/-- The timestamp survives its encoding as eight bytes and the conversion back to `int64`. -/
theorem toInt64_timestamp (hs : ClientHandshake)
    : toInt64 (beValue (BigEndian.putUint64 (hs.timestamp % 2 ^ 64).toNat)) = hs.timestamp := by
  have hr := hs.timestamp_range
  have hv : beValue (BigEndian.putUint64 (hs.timestamp % 2 ^ 64).toNat)
      = (hs.timestamp % 2 ^ 64).toNat := by
    rw [BigEndian.putUint64, beValue_bePut]
    exact Nat.mod_eq_of_lt (by omega)
  rw [hv, Int.toNat_of_nonneg (by omega), toInt64]
  omega

/-- The fields a parser reads back from a block that starts with a key, a user id, eight
timestamp bytes and a nonce. -/
theorem slices_fields {pub user ts nonce : Bytes} (h32 : pub.length = 32) (h16 : user.length = 16)
    (h8 : ts.length = 8) (hn : nonce.length = 16) (rest : Bytes)
    : slice (pub ++ user ++ ts ++ nonce ++ rest) 0 32 = some pub
      ∧ slice (pub ++ user ++ ts ++ nonce ++ rest) 32 48 = some user
      ∧ (slice (pub ++ user ++ ts ++ nonce ++ rest) 48 56).bind BigEndian.uint64 = some (beValue ts)
      ∧ slice (pub ++ user ++ ts ++ nonce ++ rest) 56 72 = some nonce := by
  refine ⟨?_, ?_, ?_, ?_⟩
  · rw [show pub ++ user ++ ts ++ nonce ++ rest = [] ++ pub ++ (user ++ ts ++ nonce ++ rest) by simp]
    exact slice_field rfl (by simp [h32])
  · rw [show pub ++ user ++ ts ++ nonce ++ rest = pub ++ user ++ (ts ++ nonce ++ rest) by simp]
    exact slice_field h32 (by simp [h16])
  · rw [show pub ++ user ++ ts ++ nonce ++ rest = (pub ++ user) ++ ts ++ (nonce ++ rest) by simp,
      slice_field (by simp [h32, h16]) (by simp [h8]), Option.some_bind, BigEndian.uint64, beUint,
      if_pos (by omega), List.take_of_length_le (by omega)]
  · exact slice_field (by simp [h32, h16, h8]) (by simp [hn])

/-- The record a parser builds from the fields of a record's encoding is the record. -/
theorem ofFields_fields (hs : ClientHandshake)
    : ClientHandshake.ofFields hs.publicKey hs.userID
        (beValue (BigEndian.putUint64 (hs.timestamp % 2 ^ 64).toNat)) hs.nonce hs.policyReq = hs := by
  exact ClientHandshake.ext (copyArray_of_length hs.publicKey_length)
    (copyArray_of_length hs.userID_length) rfl (toInt64_timestamp hs)
    (copyArray_of_length hs.nonce_length)

/-- The magic path reads back every record a client encodes, with a policy of up to 65535
bytes, and leaves the bytes after it: the magic, the fixed block with its five fields, then
the policy when there is one. -/
theorem readMagicHandshake_magicPacket (hs : ClientHandshake) (hp : hs.policyReq.length < 65536)
    (t : Bytes) : readMagicHandshake (hs.magicPacket ++ t) = .ok (hs, t) := by
  have hfix : (hs.fields ++ BigEndian.putUint16 hs.policyReq.length).length = fixedSize := by
    simp [BigEndian.putUint16, fixedSize]
  have hlen : (slice (hs.fields ++ BigEndian.putUint16 hs.policyReq.length) 72 74).bind
      BigEndian.uint16 = some hs.policyReq.length := by
    rw [← List.append_nil (hs.fields ++ _), slice_field (by simp) (by simp [BigEndian.putUint16]),
      Option.some_bind, BigEndian.uint16, BigEndian.putUint16, beUint_bePut, Nat.mod_eq_of_lt (show _ < 256 ^ 2 from hp)]
  obtain ⟨h1, h2, h3, h4⟩ := slices_fields hs.publicKey_length hs.userID_length
    (show (BigEndian.putUint64 _).length = 8 from bePut_length 8 _) hs.nonce_length
    (BigEndian.putUint16 hs.policyReq.length)
  have hstream : hs.magicPacket ++ t
      = magicBytes ++ ((hs.fields ++ BigEndian.putUint16 hs.policyReq.length) ++ (hs.policyReq ++ t)) := by
    simp [ClientHandshake.magicPacket]
  rw [hstream, readMagicHandshake, readFull_append (show magicBytes.length = 4 from rfl)]
  dsimp only
  rw [readFull_append hfix]
  dsimp only
  simp only [ClientHandshake.fields] at hlen ⊢
  rw [h1, h2, h3, h4, hlen]
  dsimp only
  split
  · rw [readFull_append rfl]
    exact congrArg (fun hs' => Ret.ok (hs', t)) (ofFields_fields hs)
  · have hnil : hs.policyReq = [] := List.eq_nil_of_length_eq_zero (by omega)
    rw [hnil]
    exact congrArg (fun hs' => Ret.ok (hs', t)) (hnil ▸ ofFields_fields hs)

/-- The bytes an HTTP client base64-encodes parse back to its record. -/
theorem parseClientHandshakeFromBytes_rawPacket (hs : ClientHandshake)
    : parseClientHandshakeFromBytes hs.rawPacket = .ok hs := by
  obtain ⟨h1, h2, h3, h4⟩ := slices_fields hs.publicKey_length hs.userID_length
    (show (BigEndian.putUint64 (hs.timestamp % 2 ^ 64).toNat).length = 8 from bePut_length 8 _)
    hs.nonce_length hs.policyReq
  have hpolicy : (if 72 < hs.rawPacket.length then hs.rawPacket.drop 72 else []) = hs.policyReq := by
    split
    · exact List.drop_left' (ClientHandshake.fields_length hs)
    · simp only [ClientHandshake.rawPacket, List.length_append, ClientHandshake.fields_length] at *
      exact (List.eq_nil_of_length_eq_zero (by omega)).symm
  simp only [parseClientHandshakeFromBytes, ClientHandshake.rawPacket, ClientHandshake.fields] at hpolicy ⊢
  rw [if_neg (by simp [hs.publicKey_length, hs.userID_length, hs.nonce_length, BigEndian.putUint64]; omega),
    h1, h2, h3, h4, hpolicy]
  exact congrArg Ret.ok (ofFields_fields hs)

-----------------------------------------------------------------------------------------
-- What the parsers accept
-----------------------------------------------------------------------------------------

/-- A stream with at least n bytes is n bytes followed by the rest. -/
theorem split_at_length (l : Bytes) (n : Nat) (h : n ≤ l.length)
    : ∃ a b, l = a ++ b ∧ a.length = n :=
  ⟨l.take n, l.drop n, (List.take_append_drop n l).symm, by simp [h]⟩

/-- A stream of at least 72 bytes starts with a key, a user id, eight timestamp bytes and a
nonce, as the parsers slice it. -/
theorem split_fields {b : Bytes} (h : 72 ≤ b.length)
    : ∃ pub user ts nonce rest : Bytes, pub.length = 32 ∧ user.length = 16 ∧ ts.length = 8
        ∧ nonce.length = 16 ∧ b = pub ++ user ++ ts ++ nonce ++ rest := by
  obtain ⟨pub, b1, rfl, h32⟩ := split_at_length b 32 (by omega)
  obtain ⟨user, b2, rfl, h16⟩ := split_at_length b1 16 (by simp at h; omega)
  obtain ⟨ts, b3, rfl, h8⟩ := split_at_length b2 8 (by simp at h; omega)
  obtain ⟨nonce, rest, rfl, hn⟩ := split_at_length b3 16 (by simp at h; omega)
  exact ⟨pub, user, ts, nonce, rest, h32, h16, h8, hn, by simp⟩

/-- Eight timestamp bytes survive the conversion to int64 and the encoding back. -/
theorem putUint64_toInt64 {ts : Bytes} (h : ts.length = 8)
    : BigEndian.putUint64 (toInt64 (beValue ts) % 2 ^ 64).toNat = ts := by
  have hlt := beValue_lt ts
  rw [h] at hlt
  have hv : toInt64 (beValue ts) % 2 ^ 64 = beValue ts := by
    have : (beValue ts : Int) < 2 ^ 64 := by exact_mod_cast hlt
    unfold toInt64
    omega
  rw [hv, Int.toNat_natCast, BigEndian.putUint64, ← h, bePut_beValue]

/-- The record a parser builds from a key, a user id, eight timestamp bytes and a nonce of
the right lengths encodes to those bytes again. -/
theorem fields_ofFields {pub user ts nonce : Bytes} (h32 : pub.length = 32)
    (h16 : user.length = 16) (h8 : ts.length = 8) (hn : nonce.length = 16) (policy : Bytes)
    : (ClientHandshake.ofFields pub user (beValue ts) nonce policy).fields
      = pub ++ user ++ ts ++ nonce := by
  simp only [ClientHandshake.fields, ClientHandshake.ofFields, copyArray_of_length h32,
    copyArray_of_length h16, copyArray_of_length hn, putUint64_toInt64 h8]

/-- What the magic path accepts is an encoding: any four bytes in the magic's place, the
fixed fields of the record it returns, its policy length, its policy, and the rest. -/
theorem readMagicHandshake_ok {r t : Bytes} {hs : ClientHandshake}
    (h : readMagicHandshake r = .ok (hs, t))
    : hs.policyReq.length < 65536 ∧ ∃ m : Bytes, m.length = 4
        ∧ r = m ++ hs.fields ++ BigEndian.putUint16 hs.policyReq.length ++ hs.policyReq ++ t := by
  unfold readMagicHandshake at h
  rcases h1 : readFull r 4 with e | ⟨m, r1⟩ <;> rw [h1] at h
  · cases h
  obtain ⟨hm, rfl⟩ := readFull_ok h1
  dsimp only at h
  rcases h2 : readFull r1 fixedSize with e | ⟨fixed, r2⟩ <;> rw [h2] at h
  · cases h
  obtain ⟨hf, rfl⟩ := readFull_ok h2
  dsimp only at h
  obtain ⟨pub, user, ts, nonce, len2, h32, h16, h8, hn, rfl⟩ :=
    split_fields (show 72 ≤ fixed.length by simp only [fixedSize] at hf; omega)
  have hl2 : len2.length = 2 := by simp [fixedSize, h32, h16, h8, hn] at hf; omega
  obtain ⟨s1, s2, s3, s4⟩ := slices_fields h32 h16 h8 hn len2
  have s5 : (slice (pub ++ user ++ ts ++ nonce ++ len2) 72 74).bind BigEndian.uint16
      = some (beValue len2) := by
    rw [← List.append_nil (pub ++ user ++ ts ++ nonce ++ len2),
      slice_field (by simp [h32, h16, h8, hn]) (by simp [hl2]), Option.some_bind, BigEndian.uint16,
      beUint, if_pos (by omega), List.take_of_length_le (by omega)]
  rw [s1, s2, s3, s4, s5] at h
  dsimp only at h
  have hlen2 : BigEndian.putUint16 (beValue len2) = len2 := by
    rw [BigEndian.putUint16, ← hl2, bePut_beValue]
  have hlt := beValue_lt len2
  rw [hl2] at hlt
  have hpolicy : ∃ policy : Bytes, policy.length = beValue len2 ∧ r2 = policy ++ t
      ∧ hs = .ofFields pub user (beValue ts) nonce policy := by
    split at h
    · rcases h3 : readFull r2 (beValue len2) with e | ⟨policy, r3⟩ <;> rw [h3] at h
      · cases h
      obtain ⟨hpl, rfl⟩ := readFull_ok h3
      cases h
      exact ⟨policy, hpl, rfl, rfl⟩
    · cases h
      exact ⟨[], by simp only [List.length_nil]; omega, rfl, rfl⟩
  obtain ⟨policy, hpl, rfl, rfl⟩ := hpolicy
  refine ⟨by simp only [ClientHandshake.ofFields]; omega, m, hm, ?_⟩
  rw [fields_ofFields h32 h16 h8 hn]
  simp only [ClientHandshake.ofFields, hpl, hlen2, List.append_assoc]

/-- The magic path never reads the magic's bytes: any four bytes in their place give the
same result. -/
theorem readMagicHandshake_magic_bytes {m : Bytes} (hm : m.length = 4) (rest : Bytes)
    : readMagicHandshake (m ++ rest) = readMagicHandshake (magicBytes ++ rest) := by
  simp only [readMagicHandshake, readFull_append hm, readFull_append (show magicBytes.length = 4 from rfl)]

/-- The magic path accepts exactly the encodings of records whose policy length fits in two
bytes, behind any four bytes, and returns the encoded record and the bytes after it. -/
theorem readMagicHandshake_accepts_iff (r t : Bytes) (hs : ClientHandshake)
    : readMagicHandshake r = .ok (hs, t)
      ↔ hs.policyReq.length < 65536 ∧ ∃ m : Bytes, m.length = 4
          ∧ r = m ++ hs.fields ++ BigEndian.putUint16 hs.policyReq.length ++ hs.policyReq ++ t := by
  refine ⟨readMagicHandshake_ok, ?_⟩
  rintro ⟨hp, m, hm, rfl⟩
  have hpacket := readMagicHandshake_magicPacket hs hp t
  simp only [ClientHandshake.magicPacket, List.append_assoc] at hpacket ⊢
  rw [readMagicHandshake_magic_bytes hm, hpacket]

/-- What the HTTP path accepts is the raw packet of the record it returns. -/
theorem parseClientHandshakeFromBytes_ok {b : Bytes} {hs : ClientHandshake}
    (h : parseClientHandshakeFromBytes b = .ok hs) : b = hs.rawPacket := by
  unfold parseClientHandshakeFromBytes at h
  split at h
  · cases h
  obtain ⟨pub, user, ts, nonce, policy, h32, h16, h8, hn, rfl⟩ := @split_fields b (by omega)
  obtain ⟨s1, s2, s3, s4⟩ := slices_fields h32 h16 h8 hn policy
  rw [s1, s2, s3, s4] at h
  have hpolicy : (if 72 < (pub ++ user ++ ts ++ nonce ++ policy).length
      then (pub ++ user ++ ts ++ nonce ++ policy).drop 72 else []) = policy := by
    have hfix : (pub ++ user ++ ts ++ nonce).length = 72 := by simp [h32, h16, h8, hn]
    split
    · exact List.drop_left' hfix
    · simp only [List.length_append, hfix] at *
      exact (List.eq_nil_of_length_eq_zero (by omega)).symm
  dsimp only at h
  rw [hpolicy] at h
  cases h
  rw [ClientHandshake.rawPacket, fields_ofFields h32 h16 h8 hn]
  rfl

/-- The HTTP path accepts exactly the raw packets, each as its own record. -/
theorem parseClientHandshakeFromBytes_accepts_iff (b : Bytes) (hs : ClientHandshake)
    : parseClientHandshakeFromBytes b = .ok hs ↔ b = hs.rawPacket :=
  ⟨parseClientHandshakeFromBytes_ok, fun h => h ▸ parseClientHandshakeFromBytes_rawPacket hs⟩

-----------------------------------------------------------------------------------------
-- The header loop of handleReflexHTTP
-----------------------------------------------------------------------------------------

/-- `line[i] >= '0' && line[i] <= '9'`. -/
def isDigit (c : UInt8) : Bool := 48 ≤ c && c ≤ 57

/-- The digit loop of a `Content-Length` line: from the first digit, `v = v*10 + int(line[i]-'0')`
over the run of digits, in `int` arithmetic; `none` when the line has no digit, and then the
length is left as it was. -/
def firstDigitRun (line : Bytes) : Option Int :=
  match line.dropWhile (fun c => !isDigit c) with
  | [] => none
  | run => some ((run.takeWhile isDigit).foldl (fun v c => toInt64 (v * 10 + (c - 48).toNat)) 0)

/-- The header test of the loop on one line. The name is the slice `line[0:15]`, of 15 bytes,
compared with names of 14. -/
def contentLengthOf (line : Bytes) (contentLength : Int) : Option Int :=
  if line.length ≥ 16 then
    match slice line 0 15 with
    | none => none
    | some name =>
        if name = ascii "Content-Length" ∨ name = ascii "content-length" then
          some ((firstDigitRun line).getD contentLength)
        else some contentLength
  else some contentLength

/-- The request line and header loop of `handleReflexHTTP`: read lines up to the empty one,
keeping the content length the header test sets. Returns it and the rest of the stream. -/
def readHeaders (contentLength : Int) (r : Bytes) : Ret (Int × Bytes) :=
  match h : readString 10 r with
  | .error e => .err e
  | .ok (line, rest) =>
      if line = ascii "\r\n" then .ok (contentLength, rest)
      else
        have : rest.length < r.length := by
          obtain ⟨hr, hne⟩ := readString_ok h
          subst hr
          simpa [List.length_append] using List.length_pos.mpr hne
        match contentLengthOf line contentLength with
        | none => .panic "slice bounds out of range"
        | some c => readHeaders c rest
termination_by r.length

/-- No line matches the header test: a 15-byte slice never equals a 14-byte name. -/
theorem contentLengthOf_eq (line : Bytes) (contentLength : Int)
    : contentLengthOf line contentLength = some contentLength := by
  unfold contentLengthOf
  split
  · rw [slice_of_le (by omega) (by omega)]
    dsimp only
    have h15 : ((line.drop 0).take (15 - 0)).length = 15 := by simp; omega
    have hne : ∀ name : Bytes, name.length = 14 → (line.drop 0).take (15 - 0) ≠ name :=
      fun name hn he => by rw [he] at h15; omega
    rw [if_neg (not_or.mpr ⟨hne (ascii "Content-Length") rfl, hne (ascii "content-length") rfl⟩)]
  · rfl

/-- One turn of the header loop: the empty line ends it, any other line is read past. -/
theorem readHeaders_line {contentLength : Int} {r line rest : Bytes}
    (h : readString 10 r = .ok (line, rest))
    : readHeaders contentLength r
      = if line = ascii "\r\n" then .ok (contentLength, rest) else readHeaders contentLength rest := by
  rw [readHeaders]
  split
  · rename_i e h'
    rw [h] at h'
    cases h'
  · rename_i line' rest' h'
    rw [h] at h'
    cases h'
    dsimp only
    split
    · rfl
    · rw [contentLengthOf_eq]

theorem readHeaders_error {contentLength : Int} {r : Bytes} {e : GoError}
    (h : readString 10 r = .error e) : readHeaders contentLength r = .err e := by
  rw [readHeaders]
  split
  · rename_i e' h'
    rw [h] at h'
    cases h'
    rfl
  · rename_i line' rest' h'
    rw [h] at h'
    cases h'

/-- The header loop returns the length it started with, or a read error, and never panics:
by induction on the length of the stream, each line consuming at least its newline. -/
theorem readHeaders_eq (contentLength : Int) (r : Bytes)
    : (∃ e, readHeaders contentLength r = .err e)
      ∨ ∃ rest, readHeaders contentLength r = .ok (contentLength, rest) := by
  obtain ⟨n, hn⟩ : ∃ n, r.length = n := ⟨_, rfl⟩
  induction n using Nat.strong_induction_on generalizing r with
  | _ n ih =>
      rcases hr : readString 10 r with e | ⟨line, rest⟩
      · exact .inl ⟨e, readHeaders_error hr⟩
      · rw [readHeaders_line hr]
        split
        · exact .inr ⟨rest, rfl⟩
        · obtain ⟨rfl, hne⟩ := readString_ok hr
          exact ih rest.length (by simpa [← hn] using List.length_pos.mpr hne) rest rfl

/-- A request line or header: text that is not empty and holds no newline, then CRLF. -/
def HeaderLine (l : Bytes) : Prop := ∃ text, l = text ++ ascii "\r\n" ∧ text ≠ [] ∧ 10 ∉ text

/-- On lines that each end in CRLF, followed by an empty line, the header loop reads exactly
those lines, by induction on them, and keeps the length it started with. -/
theorem readHeaders_lines (contentLength : Int) {lines : List Bytes}
    (hl : ∀ l ∈ lines, HeaderLine l) (rest : Bytes)
    : readHeaders contentLength (lines.flatten ++ ascii "\r\n" ++ rest) = .ok (contentLength, rest) := by
  induction lines with
  | nil =>
      have h : readString 10 (ascii "\r\n" ++ rest) = .ok (ascii "\r\n", rest) := rfl
      rw [List.flatten, List.nil_append, readHeaders_line h, if_pos rfl]
  | cons l ls ih =>
      obtain ⟨text, rfl, hne, hnl⟩ := hl l (List.mem_cons_self _ _)
      have hcrlf : ascii "\r\n" = [13, 10] := rfl
      have h : readString 10 ((text ++ ascii "\r\n") ++ (ls.flatten ++ ascii "\r\n" ++ rest))
          = .ok (text ++ ascii "\r\n", ls.flatten ++ ascii "\r\n" ++ rest) := by
        simpa [hcrlf] using readString_append (show (10 : UInt8) ∉ text ++ [13] by simpa using hnl)
          (ls.flatten ++ ascii "\r\n" ++ rest)
      have hline : text ++ ascii "\r\n" ≠ ascii "\r\n" := fun he =>
        hne (List.append_left_eq_self.mp he)
      rw [show ((text ++ ascii "\r\n") :: ls).flatten ++ ascii "\r\n" ++ rest
          = (text ++ ascii "\r\n") ++ (ls.flatten ++ ascii "\r\n" ++ rest) by simp,
        readHeaders_line h, if_neg hline]
      exact ih (fun l hl' => hl l (List.mem_cons_of_mem _ hl'))

end Reflex
