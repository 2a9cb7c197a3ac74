import Reflex.Inbound.Network
import Reflex.Inbound.Process
import Reflex.Morph.Overrides

/-! The session loop as the application sees it: a machine over decoded frames that answers
each DATA frame with the dispatcher's answer, padded as the shared profile says after the
other connections' calls, and lets control frames set the profile's overrides. Over an honest
client's stream the byte-level loop of `handleSession` computes exactly this machine's answers
and writes them as frames under consecutive counters, which the client reads back; over any
stream at all it writes nothing but whole DATA frames.
-/

namespace Reflex

open Go

/-- The payload a morphed write puts in its frame and the profile it leaves, the frame
itself apart. -/
def morphPayload (payload : Bytes) (profile : Option TrafficProfile) (rnd : Nat → UInt8)
    (sizeDraw delayDraw : Float) : Bytes × Option TrafficProfile :=
  match profile with
  | none => (payload, none)
  | some p =>
      let target := p.getPacketSize sizeDraw
      (addPadding rnd payload target.1, some (target.2.getDelay delayDraw).2)

/-- What the session loop does with one accepted frame, the framing apart: the profile and
the count of DATA frames after it, and the payload of the answer it writes back, if any. A
control frame never fails (`applyControlFrame_ok`), so the error case, where the loop would
panic, is never taken. -/
def serveFrame (env : Env) (profile : Option TrafficProfile) (n : Nat) (frame : Frame)
    : Option TrafficProfile × Nat × Option Bytes :=
  if frame.type = frameTypeData then
    match env.dispatcher with
    | none => (profile, n, none)
    | some dispatch =>
        match dispatch n frame.payload with
        | none => (profile, n + 1, none)
        | some data =>
            let m := morphPayload data profile (env.padding n) (env.draws n).1 (env.draws n).2
            (m.2, n + 1, some m.1)
  else if frame.type = frameTypePaddingCtrl ∨ frame.type = frameTypeTimingCtrl then
    match applyControlFrame profile frame.type frame.payload with
    | .ok q => (q, n, none)
    | .error _ => (profile, n, none)
  else (profile, n, none)

/-- The answers of a session to the frames it accepts, in order, each frame with the stream
left at it, at which the other connections' calls on the shared profile come in. -/
def serve (env : Env) : Option TrafficProfile → Nat → List (Bytes × Frame) → List Bytes
  | _, _, [] => []
  | profile, n, (r, frame) :: frames =>
      let step := serveFrame env (env.profileAt r profile) n frame
      step.2.2.toList ++ serve env step.1 step.2.1 frames

/-- The frames a client writes, each with the stream from its first byte on: what the session
loop has left to read when it reaches the frame. -/
def Session.framesFrom (client : Session) : List (UInt8 × Bytes) → List (Bytes × Frame)
  | [] => []
  | (ty, payload) :: rest =>
      ((client.writeFrames ((ty, payload) :: rest)).2, ⟨ty, payload⟩)
        :: (client.writeFrame ty payload).1.framesFrom rest

-----------------------------------------------------------------------------------------
-- One frame of the loop
-----------------------------------------------------------------------------------------

/-- The loop at the end of the stream returns nil, having written nothing. -/
theorem handleSession_nil (env : Env) (s : Session) (profile : Option TrafficProfile) (n : Nat)
    : handleSession env s profile n [] = ⟨.returned none, [], false⟩ :=
  handleSession_of_err env (rfl : s.readFrame [] = (.err .eof, s, [])) profile n

/-- An accepted frame makes the loop take the step of `serveFrame` on the profile the other
connections left: go on with the rest of the stream, after writing the answer as one frame
when there is one. -/
theorem handleSession_step (env : Env) {s s' : Session} {r rest : Bytes} {frame : Frame}
    (h : s.readFrame r = (.ok frame, s', rest)) (profile : Option TrafficProfile) (n : Nat)
    : handleSession env s profile n r
      = match serveFrame env (env.profileAt r profile) n frame with
        | (q, k, none) => handleSession env s' q k rest
        | (q, k, some reply) =>
            (handleSession env (s'.writeFrame frameTypeData reply).1 q k rest).after
              (s'.writeFrame frameTypeData reply).2 := by
  rw [handleSession]
  split <;> rename_i h' <;> rw [h] at h'
  · obtain ⟨⟨⟩, ⟨⟩, ⟨⟩⟩ := h'
    unfold serveFrame
    by_cases hd : frame.type = frameTypeData
    · rw [if_pos hd, if_pos hd]
      rcases env.dispatcher with _ | dispatch
      · rfl
      · dsimp only
        rcases dispatch n frame.payload with _ | data
        · rfl
        · cases env.profileAt r profile <;> rfl
    · rw [if_neg hd, if_neg hd]
      by_cases hc : frame.type = frameTypePaddingCtrl ∨ frame.type = frameTypeTimingCtrl
      · rw [if_pos hc, if_pos hc]
        obtain ⟨q, hq⟩ := applyControlFrame_ok (env.profileAt r profile) frame.type frame.payload
        rw [hq]
      · rw [if_neg hc, if_neg hc]
  all_goals cases h'

/-- The frames a session writes depend on its key and its write counter only. -/
theorem writeFrames_snd_congr (s t : Session) (ha : s.aead = t.aead)
    (hw : s.writeNonceCount = t.writeNonceCount) (frames : List (UInt8 × Bytes))
    : (s.writeFrames frames).2 = (t.writeFrames frames).2 := by
  induction frames generalizing s t with
  | nil => rfl
  | cons f frames ih =>
      show (frameWrites s.aead s.writeNonceCount f.1 f.2).flatten
          ++ (({ s with writeNonceCount := (s.writeNonceCount + 1) % 2 ^ 64 } : Session).writeFrames frames).2
        = (frameWrites t.aead t.writeNonceCount f.1 f.2).flatten
          ++ (({ t with writeNonceCount := (t.writeNonceCount + 1) % 2 ^ 64 } : Session).writeFrames frames).2
      rw [ha, hw]
      exact congrArg _ (ih _ _ rfl rfl)

/-- Reading a frame leaves the frames a session would write as they were. -/
theorem readFrame_writeFrames {s s' : Session} {r rest : Bytes} {frame : Frame}
    (h : s.readFrame r = (.ok frame, s', rest)) (frames : List (UInt8 × Bytes))
    : (s'.writeFrames frames).2 = (s.writeFrames frames).2 := by
  obtain ⟨-, rfl, -⟩ := readFrame_ok_session h
  refine writeFrames_snd_congr _ _ ?_ ?_ frames <;> rfl

-----------------------------------------------------------------------------------------
-- Whole sessions
-----------------------------------------------------------------------------------------

/-- Whatever stream a client sends, the session loop writes nothing but whole DATA frames,
sealed under the session's consecutive write counters from its first one: by induction on the
length of the stream, one `serveFrame` step at a time. -/
theorem handleSession_writes_frames (env : Env) (s : Session) (profile : Option TrafficProfile)
    (n : Nat) (r : Bytes)
    : ∃ replies : List Bytes, (handleSession env s profile n r).written
        = (s.writeFrames (replies.map fun p => (frameTypeData, p))).2 := by
  obtain ⟨len, hlen⟩ : ∃ len, r.length = len := ⟨_, rfl⟩
  induction len using Nat.strong_induction_on generalizing s profile n r with
  | _ len ih =>
      rcases hr : s.readFrame r with ⟨_ | e | what, s', rest⟩
      · rename_i frame
        have hlt : rest.length < len := hlen ▸ readFrame_ok_shorter hr
        rw [handleSession_step env hr]
        rcases serveFrame env (env.profileAt r profile) n frame with ⟨q, k, _ | reply⟩
        · obtain ⟨replies, h⟩ := ih _ hlt s' q k rest rfl
          exact ⟨replies, h.trans (readFrame_writeFrames hr _)⟩
        · obtain ⟨replies, h⟩ := ih _ hlt (s'.writeFrame frameTypeData reply).1 q k rest rfl
          refine ⟨reply :: replies, ?_⟩
          show (s'.writeFrame frameTypeData reply).2 ++ _ = (s.writeFrame frameTypeData reply).2 ++ _
          obtain ⟨-, rfl, -⟩ := readFrame_ok_session hr
          rw [h]
          refine congrArg _ (writeFrames_snd_congr _ _ ?_ ?_ _) <;> rfl
      · rw [handleSession_of_err env hr]
        exact ⟨[], rfl⟩
      · exact absurd (congrArg Prod.fst hr) (readFrame_not_panic s r what)

/-- Over the stream of an honest client, frames of at most 65506 bytes written under the
session's key with counters above the last one it accepted, the session loop returns nil and
writes exactly the answers of `serve` to the client's frames, as frames under its own
consecutive write counters: by induction on the client's frames, one `serveFrame` step per
frame, on the profile the other connections left at that frame. -/
theorem handleSession_serve {env : Env} {a : Aead} (ha : a.Correct)
    (frames : List (UInt8 × Bytes)) (hsize : ∀ f ∈ frames, f.2.length ≤ 65506)
    (client s : Session) (hc : client.aead = a) (hs : s.aead = a)
    (hcount : client.writeNonceCount + frames.length ≤ 2 ^ 64)
    (hahead : s.readSeen = true → s.readNonceCount < client.writeNonceCount)
    (profile : Option TrafficProfile) (n : Nat)
    : handleSession env s profile n (client.writeFrames frames).2
      = ⟨.returned none,
          (s.writeFrames ((serve env profile n (client.framesFrom frames)).map
            fun p => (frameTypeData, p))).2, false⟩ := by
  induction frames generalizing client s profile n with
  | nil => exact handleSession_nil env s profile n
  | cons f rest ih =>
      obtain ⟨ty, payload⟩ := f
      simp only [List.length_cons] at hcount
      have hc0 : client.writeNonceCount < 2 ^ 64 := by omega
      have hnew : ¬(s.readSeen = true ∧ client.writeNonceCount ≤ s.readNonceCount) := fun h =>
        absurd (hahead h.1) (by omega)
      let client' : Session := { client with writeNonceCount := (client.writeNonceCount + 1) % 2 ^ 64 }
      have hread := readFrame_frameWrites ha hs hc0 hnew ty
        (hsize (ty, payload) (List.mem_cons_self _ _)) (client'.writeFrames rest).2
      have hstream : (client.writeFrames ((ty, payload) :: rest)).2
          = (frameWrites a client.writeNonceCount ty payload).flatten ++ (client'.writeFrames rest).2 := by
        rw [← hc]
        rfl
      have hnext : ∀ q k (s'' : Session), s''.aead = a → s''.readSeen = true
          → s''.readNonceCount = client.writeNonceCount
          → handleSession env s'' q k (client'.writeFrames rest).2
            = ⟨.returned none, (s''.writeFrames ((serve env q k (client'.framesFrom rest)).map
                fun p => (frameTypeData, p))).2, false⟩ := by
        intro q k s'' hs'' _ hr''
        by_cases hrest : rest = []
        · subst hrest
          exact handleSession_nil env s'' q k
        have hpos : 0 < rest.length := List.length_pos.mpr hrest
        exact ih (fun f hf => hsize f (List.mem_cons_of_mem _ hf)) client' s'' hc hs''
          (by show (client.writeNonceCount + 1) % 2 ^ 64 + rest.length ≤ 2 ^ 64; omega)
          (fun _ => by show s''.readNonceCount < (client.writeNonceCount + 1) % 2 ^ 64; omega) q k
      rw [← hstream] at hread
      rw [handleSession_step env hread, Session.framesFrom, serve]
      rcases serveFrame env (env.profileAt (client.writeFrames ((ty, payload) :: rest)).2 profile) n
        ⟨ty, payload⟩ with ⟨q, k, _ | reply⟩ <;> dsimp only
      · rw [hnext q k { s with readSeen := true, readNonceCount := client.writeNonceCount } hs rfl rfl]
        exact congrArg (fun w => Outcome.mk _ w _) (readFrame_writeFrames hread _)
      · rw [hnext q k (Session.writeFrame { s with readSeen := true, readNonceCount := client.writeNonceCount }
          frameTypeData reply).1 hs rfl rfl]
        refine congrArg (fun w => Outcome.mk _ ((s.writeFrame frameTypeData reply).2 ++ w) _)
          (writeFrames_snd_congr _ _ ?_ ?_ _) <;> rfl

-----------------------------------------------------------------------------------------
-- How long the answers are
-----------------------------------------------------------------------------------------

/-- The answers a profile shapes have at most `B` bytes when its buckets and its size
override are at most `B`. -/
def ReplyBound (B : Nat) (profile : Option TrafficProfile) : Prop :=
  ∀ p ∈ profile, (∀ d ∈ p.packetSizes, d.size ≤ B) ∧ p.nextPacketSize ≤ B

instance (B : Nat) (profile : Option TrafficProfile) : Decidable (ReplyBound B profile) :=
  inferInstanceAs (Decidable (∀ p ∈ profile, (∀ d ∈ p.packetSizes, d.size ≤ B) ∧ p.nextPacketSize ≤ B))

/-- A sampled size is the override, a bucket's size or zero, so at most their bound. -/
theorem getPacketSize_le {B : Nat} {p : TrafficProfile} (hb : ReplyBound B (some p)) (r : Float)
    : (p.getPacketSize r).1 ≤ B := by
  obtain ⟨hsizes, hnext⟩ := hb p rfl
  rw [TrafficProfile.getPacketSize_fst]
  rcases sampleWith_cases p.nextPacketSize (p.packetSizes.map fun d => (d.size, d.weight)) r with
    ⟨-, he⟩ | ⟨-, -, he⟩ | ⟨-, -, w, hw⟩
  · rw [he]
    exact hnext
  · rw [he]
    exact Int.natCast_nonneg B
  · obtain ⟨d, hd, hdw⟩ := List.mem_map.mp hw
    rw [← (Prod.mk.inj hdw).1]
    exact hsizes d hd

/-- A morphed answer to data of at most `B` bytes has at most `B` bytes, and the samplings
keep the bound of the profile. -/
theorem morphPayload_bound {B : Nat} {profile : Option TrafficProfile} (hb : ReplyBound B profile)
    {data : Bytes} (hd : data.length ≤ B) (rnd : Nat → UInt8) (sizeDraw delayDraw : Float)
    : (morphPayload data profile rnd sizeDraw delayDraw).1.length ≤ B
      ∧ ReplyBound B (morphPayload data profile rnd sizeDraw delayDraw).2 := by
  rcases profile with _ | p
  · exact ⟨hd, fun _ h => nomatch h⟩
  obtain ⟨hsizes, -⟩ := hb p rfl
  have ht := getPacketSize_le hb sizeDraw
  refine ⟨?_, ?_⟩
  · show (addPadding rnd data (p.getPacketSize sizeDraw).1).length ≤ B
    by_cases hpos : 0 < (p.getPacketSize sizeDraw).1
    · rw [(addPadding_spec rnd data hpos).1]
      omega
    · rw [addPadding_of_nonpos rnd data (by omega)]
      exact hd
  · rintro _ ⟨⟩
    have hcleared := max_sampleWith_snd p.nextPacketSize (p.packetSizes.map fun d => (d.size, d.weight))
      sizeDraw
    refine ⟨?_, ?_⟩
    · rw [TrafficProfile.getDelay_packetSizes, TrafficProfile.getPacketSize_packetSizes]
      exact hsizes
    · rw [TrafficProfile.getDelay_nextPacketSize, TrafficProfile.getPacketSize_nextPacketSize]
      omega

/-- A control frame keeps the bound when a `PADDING_CTRL` frame asks for at most `B`. -/
theorem applyControlFrame_bound {B : Nat} {profile q : Option TrafficProfile}
    (hb : ReplyBound B profile) {frameType : UInt8} {payload : Bytes}
    (h : applyControlFrame profile frameType payload = .ok q)
    (hpad : frameType = frameTypePaddingCtrl → 2 ≤ payload.length → beValue (payload.take 2) ≤ B)
    : ReplyBound B q := by
  rcases profile with _ | p
  · rw [applyControlFrame_none] at h
    cases h
    exact fun _ h => nomatch h
  obtain ⟨hsizes, hnext⟩ := hb p rfl
  rcases applyControlFrame_cases p frameType payload with he | ⟨hty, hl, he⟩ | ⟨-, -, he⟩ <;>
    rw [he] at h <;> cases h
  · exact hb
  · rintro _ ⟨⟩
    refine ⟨(TrafficProfile.setNextPacketSize_packetSizes _ _).symm ▸ hsizes, ?_⟩
    rw [TrafficProfile.setNextPacketSize_nextPacketSize]
    exact_mod_cast hpad hty hl
  · rintro _ ⟨⟩
    exact ⟨(TrafficProfile.setNextDelay_packetSizes _ _).symm ▸ hsizes,
      (TrafficProfile.setNextDelay_nextPacketSize _ _).symm ▸ hnext⟩

/-- A call whose size override is at most `B` keeps the bound: it keeps the buckets, and
leaves the override at what it sets, at zero, or as it was (`overrideStep_size`). -/
theorem ReplyBound.call {B : Nat} {p : TrafficProfile} (hb : ReplyBound B (some p))
    {c : ProfileCall} (hc : ∀ v, c.sizeSet = some v → v ≤ B) : ReplyBound B (some (p.call c)) := by
  obtain ⟨hsizes, hnext⟩ := hb p rfl
  rintro _ ⟨⟩
  refine ⟨(p.call_packetSizes c).symm ▸ hsizes, ?_⟩
  have hB : (0 : Int) ≤ B := Int.natCast_nonneg B
  have hmax : max (p.call c).nextPacketSize 0 ≤ B := by
    rw [overrideStep_size p c]
    split
    · exact max_le (hc _ ‹_›) hB
    · split
      · exact hB
      · exact max_le hnext hB
  exact (le_max_left _ _).trans hmax

/-- So does a run of such calls, by induction on the calls. -/
theorem ReplyBound.calls {B : Nat} {p : TrafficProfile} (hb : ReplyBound B (some p))
    {cs : List ProfileCall} (hcs : ∀ c ∈ cs, ∀ v, c.sizeSet = some v → v ≤ B)
    : ReplyBound B (some (p.calls cs)) := by
  induction cs generalizing p with
  | nil => exact hb
  | cons c cs ih =>
      exact ih (hb.call (hcs c (List.mem_cons_self _ _))) fun d hd => hcs d (List.mem_cons_of_mem _ hd)

section Bound

variable {B : Nat} {env : Env}
  (hdata : ∀ dispatch ∈ env.dispatcher, ∀ k payload data, dispatch k payload = some data → data.length ≤ B)
  (hothers : ∀ r, ∀ c ∈ env.others r, ∀ v, c.sizeSet = some v → v ≤ B)

include hothers in
/-- Other connections whose size overrides are at most `B` keep the bound. -/
theorem ReplyBound.profileAt {profile : Option TrafficProfile} (hb : ReplyBound B profile) (r : Bytes)
    : ReplyBound B (env.profileAt r profile) := by
  rcases profile with _ | p
  · exact fun _ h => nomatch h
  · exact hb.calls (hothers r)

include hdata

/-- One frame keeps the bound and answers with at most `B` bytes. -/
theorem serveFrame_bound {profile : Option TrafficProfile} (hb : ReplyBound B profile) (n : Nat)
    {frame : Frame}
    (hpad : frame.type = frameTypePaddingCtrl → 2 ≤ frame.payload.length
      → beValue (frame.payload.take 2) ≤ B)
    : ReplyBound B (serveFrame env profile n frame).1
      ∧ ∀ p ∈ (serveFrame env profile n frame).2.2, p.length ≤ B := by
  unfold serveFrame
  by_cases hd : frame.type = frameTypeData
  · rw [if_pos hd]
    rcases hdisp : env.dispatcher with _ | dispatch
    · exact ⟨hb, fun _ h => nomatch h⟩
    dsimp only
    rcases hans : dispatch n frame.payload with _ | data
    · exact ⟨hb, fun _ h => nomatch h⟩
    dsimp only
    have hm := morphPayload_bound hb (hdata dispatch hdisp n frame.payload data hans) (env.padding n)
      (env.draws n).1 (env.draws n).2
    exact ⟨hm.2, fun p hp => (Option.mem_some_iff.mp hp) ▸ hm.1⟩
  · rw [if_neg hd]
    split_ifs
    · obtain ⟨q, hq⟩ := applyControlFrame_ok profile frame.type frame.payload
      rw [hq]
      exact ⟨applyControlFrame_bound hb hq hpad, fun _ h => nomatch h⟩
    · exact ⟨hb, fun _ h => nomatch h⟩

include hothers

/-- Over a whole session, from a profile within the bound, whose `PADDING_CTRL` frames and
whose other connections ask for at most `B` bytes and whose upstream answers with at most
`B`, every answer has at most `B` bytes: by induction on the frames, the bound carried by the
profile. -/
theorem serve_bound (frames : List (Bytes × Frame))
    (hpad : ∀ f ∈ frames, f.2.type = frameTypePaddingCtrl → 2 ≤ f.2.payload.length
      → beValue (f.2.payload.take 2) ≤ B)
    {profile : Option TrafficProfile} (hb : ReplyBound B profile) (n : Nat)
    : ∀ p ∈ serve env profile n frames, p.length ≤ B := by
  induction frames generalizing profile n with
  | nil => exact fun _ h => nomatch h
  | cons f frames ih =>
      have hstep := serveFrame_bound hdata (hb.profileAt hothers f.1) n (hpad f (List.mem_cons_self _ _))
      intro p hp
      rcases List.mem_append.mp hp with hp | hp
      · exact hstep.2 p (Option.mem_toList.mp hp)
      · exact ih (fun g hg => hpad g (List.mem_cons_of_mem _ hg)) hstep.1 _ p hp

end Bound

/-- A session answers each frame at most once. -/
theorem serve_length_le (env : Env) (frames : List (Bytes × Frame)) (profile : Option TrafficProfile)
    (n : Nat) : (serve env profile n frames).length ≤ frames.length := by
  induction frames generalizing profile n with
  | nil => exact Nat.le_refl 0
  | cons f frames ih =>
      have hrest := ih (serveFrame env (env.profileAt f.1 profile) n f.2).1
        (serveFrame env (env.profileAt f.1 profile) n f.2).2.1
      have hone : (serveFrame env (env.profileAt f.1 profile) n f.2).2.2.toList.length ≤ 1 := by
        cases (serveFrame env (env.profileAt f.1 profile) n f.2).2.2 <;> simp
      rw [serve, List.length_append, List.length_cons]
      omega

/-- The frames of a client's stream are its frames, in order. -/
theorem Session.framesFrom_snd (client : Session) (frames : List (UInt8 × Bytes))
    : (client.framesFrom frames).map Prod.snd = frames.map fun f => ⟨f.1, f.2⟩ := by
  induction frames generalizing client with
  | nil => rfl
  | cons f frames ih => exact congrArg _ (ih _)

-----------------------------------------------------------------------------------------
-- An honest client, end to end
-----------------------------------------------------------------------------------------

/-- A client that sends a fresh magic handshake naming a configured user, then frames of at
most 65506 bytes under the key the server derives, gets the 200 answer followed by the
answers of `serve` to its frames, on the shared profile as the other connections leave it at
each frame, sealed under the server's counters from zero, and `Process` returns nil. When the
default profile, the other connections, the upstream and the client's `PADDING_CTRL` frames
keep every answer within 65506 bytes, the client reads all of them back, in order, and then
EOF. -/
theorem honest_client_served (h : Handler) (env : Env) (hs : ClientHandshake)
    (hp : hs.policyReq.length < 65536)
    (hfresh : toInt64 (env.now - 300) ≤ hs.timestamp ∧ hs.timestamp ≤ toInt64 (env.now + 300))
    {priv : Bytes} (hpriv : env.serverPriv = .ok priv) {id : String}
    (hauth : authenticateUser h.clients hs.userID = .ok id)
    (ha : (env.aead (deriveSessionKey env (env.scalarMult priv hs.publicKey) hs.nonce)).Correct)
    (client : Session)
    (hkey : client.aead = env.aead (deriveSessionKey env (env.scalarMult priv hs.publicKey) hs.nonce))
    (frames : List (UInt8 × Bytes)) (hsize : ∀ f ∈ frames, f.2.length ≤ 65506)
    (hcount : client.writeNonceCount + frames.length ≤ 2 ^ 64)
    : let server := Session.fresh (env.aead (deriveSessionKey env (env.scalarMult priv hs.publicKey) hs.nonce))
      let replies := serve env h.defaultProfile 0 (client.framesFrom frames)
      h.process env (hs.magicPacket ++ (client.writeFrames frames).2)
        = ⟨.returned none, okResponse (marshalServerHandshake (env.scalarBaseMult priv))
            ++ (server.writeFrames (replies.map fun p => (frameTypeData, p))).2, false⟩
      ∧ (ReplyBound 65506 h.defaultProfile
          → (∀ r, ∀ c ∈ env.others r, ∀ v, c.sizeSet = some v → v ≤ 65506)
          → (∀ dispatch ∈ env.dispatcher, ∀ k payload data, dispatch k payload = some data
              → data.length ≤ 65506)
          → (∀ f ∈ frames, f.1 = frameTypePaddingCtrl → 2 ≤ f.2.length → beValue (f.2.take 2) ≤ 65506)
          → ∀ reader : Session, reader.aead = server.aead → reader.readSeen = false
          → reader.readAll (server.writeFrames (replies.map fun p => (frameTypeData, p))).2
            = (replies.map fun p => ⟨frameTypeData, p⟩, .err .eof)) := by
  intro server replies
  refine ⟨?_, fun hprof hothers hdata hpad reader hr hseen => ?_⟩
  · rw [(process_magicPacket h env hs hp _).2, processHandshake_accept h env hs _ hfresh hpriv hauth,
      handleSession_serve ha frames hsize client server hkey rfl hcount (fun h => nomatch h)]
    rfl
  have hbound := serve_bound hdata hothers (client.framesFrom frames) (fun f hf => by
    have hmem : f.2 ∈ (client.framesFrom frames).map Prod.snd := List.mem_map_of_mem _ hf
    rw [Session.framesFrom_snd] at hmem
    obtain ⟨g, hg, hfg⟩ := List.mem_map.mp hmem
    rw [← hfg]
    exact hpad g hg) hprof 0
  have hlen : replies.length ≤ frames.length := by
    have := serve_length_le env (client.framesFrom frames) h.defaultProfile 0
    rwa [← List.length_map _ Prod.snd, Session.framesFrom_snd, List.length_map] at this
  have hread := readAll_writeFrames ha (replies.map fun p => (frameTypeData, p))
    (fun f hf => by
      obtain ⟨p, hp, rfl⟩ := List.mem_map.mp hf
      exact hbound p hp)
    server reader rfl hr (by show 0 + (replies.map _).length ≤ 2 ^ 64; rw [List.length_map]; omega)
    (fun h => absurd h (by rw [hseen]; decide))
  rw [hread, List.map_map]
  rfl

/-- An environment like `Env.quiet` whose upstream answers every DATA payload with the bytes
`7 7`, and in which another connection sets the shared profile's next size to 100 before
every frame. -/
def Env.busy : Env :=
  { Env.quiet with dispatcher := some fun _ _ => some [7, 7], others := fun _ => [.setNextPacketSize 100] }

/-- The run of the zero record's client, configured at the handler `New` builds for it,
sending one DATA frame, the clock at zero, read back by a fresh session of the server's key:
the upstream's answer comes back padded to the size the other connection set. -/
theorem honest_client_served_zero
    : let h := newHandler [uuidString ClientHandshake.zero.userID] none
      let frames : List (UInt8 × Bytes) := [(frameTypeData, [1])]
      let client := Session.fresh Aead.zeroTag
      let priv : Bytes := List.replicate 32 0
      let server := Session.fresh (Env.busy.aead (deriveSessionKey Env.busy
        (Env.busy.scalarMult priv ClientHandshake.zero.publicKey) ClientHandshake.zero.nonce))
      let replies := serve Env.busy h.defaultProfile 0 (client.framesFrom frames)
      authenticateUser h.clients ClientHandshake.zero.userID = .ok (uuidString ClientHandshake.zero.userID)
      ∧ ReplyBound 65506 h.defaultProfile
      ∧ replies = [addPadding (Env.busy.padding 0) [7, 7] 100]
      ∧ h.process Env.busy (ClientHandshake.zero.magicPacket ++ (client.writeFrames frames).2)
          = ⟨.returned none, okResponse (marshalServerHandshake (Env.busy.scalarBaseMult priv))
              ++ (server.writeFrames (replies.map fun p => (frameTypeData, p))).2, false⟩
      ∧ server.readAll (server.writeFrames (replies.map fun p => (frameTypeData, p))).2
          = (replies.map fun p => ⟨frameTypeData, p⟩, .err .eof) :=
  have hbound : ReplyBound 65506 (newHandler [uuidString ClientHandshake.zero.userID] none).defaultProfile :=
    show ReplyBound 65506 (profile "http2-api") by decide
  have hserved := honest_client_served (newHandler [uuidString ClientHandshake.zero.userID] none)
    Env.busy ClientHandshake.zero (by decide) (by decide) rfl rfl Aead.zeroTag_correct _ rfl
    [(frameTypeData, [1])] (by decide) (by decide)
  ⟨rfl, hbound, rfl, hserved.1,
    hserved.2 hbound (fun _ c hc v hv => by
        obtain rfl : c = .setNextPacketSize 100 := List.mem_singleton.mp hc
        obtain rfl : v = 100 := (Option.some_inj.mp hv).symm
        decide)
      (fun _ hd _ _ _ ha => by
        obtain rfl := Option.mem_some_iff.mp hd
        obtain rfl := (Option.some_inj.mp ha).symm
        decide)
      (by decide) _ rfl rfl⟩

end Reflex
