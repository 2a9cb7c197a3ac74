import Reflex.Morph.Profile
import Reflex.Session.RoundTrip

/-! Morphed writes of `morph.go`: a payload padded or cut to a size the profile samples, then
written as one frame. Sizes up to 65506 decode to the padded payload; the sizes 65507 and
above, which a peer's `PADDING_CTRL` frame can set, overflow the frame's length header.
-/

namespace Reflex

open Go

/-- `Profiles[key]`: the built-in profile of that name, or nil. -/
def profile (key : String) : Option TrafficProfile := profiles.lookup key

/-- `AddPadding(data, targetSize)`: cut to `targetSize` bytes, or pad with the random bytes
`crand.Read` yields, here drawn from `rnd`; a size that is not positive keeps the data. -/
def addPadding (rnd : Nat → UInt8) (data : Bytes) (targetSize : Int) : Bytes :=
  if targetSize ≤ 0 then data
  else if data.length ≥ targetSize then data.take targetSize.toNat
  else data ++ (List.range (targetSize.toNat - data.length)).map rnd

/-- What a `WriteFrameWithMorphing` call leaves: the session, the bytes written, the profile
after its samplings, and the duration slept. -/
structure Morphed where
  session : Session
  written : Bytes
  profile : Option TrafficProfile
  slept : Int

/-- `WriteFrameWithMorphing(session, w, frameType, payload, profile)`, with the random bytes
of the padding and the two draws of the samplings as inputs. -/
def writeFrameWithMorphing (s : Session) (frameType : UInt8) (payload : Bytes)
    (profile : Option TrafficProfile) (rnd : Nat → UInt8) (sizeDraw delayDraw : Float) : Morphed :=
  match profile with
  | none =>
      let w := s.writeFrame frameType payload
      ⟨w.1, w.2, none, 0⟩
  | some p =>
      let target := p.getPacketSize sizeDraw
      let w := s.writeFrame frameType (addPadding rnd payload target.1)
      let d := target.2.getDelay delayDraw
      ⟨w.1, w.2, some d.2, if d.1 > 0 then d.1 else 0⟩

-----------------------------------------------------------------------------------------
-- Padding
-----------------------------------------------------------------------------------------

/-- A positive target gives exactly that many bytes, beginning with the data cut to the
target. -/
theorem addPadding_spec (rnd : Nat → UInt8) (data : Bytes) {targetSize : Int}
    (h : 0 < targetSize)
    : (addPadding rnd data targetSize).length = targetSize.toNat
      ∧ data.take targetSize.toNat <+: addPadding rnd data targetSize := by
  unfold addPadding
  rw [if_neg (by omega)]
  split
  · exact ⟨by simp only [List.length_take]; omega, List.prefix_refl _⟩
  · have hd : data.take targetSize.toNat = data := List.take_of_length_le (by omega)
    refine ⟨by simp only [List.length_append, List.length_map, List.length_range]; omega, ?_⟩
    rw [hd]
    exact List.prefix_append _ _

theorem addPadding_of_nonpos (rnd : Nat → UInt8) (data : Bytes) {targetSize : Int}
    (h : targetSize ≤ 0) : addPadding rnd data targetSize = data := by
  simp [addPadding, h]

-----------------------------------------------------------------------------------------
-- The frame a morphed write puts on the wire
-----------------------------------------------------------------------------------------

/-- With a profile, the bytes written are one frame of the payload padded to the sampled
size, sealed under the session's counter. -/
theorem writeFrameWithMorphing_written (s : Session) (frameType : UInt8) (payload : Bytes)
    (p : TrafficProfile) (rnd : Nat → UInt8) (sizeDraw delayDraw : Float)
    : (writeFrameWithMorphing s frameType payload (some p) rnd sizeDraw delayDraw).written
      = (frameWrites s.aead s.writeNonceCount frameType
          (addPadding rnd payload (p.getPacketSize sizeDraw).1)).flatten := rfl

/-- A positive size override is what the next sampling returns. -/
theorem TrafficProfile.getPacketSize_override {p : TrafficProfile} (h : 0 < p.nextPacketSize)
    (r : Float) : (p.getPacketSize r).1 = p.nextPacketSize := by
  simp [TrafficProfile.getPacketSize, sampleWith, h]

/-- A morphed frame whose sampled size lies in `1 .. 65506` decodes, at any reader of the same
key that accepts its counter, to the payload padded to that size. -/
theorem readFrame_morphed {s r : Session} (ha : s.aead.Correct) (hr : r.aead = s.aead)
    (hc : s.writeNonceCount < 2 ^ 64)
    (hnew : ¬(r.readSeen = true ∧ s.writeNonceCount ≤ r.readNonceCount))
    (p : TrafficProfile) (frameType : UInt8) (payload : Bytes) (rnd : Nat → UInt8)
    (sizeDraw delayDraw : Float) (rest : Bytes)
    (hpos : 0 < (p.getPacketSize sizeDraw).1) (hmax : (p.getPacketSize sizeDraw).1 ≤ 65506)
    : r.readFrame
        ((writeFrameWithMorphing s frameType payload (some p) rnd sizeDraw delayDraw).written ++ rest)
      = (.ok ⟨frameType, addPadding rnd payload (p.getPacketSize sizeDraw).1⟩,
          { r with readSeen := true, readNonceCount := s.writeNonceCount }, rest) := by
  rw [writeFrameWithMorphing_written]
  exact readFrame_frameWrites ha hr hc hnew frameType
    (by rw [(addPadding_spec rnd payload hpos).1]; omega) rest

/-- From every reachable profile, a morphed write whose sampled size is at most 65506 puts one
frame on the wire that a fresh reader of the same key decodes to the payload padded to the
sampled size: exactly that long, and beginning with the payload cut to it. -/
theorem Reachable.morphed_decodes {p : TrafficProfile} (hp : Reachable p) {s : Session}
    (ha : s.aead.Correct) (hc : s.writeNonceCount < 2 ^ 64) (frameType : UInt8) (payload : Bytes)
    (rnd : Nat → UInt8) (sizeDraw delayDraw : Float)
    (hmax : (p.getPacketSize sizeDraw).1 ≤ 65506)
    : ∃ padded, ((Session.fresh s.aead).readFrame
          (writeFrameWithMorphing s frameType payload (some p) rnd sizeDraw delayDraw).written).1
        = .ok ⟨frameType, padded⟩
      ∧ padded.length = (p.getPacketSize sizeDraw).1.toNat
      ∧ payload.take (p.getPacketSize sizeDraw).1.toNat <+: padded := by
  have hpos := (hp.sizeBounded.getPacketSize sizeDraw).1
  have h := @readFrame_morphed s (Session.fresh s.aead) ha rfl hc (by simp [Session.fresh]) p
    frameType payload rnd sizeDraw delayDraw [] hpos hmax
  rw [List.append_nil] at h
  exact ⟨_, congrArg Prod.fst h, addPadding_spec rnd payload hpos⟩

-----------------------------------------------------------------------------------------
-- A peer-set size of 65507
-----------------------------------------------------------------------------------------

/-- A `PADDING_CTRL` frame carrying `FF E3` sets the `http2-api` profile's next size to 65507;
the profile stays reachable, and the morphed frame of an empty payload, padded to 65507
bytes, has a wrapped header that a fresh reader of the same key rejects as too short. Below
that size every reachable profile's morphed frame decodes to its padded payload. -/
theorem morphed_frame_wraps_at_65507
    : (∃ p, applyControlFrame (profile "http2-api") frameTypePaddingCtrl [0xFF, 0xE3] = .ok (some p)
        ∧ Reachable p
        ∧ (p.getPacketSize 0.5).1 = 65507
        ∧ ((Session.fresh Aead.zeroTag).readFrame
            (writeFrameWithMorphing (Session.fresh Aead.zeroTag) frameTypeData [] (some p)
              (fun _ => 0) 0.5 0.5).written).1
          = .err (.new "reflex: frame too short"))
      ∧ ∀ p, Reachable p → ∀ s : Session, s.aead.Correct → s.writeNonceCount < 2 ^ 64
        → ∀ (frameType : UInt8) (payload : Bytes) (rnd : Nat → UInt8) (sizeDraw delayDraw : Float),
          (p.getPacketSize sizeDraw).1 ≤ 65506
          → ∃ padded, ((Session.fresh s.aead).readFrame
                (writeFrameWithMorphing s frameType payload (some p) rnd sizeDraw delayDraw).written).1
              = .ok ⟨frameType, padded⟩
            ∧ padded.length = (p.getPacketSize sizeDraw).1.toNat
            ∧ payload.take (p.getPacketSize sizeDraw).1.toNat <+: padded := by
  refine ⟨?_, fun p hp s ha hc frameType payload rnd sizeDraw delayDraw hmax =>
    hp.morphed_decodes ha hc frameType payload rnd sizeDraw delayDraw hmax⟩
  have hmem : ("http2-api", (profiles.get ⟨2, by decide⟩).2) ∈ profiles :=
    List.mem_cons_of_mem _ (List.mem_cons_of_mem _ (List.mem_singleton_self _))
  have happ : applyControlFrame (profile "http2-api") frameTypePaddingCtrl [0xFF, 0xE3]
      = .ok (some ((profiles.get ⟨2, by decide⟩).2.setNextPacketSize 65507)) := rfl
  have hsize : (((profiles.get ⟨2, by decide⟩).2.setNextPacketSize 65507).getPacketSize 0.5).1
      = 65507 := TrafficProfile.getPacketSize_override (by decide) _
  refine ⟨_, happ, .control _ _ (.builtin hmem) happ, hsize, ?_⟩
  have hlen := (addPadding_spec (fun _ => 0) [] (show (0 : Int) < 65507 by decide)).1
  rw [← hsize] at hlen
  have h := (readFrame_wrapped_header Aead.zeroTag_correct (Session.fresh Aead.zeroTag) 0
    frameTypeData hlen []).2
  rw [List.append_nil] at h
  rw [writeFrameWithMorphing_written]
  exact h

end Reflex
