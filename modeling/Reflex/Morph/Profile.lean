import Reflex.Session.Codec

/-! Traffic profiles of `morph.go`: weighted distributions of packet sizes and delays, the
one-shot overrides, and the control frames that set them. Weights are `float64`; the random
draw of `rand.Float64` is an input of the sampling functions.
-/

namespace Reflex

open Go

/-- `time.Millisecond`, in the nanoseconds of a `time.Duration`. -/
def millisecond : Int := 1000000

structure PacketSizeDist where
  size : Int
  weight : Float

structure DelayDist where
  delay : Int
  weight : Float

/-- The state of a `TrafficProfile`, its mutex apart. -/
structure TrafficProfile where
  name : String
  packetSizes : List PacketSizeDist
  delays : List DelayDist
  nextPacketSize : Int
  nextDelay : Int

/-- The built-in profiles of the `Profiles` map, by key. -/
def profiles : List (String × TrafficProfile) :=
  [("youtube",
    { name := "YouTube"
      packetSizes := [⟨1400, 0.4⟩, ⟨1200, 0.3⟩, ⟨1000, 0.2⟩, ⟨800, 0.1⟩]
      delays := [⟨10 * millisecond, 0.5⟩, ⟨20 * millisecond, 0.3⟩, ⟨30 * millisecond, 0.2⟩]
      nextPacketSize := 0, nextDelay := 0 }),
   ("zoom",
    { name := "Zoom"
      packetSizes := [⟨500, 0.3⟩, ⟨600, 0.4⟩, ⟨700, 0.3⟩]
      delays := [⟨30 * millisecond, 0.4⟩, ⟨40 * millisecond, 0.4⟩, ⟨50 * millisecond, 0.2⟩]
      nextPacketSize := 0, nextDelay := 0 }),
   ("http2-api",
    { name := "HTTP/2 API"
      packetSizes := [⟨200, 0.2⟩, ⟨500, 0.3⟩, ⟨1000, 0.3⟩, ⟨1500, 0.2⟩]
      delays := [⟨5 * millisecond, 0.3⟩, ⟨10 * millisecond, 0.4⟩, ⟨15 * millisecond, 0.3⟩]
      nextPacketSize := 0, nextDelay := 0 })]

-----------------------------------------------------------------------------------------
-- Sampling: one definition for `GetPacketSize` and `GetDelay`
-----------------------------------------------------------------------------------------

/-- The loop of the sampling functions: walk the buckets in order, adding weights, and take
the first whose cumulative weight reaches the draw `r`. -/
def pickBucket (r : Float) : Float → List (Int × Float) → Option Int
  | _, [] => none
  | cumsum, (value, weight) :: rest =>
      if r ≤ cumsum + weight then some value else pickBucket r (cumsum + weight) rest

/-- A sampling function on its override and buckets: the override when positive (then
cleared), else `0` for no buckets, else the bucket the draw picks, the last one when the
weights fall short. Returns the value and the override left. -/
def sampleWith (override : Int) (buckets : List (Int × Float)) (r : Float) : Int × Int :=
  if override > 0 then (override, 0)
  else match buckets.getLast? with
    | none => (0, override)
    | some last => ((pickBucket r 0.0 buckets).getD last.1, override)

/-- `p.GetPacketSize()` with draw `r`: the size and the profile after it. -/
def TrafficProfile.getPacketSize (p : TrafficProfile) (r : Float) : Int × TrafficProfile :=
  let out := sampleWith p.nextPacketSize (p.packetSizes.map (fun d => (d.size, d.weight))) r
  (out.1, { p with nextPacketSize := out.2 })

/-- `p.GetDelay()` with draw `r`: the delay and the profile after it. -/
def TrafficProfile.getDelay (p : TrafficProfile) (r : Float) : Int × TrafficProfile :=
  let out := sampleWith p.nextDelay (p.delays.map (fun d => (d.delay, d.weight))) r
  (out.1, { p with nextDelay := out.2 })

def TrafficProfile.setNextPacketSize (p : TrafficProfile) (size : Int) : TrafficProfile :=
  { p with nextPacketSize := size }

def TrafficProfile.setNextDelay (p : TrafficProfile) (delay : Int) : TrafficProfile :=
  { p with nextDelay := delay }

@[simp] theorem TrafficProfile.getPacketSize_delays (p : TrafficProfile) (r : Float)
    : (p.getPacketSize r).2.delays = p.delays := rfl

@[simp] theorem TrafficProfile.getPacketSize_packetSizes (p : TrafficProfile) (r : Float)
    : (p.getPacketSize r).2.packetSizes = p.packetSizes := rfl

@[simp] theorem TrafficProfile.getPacketSize_nextDelay (p : TrafficProfile) (r : Float)
    : (p.getPacketSize r).2.nextDelay = p.nextDelay := rfl

@[simp] theorem TrafficProfile.getDelay_packetSizes (p : TrafficProfile) (r : Float)
    : (p.getDelay r).2.packetSizes = p.packetSizes := rfl

@[simp] theorem TrafficProfile.getDelay_nextPacketSize (p : TrafficProfile) (r : Float)
    : (p.getDelay r).2.nextPacketSize = p.nextPacketSize := rfl

@[simp] theorem TrafficProfile.setNextPacketSize_packetSizes (p : TrafficProfile) (size : Int)
    : (p.setNextPacketSize size).packetSizes = p.packetSizes := rfl

@[simp] theorem TrafficProfile.setNextPacketSize_nextPacketSize (p : TrafficProfile) (size : Int)
    : (p.setNextPacketSize size).nextPacketSize = size := rfl

@[simp] theorem TrafficProfile.setNextDelay_packetSizes (p : TrafficProfile) (delay : Int)
    : (p.setNextDelay delay).packetSizes = p.packetSizes := rfl

@[simp] theorem TrafficProfile.setNextDelay_nextPacketSize (p : TrafficProfile) (delay : Int)
    : (p.setNextDelay delay).nextPacketSize = p.nextPacketSize := rfl

@[simp] theorem TrafficProfile.getDelay_delays (p : TrafficProfile) (r : Float)
    : (p.getDelay r).2.delays = p.delays := rfl

theorem TrafficProfile.getPacketSize_fst (p : TrafficProfile) (r : Float)
    : (p.getPacketSize r).1
      = (sampleWith p.nextPacketSize (p.packetSizes.map (fun d => (d.size, d.weight))) r).1 := rfl

theorem TrafficProfile.getPacketSize_nextPacketSize (p : TrafficProfile) (r : Float)
    : (p.getPacketSize r).2.nextPacketSize
      = (sampleWith p.nextPacketSize (p.packetSizes.map (fun d => (d.size, d.weight))) r).2 := rfl

theorem TrafficProfile.getDelay_fst (p : TrafficProfile) (r : Float)
    : (p.getDelay r).1 = (sampleWith p.nextDelay (p.delays.map (fun d => (d.delay, d.weight))) r).1 :=
  rfl

@[simp] theorem TrafficProfile.setNextPacketSize_delays (p : TrafficProfile) (size : Int)
    : (p.setNextPacketSize size).delays = p.delays := rfl

@[simp] theorem TrafficProfile.setNextPacketSize_nextDelay (p : TrafficProfile) (size : Int)
    : (p.setNextPacketSize size).nextDelay = p.nextDelay := rfl

@[simp] theorem TrafficProfile.setNextDelay_delays (p : TrafficProfile) (delay : Int)
    : (p.setNextDelay delay).delays = p.delays := rfl

@[simp] theorem TrafficProfile.setNextDelay_nextDelay (p : TrafficProfile) (delay : Int)
    : (p.setNextDelay delay).nextDelay = delay := rfl

/-- The picked bucket is one of the buckets, by induction on the walk. -/
theorem pickBucket_mem {r c : Float} {buckets : List (Int × Float)} {v : Int}
    (h : pickBucket r c buckets = some v) : ∃ w, (v, w) ∈ buckets := by
  induction buckets generalizing c with
  | nil => simp [pickBucket] at h
  | cons b rest ih =>
      obtain ⟨value, weight⟩ := b
      unfold pickBucket at h
      split at h
      · cases h
        exact ⟨weight, List.mem_cons_self _ _⟩
      · obtain ⟨w, hw⟩ := ih h
        exact ⟨w, List.mem_cons_of_mem _ hw⟩

/-- Every sample is the positive override, `0` for no buckets, or the value of a bucket; an
override that is not positive is left as it was. -/
theorem sampleWith_cases (override : Int) (buckets : List (Int × Float)) (r : Float)
    : (0 < override ∧ sampleWith override buckets r = (override, 0))
      ∨ (override ≤ 0 ∧ buckets = [] ∧ sampleWith override buckets r = (0, override))
      ∨ (override ≤ 0 ∧ (sampleWith override buckets r).2 = override
          ∧ ∃ w, ((sampleWith override buckets r).1, w) ∈ buckets) := by
  unfold sampleWith
  by_cases ho : override > 0
  · exact .inl ⟨ho, by simp [ho]⟩
  · simp only [ho, if_false]
    rcases hl : buckets.getLast? with _ | last
    · exact .inr (.inl ⟨by omega, List.getLast?_eq_none_iff.mp hl, rfl⟩)
    · refine .inr (.inr ⟨by omega, rfl, ?_⟩)
      rcases hp : pickBucket r 0.0 buckets with _ | v
      · exact ⟨last.2, by simpa using List.mem_of_getLast?_eq_some hl⟩
      · exact pickBucket_mem hp

/-- With no override, a sampling over some buckets returns the value of one of them. -/
theorem sampleWith_zero_mem {buckets : List (Int × Float)} (hne : buckets ≠ []) (r : Float)
    : (sampleWith 0 buckets r).1 ∈ buckets.map Prod.fst := by
  rcases sampleWith_cases 0 buckets r with ⟨hpos, -⟩ | ⟨-, hnil, -⟩ | ⟨-, -, w, hw⟩
  · omega
  · exact absurd hnil hne
  · exact List.mem_map.mpr ⟨_, hw, rfl⟩

/-- A sampling with no positive override leaves it as it was. -/
theorem sampleWith_snd_of_nonpos {override : Int} (h : override ≤ 0) (buckets : List (Int × Float))
    (r : Float) : (sampleWith override buckets r).2 = override := by
  rw [sampleWith, if_neg (by omega)]
  split <;> rfl

/-- `GetPacketSize` with no positive override leaves the profile as it was. -/
theorem TrafficProfile.getPacketSize_snd_of_nonpos {p : TrafficProfile} (h : p.nextPacketSize ≤ 0)
    (r : Float) : (p.getPacketSize r).2 = p := by
  show { p with nextPacketSize := (sampleWith p.nextPacketSize _ r).2 } = p
  rw [sampleWith_snd_of_nonpos h]

/-- `GetDelay` with no positive override leaves the profile as it was. -/
theorem TrafficProfile.getDelay_snd_of_nonpos {p : TrafficProfile} (h : p.nextDelay ≤ 0) (r : Float)
    : (p.getDelay r).2 = p := by
  show { p with nextDelay := (sampleWith p.nextDelay _ r).2 } = p
  rw [sampleWith_snd_of_nonpos h]

-----------------------------------------------------------------------------------------
-- Control frames
-----------------------------------------------------------------------------------------

/-- `ApplyControlFrame(profile, frameType, payload)`: a `PADDING_CTRL` payload of two bytes or
more sets the next size, a `TIMING_CTRL` payload of eight bytes or more the next delay in
milliseconds; anything else, or a nil profile, changes nothing. It returns no error; an
`.error` is a panic of the decoding. -/
def applyControlFrame (profile : Option TrafficProfile) (frameType : UInt8) (payload : Bytes)
    : Except String (Option TrafficProfile) :=
  match profile with
  | none => .ok none
  | some p =>
      if frameType = frameTypePaddingCtrl then
        if payload.length ≥ 2 then
          match BigEndian.uint16 payload with
          | some size => .ok (some (p.setNextPacketSize size))
          | none => .error "index out of range"
        else .ok (some p)
      else if frameType = frameTypeTimingCtrl then
        if payload.length ≥ 8 then
          match BigEndian.uint64 payload with
          | some ms => .ok (some (p.setNextDelay (toInt64 (toInt64 ms * millisecond))))
          | none => .error "index out of range"
        else .ok (some p)
      else .ok (some p)

@[simp] theorem applyControlFrame_none (frameType : UInt8) (payload : Bytes)
    : applyControlFrame none frameType payload = .ok none := rfl

/-- What a control frame does to a profile: nothing, or it sets the size override to the
payload's first two bytes, or the delay override to its first eight bytes times a millisecond,
both taken as `int64`. It never panics. -/
theorem applyControlFrame_cases (p : TrafficProfile) (frameType : UInt8) (payload : Bytes)
    : applyControlFrame (some p) frameType payload = .ok (some p)
      ∨ (frameType = frameTypePaddingCtrl ∧ 2 ≤ payload.length
          ∧ applyControlFrame (some p) frameType payload
            = .ok (some (p.setNextPacketSize (beValue (payload.take 2)))))
      ∨ (frameType = frameTypeTimingCtrl ∧ 8 ≤ payload.length
          ∧ applyControlFrame (some p) frameType payload
            = .ok (some (p.setNextDelay (toInt64 (toInt64 (beValue (payload.take 8)) * millisecond))))) := by
  by_cases hp : frameType = frameTypePaddingCtrl
  · by_cases hl : 2 ≤ payload.length
    · exact .inr (.inl ⟨hp, hl, by simp [applyControlFrame, hp, hl, BigEndian.uint16, beUint]⟩)
    · exact .inl (by simp [applyControlFrame, hp, hl])
  · by_cases ht : frameType = frameTypeTimingCtrl
    · subst ht
      by_cases hl : 8 ≤ payload.length
      · exact .inr (.inr ⟨rfl, hl, by simp [applyControlFrame, hp, hl, BigEndian.uint64, beUint]⟩)
      · exact .inl (by simp [applyControlFrame, hp, hl])
    · exact .inl (by simp [applyControlFrame, hp, ht])

theorem applyControlFrame_ok (profile : Option TrafficProfile) (frameType : UInt8)
    (payload : Bytes) : ∃ q, applyControlFrame profile frameType payload = .ok q := by
  rcases profile with _ | p
  · exact ⟨none, rfl⟩
  · rcases applyControlFrame_cases p frameType payload with he | ⟨-, -, he⟩ | ⟨-, -, he⟩ <;>
      exact ⟨_, he⟩

-----------------------------------------------------------------------------------------
-- Profiles reachable from the built-in ones
-----------------------------------------------------------------------------------------

/-- The profiles a connection can hold: a built-in one, after any control frames of the peer
and any samplings. -/
inductive Reachable : TrafficProfile → Prop
  | builtin {key : String} {p : TrafficProfile} : (key, p) ∈ profiles → Reachable p
  | control {p p' : TrafficProfile} (frameType : UInt8) (payload : Bytes) : Reachable p
      → applyControlFrame (some p) frameType payload = .ok (some p') → Reachable p'
  | packetSize {p : TrafficProfile} (r : Float) : Reachable p → Reachable (p.getPacketSize r).2
  | delay {p : TrafficProfile} (r : Float) : Reachable p → Reachable (p.getDelay r).2

/-- Sizes a profile can produce lie in `1 .. 65535`: its buckets do, there is one, and the
override lies in `0 .. 65535`. -/
structure TrafficProfile.SizeBounded (p : TrafficProfile) : Prop where
  sizes : ∀ d ∈ p.packetSizes, 0 < d.size ∧ d.size < 65536
  nonempty : p.packetSizes ≠ []
  next : 0 ≤ p.nextPacketSize ∧ p.nextPacketSize < 65536

theorem sizeBounded_builtin {key : String} {p : TrafficProfile} (h : (key, p) ∈ profiles)
    : p.SizeBounded := by
  simp only [profiles, List.mem_cons, Prod.mk.injEq, List.mem_singleton, List.not_mem_nil,
    or_false] at h
  rcases h with ⟨-, rfl⟩ | ⟨-, rfl⟩ | ⟨-, rfl⟩ <;> exact ⟨by decide, by simp, by decide⟩

/-- A bounded profile samples a size in `1 .. 65535`, by the cases of `sampleWith_cases`. -/
theorem TrafficProfile.SizeBounded.getPacketSize {p : TrafficProfile} (h : p.SizeBounded)
    (r : Float) : 0 < (p.getPacketSize r).1 ∧ (p.getPacketSize r).1 < 65536 ∧ (p.getPacketSize r).2.SizeBounded := by
  rcases sampleWith_cases p.nextPacketSize (p.packetSizes.map (fun d => (d.size, d.weight))) r with
    ⟨hpos, he⟩ | ⟨-, hnil, -⟩ | ⟨-, he, w, hw⟩
  · simp only [TrafficProfile.getPacketSize, he]
    exact ⟨hpos, h.next.2, h.sizes, h.nonempty, by simp⟩
  · exact absurd (List.map_eq_nil_iff.mp hnil) h.nonempty
  · obtain ⟨d, hd, hdw⟩ := List.mem_map.mp hw
    simp only [Prod.mk.injEq] at hdw
    simp only [TrafficProfile.getPacketSize, he, ← hdw.1]
    exact ⟨(h.sizes d hd).1, (h.sizes d hd).2, h.sizes, h.nonempty, h.next⟩

/-- The bound reads the buckets and the size override only. -/
theorem TrafficProfile.SizeBounded.of_eq {p q : TrafficProfile} (h : p.SizeBounded)
    (hs : q.packetSizes = p.packetSizes) (hn : q.nextPacketSize = p.nextPacketSize)
    : q.SizeBounded :=
  ⟨hs ▸ h.sizes, hs ▸ h.nonempty, hn ▸ h.next⟩

/-- Control frames and samplings keep the bound, so every reachable profile samples sizes in
`1 .. 65535`, by induction on how the profile was reached. -/
theorem Reachable.sizeBounded {p : TrafficProfile} (h : Reachable p) : p.SizeBounded := by
  induction h with
  | builtin hk => exact sizeBounded_builtin hk
  | control frameType payload _ happ ih =>
      rcases applyControlFrame_cases _ frameType payload with he | ⟨-, -, he⟩ | ⟨-, -, he⟩ <;>
        rw [he] at happ <;> cases happ
      · exact ih
      · have hv : beValue (payload.take 2) < 65536 := lt_of_lt_of_le (beValue_lt _)
          (le_trans (Nat.pow_le_pow_right (by decide) (List.length_take_le _ _)) (by decide))
        refine ⟨by simpa using ih.sizes, by simpa using ih.nonempty, ?_⟩
        simp only [TrafficProfile.setNextPacketSize_nextPacketSize]
        omega
      · exact ih.of_eq (TrafficProfile.setNextDelay_packetSizes _ _)
          (TrafficProfile.setNextDelay_nextPacketSize _ _)
  | packetSize r _ ih => exact (ih.getPacketSize r).2.2
  | delay r _ ih => exact ih.of_eq rfl rfl

end Reflex
