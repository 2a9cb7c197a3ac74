import Reflex.Morph.Profile

/-! Sequences of calls on one traffic profile: the two setters, control frames and the two
samplings, each made under the profile's mutex and so one atomic step. What a sampling
returns is read off the calls alone: the override set most recently since the previous
sampling of its kind when that is positive, a bucket of the distribution otherwise. The size
side and the delay side never see each other's calls.
-/

namespace Reflex

open Go

/-- The calls a `TrafficProfile` receives; a sampling carries its draw of `rand.Float64`. -/
inductive ProfileCall where
  | setNextPacketSize (size : Int)
  | setNextDelay (delay : Int)
  | applyControlFrame (frameType : UInt8) (payload : Bytes)
  | getPacketSize (r : Float)
  | getDelay (r : Float)

/-- The profile after one call. `ApplyControlFrame` on a profile never fails
(`applyControlFrame_ok`), so the last case of its match is never taken. -/
def TrafficProfile.call (p : TrafficProfile) : ProfileCall → TrafficProfile
  | .setNextPacketSize size => p.setNextPacketSize size
  | .setNextDelay delay => p.setNextDelay delay
  | .applyControlFrame frameType payload =>
      match applyControlFrame (some p) frameType payload with
      | .ok (some q) => q
      | _ => p
  | .getPacketSize r => (p.getPacketSize r).2
  | .getDelay r => (p.getDelay r).2

/-- The profile after a sequence of calls, the first call first. -/
def TrafficProfile.calls (p : TrafficProfile) (cs : List ProfileCall) : TrafficProfile :=
  cs.foldl TrafficProfile.call p

@[simp] theorem TrafficProfile.calls_append_singleton (p : TrafficProfile) (cs : List ProfileCall)
    (c : ProfileCall) : p.calls (cs ++ [c]) = (p.calls cs).call c := by
  simp only [TrafficProfile.calls, List.foldl_append, List.foldl_cons, List.foldl_nil]

/-- A control frame on a profile is the setter it amounts to: the size override from a
`PADDING_CTRL` payload of two bytes or more, the delay override from a `TIMING_CTRL` payload of
eight bytes or more, nothing otherwise. -/
theorem TrafficProfile.call_applyControlFrame (p : TrafficProfile) (frameType : UInt8)
    (payload : Bytes)
    : p.call (.applyControlFrame frameType payload)
      = if frameType = frameTypePaddingCtrl ∧ 2 ≤ payload.length then
          p.setNextPacketSize (beValue (payload.take 2))
        else if frameType = frameTypeTimingCtrl ∧ 8 ≤ payload.length then
          p.setNextDelay (toInt64 (toInt64 (beValue (payload.take 8)) * millisecond))
        else p := by
  simp only [TrafficProfile.call, applyControlFrame]
  by_cases hp : frameType = frameTypePaddingCtrl
  · subst hp
    by_cases hl : 2 ≤ payload.length
    · simp [hl, BigEndian.uint16, beUint]
    · simp [hl, frameTypePaddingCtrl, frameTypeTimingCtrl]
  · by_cases ht : frameType = frameTypeTimingCtrl
    · subst ht
      by_cases hl : 8 ≤ payload.length
      · simp [hp, hl, BigEndian.uint64, beUint]
      · simp [hp, hl]
    · simp [hp, ht]

@[simp] theorem TrafficProfile.call_packetSizes (p : TrafficProfile) (c : ProfileCall)
    : (p.call c).packetSizes = p.packetSizes := by
  cases c with
  | applyControlFrame frameType payload =>
      rw [TrafficProfile.call_applyControlFrame]
      split_ifs
      · exact TrafficProfile.setNextPacketSize_packetSizes _ _
      · exact TrafficProfile.setNextDelay_packetSizes _ _
      · rfl
  | _ => simp only [TrafficProfile.call, TrafficProfile.setNextPacketSize_packetSizes,
      TrafficProfile.setNextDelay_packetSizes, TrafficProfile.getPacketSize_packetSizes,
      TrafficProfile.getDelay_packetSizes]

@[simp] theorem TrafficProfile.call_delays (p : TrafficProfile) (c : ProfileCall)
    : (p.call c).delays = p.delays := by
  cases c with
  | applyControlFrame frameType payload =>
      rw [TrafficProfile.call_applyControlFrame]
      split_ifs
      · exact TrafficProfile.setNextPacketSize_delays _ _
      · exact TrafficProfile.setNextDelay_delays _ _
      · rfl
  | _ => simp only [TrafficProfile.call, TrafficProfile.setNextPacketSize_delays,
      TrafficProfile.setNextDelay_delays, TrafficProfile.getPacketSize_delays,
      TrafficProfile.getDelay_delays]

@[simp] theorem TrafficProfile.calls_packetSizes (p : TrafficProfile) (cs : List ProfileCall)
    : (p.calls cs).packetSizes = p.packetSizes := by
  induction cs using List.reverseRecOn with
  | nil => rfl
  | append_singleton cs c ih =>
      rw [TrafficProfile.calls_append_singleton, TrafficProfile.call_packetSizes, ih]

@[simp] theorem TrafficProfile.calls_delays (p : TrafficProfile) (cs : List ProfileCall)
    : (p.calls cs).delays = p.delays := by
  induction cs using List.reverseRecOn with
  | nil => rfl
  | append_singleton cs c ih => rw [TrafficProfile.calls_append_singleton, TrafficProfile.call_delays, ih]

-----------------------------------------------------------------------------------------
-- The overrides, read off the calls
-----------------------------------------------------------------------------------------

/-- The size override a call sets, if it sets one: `SetNextPacketSize(v)`, or a `PADDING_CTRL`
frame of two bytes or more, read big-endian. -/
def ProfileCall.sizeSet : ProfileCall → Option Int
  | .setNextPacketSize size => some size
  | .applyControlFrame frameType payload =>
      if frameType = frameTypePaddingCtrl ∧ 2 ≤ payload.length then
        some (beValue (payload.take 2))
      else none
  | _ => none

/-- The delay override a call sets, if it sets one: `SetNextDelay(d)`, or a `TIMING_CTRL`
frame of eight bytes or more, its milliseconds converted as `time.Duration` arithmetic does. -/
def ProfileCall.delaySet : ProfileCall → Option Int
  | .setNextDelay delay => some delay
  | .applyControlFrame frameType payload =>
      if frameType = frameTypeTimingCtrl ∧ 8 ≤ payload.length then
        some (toInt64 (toInt64 (beValue (payload.take 8)) * millisecond))
      else none
  | _ => none

def ProfileCall.isGetPacketSize : ProfileCall → Bool
  | .getPacketSize _ => true
  | _ => false

def ProfileCall.isGetDelay : ProfileCall → Bool
  | .getDelay _ => true
  | _ => false

/-- The calls of the size side: `SetNextPacketSize`, `PADDING_CTRL` frames, `GetPacketSize`. -/
def ProfileCall.onSizes : ProfileCall → Bool
  | .setNextPacketSize _ | .getPacketSize _ => true
  | .applyControlFrame frameType _ => frameType = frameTypePaddingCtrl
  | _ => false

/-- The calls of the delay side: `SetNextDelay`, `TIMING_CTRL` frames, `GetDelay`. -/
def ProfileCall.onDelays : ProfileCall → Bool
  | .setNextDelay _ | .getDelay _ => true
  | .applyControlFrame frameType _ => frameType = frameTypeTimingCtrl
  | _ => false

/-- The override in force after some calls, given latest first: what the latest set since the
previous sampling gave it, `0` when that sampling came first, and the override the profile
started with when neither did. -/
def overrideSince (set : ProfileCall → Option Int) (samples : ProfileCall → Bool) (init : Int)
    : List ProfileCall → Int
  | [] => init
  | c :: earlier =>
      match set c with
      | some v => v
      | none => if samples c then 0 else overrideSince set samples init earlier

/-- The size override the next `GetPacketSize` sees after `cs`. -/
def sizeOverride (p : TrafficProfile) (cs : List ProfileCall) : Int :=
  overrideSince ProfileCall.sizeSet ProfileCall.isGetPacketSize p.nextPacketSize cs.reverse

/-- The delay override the next `GetDelay` sees after `cs`. -/
def delayOverride (p : TrafficProfile) (cs : List ProfileCall) : Int :=
  overrideSince ProfileCall.delaySet ProfileCall.isGetDelay p.nextDelay cs.reverse

/-- What a sampling may return: the override when it is positive; otherwise `0` when there
are no buckets, else the value of one of them. -/
@[irreducible] def SampleOf (override : Int) (values : List Int) (out : Int) : Prop :=
  if 0 < override then out = override else if values = [] then out = 0 else out ∈ values

instance (override : Int) (values : List Int) (out : Int)
    : Decidable (SampleOf override values out) :=
  decidable_of_iff
    (if 0 < override then out = override else if values = [] then out = 0 else out ∈ values)
    (by rw [SampleOf])

/-- A sampling over a distribution returns what `SampleOf` allows for the distribution's keys,
for any override that is positive exactly when the sampler's own is, and then equal to it: by
the cases of `sampleWith_cases`. -/
theorem sampleWith_sampleOf {β : Type} {override o : Int} (h : max override 0 = max o 0)
    (key : β → Int) (weight : β → Float) (dist : List β) (r : Float)
    : SampleOf o (dist.map key) (sampleWith override (dist.map fun d => (key d, weight d)) r).1 := by
  have hkeys : dist.map key = (dist.map fun d => (key d, weight d)).map Prod.fst := by
    rw [List.map_map]
    rfl
  rw [hkeys]
  generalize dist.map (fun d => (key d, weight d)) = buckets
  unfold SampleOf
  rcases sampleWith_cases override buckets r with ⟨hpos, he⟩ | ⟨hle, hnil, he⟩ | ⟨hle, -, w, hw⟩
  · rw [he, if_pos (by omega)]
    omega
  · rw [he, if_neg (by omega), if_pos (by simp [hnil])]
  · have hne : buckets.map Prod.fst ≠ [] := by simpa using List.ne_nil_of_mem hw
    rw [if_neg (by omega), if_neg hne]
    exact List.mem_map.mpr ⟨_, hw, rfl⟩

-----------------------------------------------------------------------------------------
-- One call, then a run of them
-----------------------------------------------------------------------------------------

section Run

variable (field : TrafficProfile → Int) (set : ProfileCall → Option Int)
  (samples : ProfileCall → Bool)

/-- A call moves an override field as `overrideSince` reads it, up to values that are not
positive. -/
def OverrideStep : Prop :=
  ∀ p c, max (field (p.call c)) 0
    = match set c with
      | some v => max v 0
      | none => if samples c then 0 else max (field p) 0

/-- Every run keeps the field and its reading in agreement, by induction on the calls from
the last one. -/
theorem max_field_calls (hstep : OverrideStep field set samples) (p : TrafficProfile)
    (cs : List ProfileCall)
    : max (field (p.calls cs)) 0 = max (overrideSince set samples (field p) cs.reverse) 0 := by
  induction cs using List.reverseRecOn with
  | nil => rfl
  | append_singleton cs c ih =>
      rw [TrafficProfile.calls_append_singleton, hstep, List.reverse_append]
      simp only [List.reverse_cons, List.reverse_nil, List.nil_append, List.singleton_append,
        overrideSince]
      split
      · rfl
      · split
        · rfl
        · exact ih

end Run

/-- A sampling leaves its override at zero or below: cleared when it was positive, as it was
otherwise. -/
theorem max_sampleWith_snd (override : Int) (buckets : List (Int × Float)) (r : Float)
    : max (sampleWith override buckets r).2 0 = 0 := by
  rcases sampleWith_cases override buckets r with ⟨-, he⟩ | ⟨hle, -, he⟩ | ⟨hle, he, -⟩
  · simp [he]
  · simpa [he] using hle
  · simpa [he] using hle

theorem overrideStep_size
    : OverrideStep TrafficProfile.nextPacketSize ProfileCall.sizeSet ProfileCall.isGetPacketSize := by
  intro p c
  cases c with
  | applyControlFrame frameType payload =>
      rw [TrafficProfile.call_applyControlFrame]
      by_cases hp : frameType = frameTypePaddingCtrl ∧ 2 ≤ payload.length
      · simp only [hp, and_self, if_true, ProfileCall.sizeSet,
          TrafficProfile.setNextPacketSize_nextPacketSize]
      · simp only [hp, if_false, ProfileCall.sizeSet, ProfileCall.isGetPacketSize,
          Bool.false_eq_true]
        split_ifs
        · rw [TrafficProfile.setNextDelay_nextPacketSize]
        · rfl
  | getPacketSize r => exact max_sampleWith_snd _ _ r
  | _ => rfl

theorem overrideStep_delay
    : OverrideStep TrafficProfile.nextDelay ProfileCall.delaySet ProfileCall.isGetDelay := by
  intro p c
  cases c with
  | applyControlFrame frameType payload =>
      rw [TrafficProfile.call_applyControlFrame]
      by_cases ht : frameType = frameTypeTimingCtrl ∧ 8 ≤ payload.length
      · have hp : ¬(frameType = frameTypePaddingCtrl ∧ 2 ≤ payload.length) := fun h =>
          absurd (h.1.symm.trans ht.1) (by decide)
        rw [if_neg hp, if_pos ht, TrafficProfile.setNextDelay_nextDelay]
        simp only [ProfileCall.delaySet, if_pos ht]
      · simp only [ht, if_false, ProfileCall.delaySet, ProfileCall.isGetDelay, Bool.false_eq_true]
        split_ifs <;> simp only [TrafficProfile.setNextPacketSize_nextDelay]
  | getDelay r => exact max_sampleWith_snd _ _ r
  | _ => rfl

/-- A sampling reads its own side only: its buckets and its override. -/
theorem TrafficProfile.getDelay_congr {p q : TrafficProfile} (hd : q.delays = p.delays)
    (hn : q.nextDelay = p.nextDelay) (r : Float) : (q.getDelay r).1 = (p.getDelay r).1 := by
  rw [TrafficProfile.getDelay_fst, TrafficProfile.getDelay_fst, hd, hn]

theorem TrafficProfile.getPacketSize_congr {p q : TrafficProfile}
    (hs : q.packetSizes = p.packetSizes) (hn : q.nextPacketSize = p.nextPacketSize) (r : Float)
    : (q.getPacketSize r).1 = (p.getPacketSize r).1 := by
  rw [TrafficProfile.getPacketSize_fst, TrafficProfile.getPacketSize_fst, hs, hn]

/-- A call of the size side leaves the delay override alone. -/
theorem TrafficProfile.call_nextDelay_of_onSizes (p : TrafficProfile) {c : ProfileCall}
    (hc : c.onSizes) : (p.call c).nextDelay = p.nextDelay := by
  cases c with
  | applyControlFrame frameType payload =>
      have ht : ¬(frameType = frameTypeTimingCtrl ∧ 8 ≤ payload.length) := fun h =>
        absurd ((of_decide_eq_true hc).symm.trans h.1) (by decide)
      rw [TrafficProfile.call_applyControlFrame, if_neg ht]
      split_ifs
      · rw [TrafficProfile.setNextPacketSize_nextDelay]
      · rfl
  | setNextDelay _ | getDelay _ => cases hc
  | _ => rfl

/-- A call of the delay side leaves the size override alone. -/
theorem TrafficProfile.call_nextPacketSize_of_onDelays (p : TrafficProfile) {c : ProfileCall}
    (hc : c.onDelays) : (p.call c).nextPacketSize = p.nextPacketSize := by
  cases c with
  | applyControlFrame frameType payload =>
      have hp : ¬(frameType = frameTypePaddingCtrl ∧ 2 ≤ payload.length) := fun h =>
        absurd ((of_decide_eq_true hc).symm.trans h.1) (by decide)
      rw [TrafficProfile.call_applyControlFrame, if_neg hp]
      split_ifs
      · rw [TrafficProfile.setNextDelay_nextPacketSize]
      · rfl
  | setNextPacketSize _ | getPacketSize _ => cases hc
  | _ => rfl

/-- A call of the size side sets the size override from the sizes and the override alone. -/
theorem ProfileCall.call_of_onSizes {c : ProfileCall} (hc : c.onSizes)
    : ∃ f : List PacketSizeDist → Int → Int, ∀ p : TrafficProfile,
        p.call c = { p with nextPacketSize := f p.packetSizes p.nextPacketSize } := by
  cases c with
  | setNextPacketSize size => exact ⟨fun _ _ => size, fun _ => rfl⟩
  | getPacketSize r =>
      exact ⟨fun (sizes : List PacketSizeDist) o =>
        (sampleWith o (sizes.map fun d : PacketSizeDist => (d.size, d.weight)) r).2, fun _ => rfl⟩
  | applyControlFrame frameType payload =>
      obtain rfl : frameType = frameTypePaddingCtrl := of_decide_eq_true hc
      refine ⟨fun _ o => if 2 ≤ payload.length then beValue (payload.take 2) else o, fun p => ?_⟩
      rw [TrafficProfile.call_applyControlFrame]
      beta_reduce
      by_cases hl : 2 ≤ payload.length
      · rw [if_pos ⟨rfl, hl⟩, if_pos hl]
        rfl
      · rw [if_neg (fun h => hl h.2), if_neg (fun h => absurd h.1 (by decide)), if_neg hl]
  | setNextDelay _ | getDelay _ => cases hc

/-- A call of the delay side sets the delay override from the delays and the override alone. -/
theorem ProfileCall.call_of_onDelays {c : ProfileCall} (hc : c.onDelays)
    : ∃ g : List DelayDist → Int → Int, ∀ p : TrafficProfile,
        p.call c = { p with nextDelay := g p.delays p.nextDelay } := by
  cases c with
  | setNextDelay delay => exact ⟨fun _ _ => delay, fun _ => rfl⟩
  | getDelay r =>
      exact ⟨fun (delays : List DelayDist) o =>
        (sampleWith o (delays.map fun d : DelayDist => (d.delay, d.weight)) r).2, fun _ => rfl⟩
  | applyControlFrame frameType payload =>
      obtain rfl : frameType = frameTypeTimingCtrl := of_decide_eq_true hc
      refine ⟨fun _ o => if 8 ≤ payload.length then
        toInt64 (toInt64 (beValue (payload.take 8)) * millisecond) else o, fun p => ?_⟩
      rw [TrafficProfile.call_applyControlFrame, if_neg (fun h => absurd h.1 (by decide))]
      beta_reduce
      by_cases hl : 8 ≤ payload.length
      · rw [if_pos ⟨rfl, hl⟩, if_pos hl]
        rfl
      · rw [if_neg (fun h => hl h.2), if_neg hl]
  | setNextPacketSize _ | getPacketSize _ => cases hc

/-- The two sides commute: a call of the size side and one of the delay side, each made under
the mutex, leave the profile the same in either order. -/
theorem TrafficProfile.call_comm (p : TrafficProfile) {a b : ProfileCall} (ha : a.onSizes)
    (hb : b.onDelays) : (p.call a).call b = (p.call b).call a := by
  obtain ⟨f, hf⟩ := ProfileCall.call_of_onSizes ha
  obtain ⟨g, hg⟩ := ProfileCall.call_of_onDelays hb
  rw [hf, hg, hg, hf]

/-- After any calls on any profile, `GetPacketSize` returns the size override set most recently
since the previous `GetPacketSize` when it is positive, and otherwise one of the sizes of the
distribution, `0` when there are none; `GetDelay` likewise. A call of the size side never
changes what `GetDelay` returns, nor one of the delay side what `GetPacketSize` returns. The
override a profile starts with counts as set before the calls. -/
theorem overrides_one_shot (p : TrafficProfile) (calls : List ProfileCall) (r : Float)
    : SampleOf (sizeOverride p calls) (p.packetSizes.map (·.size))
        ((p.calls calls).getPacketSize r).1
      ∧ SampleOf (delayOverride p calls) (p.delays.map (·.delay)) ((p.calls calls).getDelay r).1
      ∧ (∀ (c : ProfileCall) (q : TrafficProfile) (r : Float), c.onSizes
          → ((q.call c).getDelay r).1 = (q.getDelay r).1)
      ∧ (∀ (c : ProfileCall) (q : TrafficProfile) (r : Float), c.onDelays
          → ((q.call c).getPacketSize r).1 = (q.getPacketSize r).1) := by
  refine ⟨?_, ?_, fun c q r hc => ?_, fun c q r hc => ?_⟩
  · rw [TrafficProfile.getPacketSize_fst, ← p.calls_packetSizes calls]
    exact sampleWith_sampleOf (max_field_calls _ _ _ overrideStep_size p calls) _ _ _ r
  · rw [TrafficProfile.getDelay_fst, ← p.calls_delays calls]
    exact sampleWith_sampleOf (max_field_calls _ _ _ overrideStep_delay p calls) _ _ _ r
  · exact TrafficProfile.getDelay_congr (q.call_delays c) (q.call_nextDelay_of_onSizes hc) r
  · exact TrafficProfile.getPacketSize_congr (q.call_packetSizes c)
      (q.call_nextPacketSize_of_onDelays hc) r

-----------------------------------------------------------------------------------------
-- The arithmetic of a TIMING_CTRL frame
-----------------------------------------------------------------------------------------

theorem SampleOf.eq_of_pos {o out : Int} {values : List Int} (h : SampleOf o values out)
    (ho : 0 < o) : out = o := by
  rwa [SampleOf, if_pos ho] at h

/-- After a `TIMING_CTRL` frame of eight bytes or more, the next `GetDelay` returns the frame's
milliseconds as Go converts them, `time.Duration(m) * time.Millisecond` in `int64` arithmetic,
when that is positive, and samples the distribution otherwise. -/
theorem getDelay_after_timingCtrl (p : TrafficProfile) {payload : Bytes}
    (hl : 8 ≤ payload.length) (r : Float)
    : SampleOf (toInt64 (toInt64 (beValue (payload.take 8)) * millisecond)) (p.delays.map (·.delay))
        ((p.call (.applyControlFrame frameTypeTimingCtrl payload)).getDelay r).1 := by
  rw [TrafficProfile.call_applyControlFrame, if_neg (fun h => absurd h.1 (by decide)),
    if_pos ⟨rfl, hl⟩, TrafficProfile.getDelay_fst, TrafficProfile.setNextDelay_nextDelay,
    TrafficProfile.setNextDelay_delays]
  generalize toInt64 (toInt64 (beValue (payload.take 8)) * millisecond) = d
  exact sampleWith_sampleOf rfl DelayDist.delay DelayDist.weight p.delays r

/-- A frame of `m > 0` milliseconds whose nanoseconds fit in an `int64` sets exactly that
delay, by `toInt64` of values in range. -/
theorem getDelay_after_timingCtrl_exact (p : TrafficProfile) {payload : Bytes}
    (hl : 8 ≤ payload.length) (hm : 0 < beValue (payload.take 8))
    (hfit : (beValue (payload.take 8) : Int) * millisecond < 2 ^ 63) (r : Float)
    : ((p.call (.applyControlFrame frameTypeTimingCtrl payload)).getDelay r).1
      = beValue (payload.take 8) * millisecond := by
  have hs := getDelay_after_timingCtrl p hl r
  generalize beValue (payload.take 8) = m at hm hfit hs ⊢
  have hms : millisecond = 1000000 := rfl
  rw [hms] at hfit hs ⊢
  have h1 : toInt64 (m : Int) = m := toInt64_of_range ⟨by omega, by omega⟩
  have h2 : toInt64 ((m : Int) * 1000000) = m * 1000000 := toInt64_of_range ⟨by omega, hfit⟩
  rw [h1, h2] at hs
  exact hs.eq_of_pos (by omega)

/-- A `TIMING_CTRL` frame of `18446744073710` milliseconds on any profile: the nanoseconds,
`18446744073710000000`, lie past the `int64` range, and the next `GetDelay` returns `448384`
ns, the product wrapped modulo `2^64`. A frame of `m > 0` milliseconds whose nanoseconds fit
in an `int64` sets exactly those. -/
theorem timing_ctrl_wraps (p : TrafficProfile) (r : Float)
    : ((p.call (.applyControlFrame frameTypeTimingCtrl (BigEndian.putUint64 18446744073710))).getDelay
          r).1 = 448384
      ∧ (2 : Int) ^ 63 ≤ 18446744073710 * 1000000
      ∧ (448384 : Int) = 18446744073710 * 1000000 % 2 ^ 64
      ∧ ∀ payload : Bytes, 8 ≤ payload.length → 0 < beValue (payload.take 8)
          → (beValue (payload.take 8) : Int) * millisecond < 2 ^ 63
          → ((p.call (.applyControlFrame frameTypeTimingCtrl payload)).getDelay r).1
            = beValue (payload.take 8) * millisecond := by
  have hv : beValue ((BigEndian.putUint64 18446744073710).take 8) = 18446744073710 := by
    rw [BigEndian.putUint64, List.take_of_length_le (bePut_length 8 _).le, beValue_bePut,
      Nat.mod_eq_of_lt (by decide)]
  have hs := @getDelay_after_timingCtrl p (BigEndian.putUint64 18446744073710) (bePut_length 8 _).ge r
  generalize hd : toInt64 (toInt64 (beValue ((BigEndian.putUint64 18446744073710).take 8))
    * millisecond) = d at hs
  obtain rfl : d = 448384 := by
    rw [← hd, hv]
    decide
  exact ⟨hs.eq_of_pos (by decide), by decide, by decide,
    fun _ hl hm hfit => getDelay_after_timingCtrl_exact p hl hm hfit r⟩

end Reflex
