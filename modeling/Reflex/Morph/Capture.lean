import Reflex.Morph.Profile
import Mathlib.Data.List.Sort
import Mathlib.Data.List.Dedup

/-! `CreateProfileFromCapture` and its two histograms. A Go map counts the values; its range
visits the keys in an order the runtime picks, and `sort.Slice` is not stable. Both are inputs
here, each held only to its contract. Whatever they are, a histogram lists every distinct value
once, in ascending order, weighted by its share of the values, and so it is one list; a profile
built from a capture samples only values of the capture.
-/

namespace Reflex

/-- The map `freq` after `freq[v]++` for each value in turn, read as a lookup: the count of a
key, `none` for a value never seen. -/
def countValues (values : List Int) : Int → Option Nat :=
  values.foldl (fun freq v k => if k = v then some ((freq k).getD 0 + 1) else freq k) fun _ => none

/-- An order in which `for key, count := range freq` may visit a map's keys: each key once. -/
structure RangeOrder (freq : Int → Option Nat) where
  keys : List Int
  nodup : keys.Nodup
  mem : ∀ k, k ∈ keys ↔ (freq k).isSome

/-- A sort with the guarantee of `sort.Slice(x, less)`: it returns a permutation of `x` in
which no element is less than one before it. It is not stable, so nothing more. -/
structure SortSlice (β : Type) (less : β → β → Prop) where
  run : List β → List β
  perm : ∀ x, (run x).Perm x
  sorted : ∀ x, (run x).Sorted fun a b => ¬less b a

/-- `calculateSizeDistribution` and `calculateDelayDistribution`, one definition for both: nil
for no values; else a bucket per key of the counts, in the order the map's range visits them,
weighted `float64(count) / float64(total)`, then sorted. -/
def calculateDistribution {β : Type} {less : β → β → Prop} (mk : Int → Float → β)
    (values : List Int) (range : RangeOrder (countValues values)) (sortSlice : SortSlice β less)
    : List β :=
  if values.length = 0 then []
  else
    let freq := countValues values
    let total := values.length
    sortSlice.run (range.keys.map fun k => mk k (Float.ofNat ((freq k).getD 0) / Float.ofNat total))

/-- `calculateSizeDistribution(values)`, sorting by `dist[i].Size < dist[j].Size`. -/
def calculateSizeDistribution (values : List Int) (range : RangeOrder (countValues values))
    (sortSlice : SortSlice PacketSizeDist fun a b => a.size < b.size) : List PacketSizeDist :=
  calculateDistribution PacketSizeDist.mk values range sortSlice

/-- `calculateDelayDistribution(values)`, sorting by `dist[i].Delay < dist[j].Delay`. -/
def calculateDelayDistribution (values : List Int) (range : RangeOrder (countValues values))
    (sortSlice : SortSlice DelayDist fun a b => a.delay < b.delay) : List DelayDist :=
  calculateDistribution DelayDist.mk values range sortSlice

/-- `CreateProfileFromCapture(name, packetSizes, delays)`, with the runtime's choices for each
histogram. -/
def createProfileFromCapture (name : String) (packetSizes delays : List Int)
    (sizeRange : RangeOrder (countValues packetSizes))
    (sortSizes : SortSlice PacketSizeDist fun a b => a.size < b.size)
    (delayRange : RangeOrder (countValues delays))
    (sortDelays : SortSlice DelayDist fun a b => a.delay < b.delay) : TrafficProfile :=
  { name := name
    packetSizes := calculateSizeDistribution packetSizes sizeRange sortSizes
    delays := calculateDelayDistribution delays delayRange sortDelays
    nextPacketSize := 0
    nextDelay := 0 }

-----------------------------------------------------------------------------------------
-- The counts
-----------------------------------------------------------------------------------------

/-- The loop counts every value, by induction on the values from the last one. -/
theorem countValues_eq (values : List Int) (k : Int)
    : countValues values k = if k ∈ values then some (values.count k) else none := by
  induction values using List.reverseRecOn with
  | nil => rfl
  | append_singleton values v ih =>
      rw [countValues, List.foldl_append, List.foldl_cons, List.foldl_nil, ← countValues, ih]
      by_cases hk : k = v
      · subst hk
        by_cases hm : k ∈ values <;> simp [hm, List.count_eq_zero_of_not_mem]
      · simp [hk, Ne.symm hk]

theorem countValues_isSome (values : List Int) (k : Int)
    : (countValues values k).isSome ↔ k ∈ values := by
  rw [countValues_eq]
  split <;> simp_all

/-- The distinct values, each once: one order a range over the counts may take. -/
def RangeOrder.ofValues (values : List Int) : RangeOrder (countValues values) where
  keys := values.dedup
  nodup := List.nodup_dedup values
  mem k := by rw [List.mem_dedup, countValues_isSome]

/-- Merge sort by a key: one sort with the guarantee of `sort.Slice`. -/
def SortSlice.byMergeSort {β : Type} (key : β → Int) : SortSlice β fun a b => key a < key b where
  run x := x.mergeSort fun a b => decide (key a ≤ key b)
  perm x := List.mergeSort_perm x _
  sorted x := (@List.sorted_mergeSort β (fun a b => decide (key a ≤ key b))
    (fun a b c hab hbc => by simp only [decide_eq_true_eq] at *; omega)
    (fun a b => by simpa only [Bool.or_eq_true, decide_eq_true_eq] using Int.le_total _ _) x).imp
    fun h => by simp only [decide_eq_true_eq] at h; omega

-----------------------------------------------------------------------------------------
-- Histograms
-----------------------------------------------------------------------------------------

/-- A histogram of `values`: nil for no values, the values in strictly ascending order and each
once, each weighted by its count over the number of values. -/
structure IsHistogram {β : Type} (key : β → Int) (weight : β → Float) (values : List Int)
    (dist : List β) : Prop where
  nil : values = [] → dist = []
  ascending : (dist.map key).Sorted (· < ·)
  mem : ∀ v, v ∈ dist.map key ↔ v ∈ values
  weights : ∀ d ∈ dist, weight d = Float.ofNat (values.count (key d)) / Float.ofNat values.length

section Histogram

variable {β : Type} {key : β → Int} {weight : β → Float}

/-- What a sort keeps of a list whose keys are distinct: its keys come out strictly
ascending. -/
theorem SortSlice.sorted_keys (sortSlice : SortSlice β fun a b => key a < key b) {xs : List β}
    (hnodup : (xs.map key).Nodup) : ((sortSlice.run xs).map key).Sorted (· < ·) :=
  List.Sorted.lt_of_le (List.pairwise_map.mpr ((sortSlice.sorted xs).imp Int.not_lt.mp))
    (((sortSlice.perm xs).map key).nodup_iff.mpr hnodup)

/-- A histogram is determined by its values: its keys are the distinct values in ascending
order, and each bucket is its key with its weight. -/
theorem IsHistogram.unique {mk : Int → Float → β} (hmk : ∀ d, d = mk (key d) (weight d))
    {values : List Int}
    {d₁ d₂ : List β} (h₁ : IsHistogram key weight values d₁) (h₂ : IsHistogram key weight values d₂)
    : d₁ = d₂ := by
  have hkeys : d₁.map key = d₂.map key := by
    refine List.eq_of_perm_of_sorted ?_ h₁.ascending h₂.ascending
    refine (List.perm_ext_iff_of_nodup h₁.ascending.nodup h₂.ascending.nodup).mpr fun v => ?_
    rw [h₁.mem, h₂.mem]
  have hrebuild : ∀ d : List β, IsHistogram key weight values d
      → d = (d.map key).map fun k => mk k (Float.ofNat (values.count k) / Float.ofNat values.length) := by
    intro d hd
    rw [List.map_map]
    conv_lhs => rw [← List.map_id d]
    exact List.map_congr_left fun x hx => by rw [Function.comp_apply, ← hd.weights x hx]; exact hmk x
  rw [hrebuild d₁ h₁, hrebuild d₂ h₂, hkeys]

/-- A histogram of some values has a bucket. -/
theorem IsHistogram.ne_nil {values : List Int} {dist : List β} (h : IsHistogram key weight values dist)
    (hne : values ≠ []) : dist ≠ [] := by
  obtain ⟨v, hv⟩ := List.exists_mem_of_ne_nil values hne
  obtain ⟨d, hd, -⟩ := List.mem_map.mp ((h.mem v).mpr hv)
  exact List.ne_nil_of_mem hd

/-- With no override, a sampling over the histogram of some values returns one of them. -/
theorem IsHistogram.sampleWith_mem {values : List Int} {dist : List β}
    (h : IsHistogram key weight values dist) (hne : values ≠ []) (r : Float)
    : (sampleWith 0 (dist.map fun d => (key d, weight d)) r).1 ∈ values := by
  have hb := @sampleWith_zero_mem (dist.map fun d => (key d, weight d))
    (mt List.map_eq_nil_iff.mp (h.ne_nil hne)) r
  rw [List.map_map] at hb
  exact (h.mem _).mp hb

variable (mk : Int → Float → β) (hkey : ∀ k w, key (mk k w) = k) (hweight : ∀ k w, weight (mk k w) = w)
include hkey hweight

/-- Whatever order the range takes and whatever sorted permutation the sort returns, the
result is the histogram of the values. -/
theorem calculateDistribution_isHistogram {values : List Int}
    (range : RangeOrder (countValues values)) (sortSlice : SortSlice β fun a b => key a < key b)
    : IsHistogram key weight values (calculateDistribution mk values range sortSlice) := by
  unfold calculateDistribution
  split
  · rename_i h
    obtain rfl : values = [] := List.length_eq_zero.mp h
    exact ⟨fun _ => rfl, List.sorted_nil, fun v => by simp, fun d hd => by simp at hd⟩
  · rename_i h
    dsimp only
    have hkeys : (range.keys.map fun k =>
        mk k (Float.ofNat ((countValues values k).getD 0) / Float.ofNat values.length)).map key
        = range.keys := by
      simp only [List.map_map, Function.comp_def, hkey, List.map_id']
    have hmemkeys : ∀ v, v ∈ range.keys ↔ v ∈ values := fun v =>
      (range.mem v).trans (countValues_isSome values v)
    refine ⟨fun hv => absurd (List.length_eq_zero.mpr hv) h,
      sortSlice.sorted_keys (by rw [hkeys]; exact range.nodup), fun v => ?_, fun d hd => ?_⟩
    · rw [((sortSlice.perm _).map key).mem_iff, hkeys, hmemkeys]
    · obtain ⟨k, hk, rfl⟩ := List.mem_map.mp ((sortSlice.perm _).mem_iff.mp hd)
      rw [hkey, hweight, countValues_eq, if_pos ((hmemkeys k).mp hk)]
      rfl

/-- Any two runs agree, whatever the range orders and the sorts: by uniqueness of the
histogram. -/
theorem calculateDistribution_eq (hmk : ∀ d, d = mk (key d) (weight d)) {values : List Int}
    (range range' : RangeOrder (countValues values))
    (sortSlice sortSlice' : SortSlice β fun a b => key a < key b)
    : calculateDistribution mk values range sortSlice = calculateDistribution mk values range' sortSlice' :=
  (calculateDistribution_isHistogram mk hkey hweight range sortSlice).unique hmk
    (calculateDistribution_isHistogram mk hkey hweight range' sortSlice')

end Histogram

-----------------------------------------------------------------------------------------
-- The profile of a capture
-----------------------------------------------------------------------------------------

/-- For any list of packet sizes and any of delays, and whatever order the two maps range in
and whatever sorted permutations the two sorts return: each histogram lists every distinct
value once, in strictly ascending order, weighted by its count over the number of values, nil
for no values; any other choices of the runtime give the same histograms; and every sample of
the profile built from the capture, sampling leaving it unchanged, is a value of the capture
when the capture of its kind is not empty. -/
theorem capture_histograms (name : String) (sizes delays : List Int)
    (sizeRange : RangeOrder (countValues sizes))
    (sortSizes : SortSlice PacketSizeDist fun a b => a.size < b.size)
    (delayRange : RangeOrder (countValues delays))
    (sortDelays : SortSlice DelayDist fun a b => a.delay < b.delay)
    : let p := createProfileFromCapture name sizes delays sizeRange sortSizes delayRange sortDelays
      IsHistogram PacketSizeDist.size PacketSizeDist.weight sizes p.packetSizes
      ∧ IsHistogram DelayDist.delay DelayDist.weight delays p.delays
      ∧ (∀ range sortSlice, calculateSizeDistribution sizes range sortSlice = p.packetSizes)
      ∧ (∀ range sortSlice, calculateDelayDistribution delays range sortSlice = p.delays)
      ∧ (sizes ≠ [] → ∀ r, (p.getPacketSize r).1 ∈ sizes ∧ (p.getPacketSize r).2 = p)
      ∧ (delays ≠ [] → ∀ r, (p.getDelay r).1 ∈ delays ∧ (p.getDelay r).2 = p) := by
  intro p
  have hsizes : IsHistogram PacketSizeDist.size PacketSizeDist.weight sizes p.packetSizes :=
    calculateDistribution_isHistogram PacketSizeDist.mk (fun _ _ => rfl) (fun _ _ => rfl) _ _
  have hdelays : IsHistogram DelayDist.delay DelayDist.weight delays p.delays :=
    calculateDistribution_isHistogram DelayDist.mk (fun _ _ => rfl) (fun _ _ => rfl) _ _
  exact ⟨hsizes, hdelays,
    fun _ _ => calculateDistribution_eq _ (fun _ _ => rfl) (fun _ _ => rfl) (fun _ => rfl) _ _ _ _,
    fun _ _ => calculateDistribution_eq _ (fun _ _ => rfl) (fun _ _ => rfl) (fun _ => rfl) _ _ _ _,
    fun hne r => ⟨hsizes.sampleWith_mem hne r, TrafficProfile.getPacketSize_snd_of_nonpos (le_refl _) r⟩,
    fun hne r => ⟨hdelays.sampleWith_mem hne r, TrafficProfile.getDelay_snd_of_nonpos (le_refl _) r⟩⟩

end Reflex
