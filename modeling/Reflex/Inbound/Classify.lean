import Reflex.Go.Bytes

/-! The demultiplexer of `Process`: the 64 peeked bytes start a magic handshake, an HTTP POST
handshake, or other traffic for the fallback. Each check is bounds-checked as in the source;
`none` stands for a panic of one of its slices.
-/

namespace Reflex

open Go

/-- `ReflexMagic`, the magic the source names `REFX`. -/
def reflexMagic : Nat := 0x5246584C

def reflexMinHandshakeSize : Nat := 64

/-- The magic as it stands on the wire: big-endian, the bytes `52 46 58 4C`. -/
def magicBytes : Bytes := BigEndian.putUint32 reflexMagic

/-- `isReflexMagic(data)`. -/
def isReflexMagic (data : Bytes) : Option Bool :=
  if data.length < 4 then some false
  else ((slice data 0 4).bind BigEndian.uint32).map (fun magic => decide (magic = reflexMagic))

/-- `containsHTTPVersion(b)`: the loop over the starts `i` with `i + 8 ≤ len(b)`, the first
match returning. -/
def containsHTTPVersion (b : Bytes) : Option Bool :=
  (List.range (b.length + 1 - 8)).foldr
    (fun i later => match slice b i (i + 8) with
      | none => none
      | some w => if w = ascii "HTTP/1.1" then some true else later)
    (some false)

/-- `isHTTPPostLike(peeked)`. -/
def isHTTPPostLike (peeked : Bytes) : Option Bool :=
  if peeked.length < 14 then some false
  else match slice peeked 0 4 with
    | none => none
    | some w => if w ≠ ascii "POST" then some false else containsHTTPVersion peeked

/-- `isReflexHandshake(data)`. -/
def isReflexHandshake (data : Bytes) : Option Bool :=
  match isReflexMagic data with
  | none => none
  | some true => some true
  | some false => isHTTPPostLike data

/-- Where `Process` sends a connection. -/
inductive Route where
  | magic
  | http
  | fallback
  deriving DecidableEq, Repr

/-- The branches of `Process` after a successful peek. The magic test inside the
`isReflexHandshake` branch repeats `isReflexMagic` inline. -/
def route (peeked : Bytes) : Option Route :=
  match isReflexHandshake peeked with
  | none => none
  | some false => some .fallback
  | some true =>
      match isReflexMagic peeked with
      | none => none
      | some true => some .magic
      | some false =>
          match isHTTPPostLike peeked with
          | none => none
          | some true => some .http
          | some false => some .fallback

/-- The classification of a peeked buffer as the documentation of `Process` describes it: the
magic handshake for a buffer starting with the magic, an HTTP handshake for one starting with
`POST` that holds `HTTP/1.1` at an offset `i` with `i + 8 ≤ len`, the fallback for every
other. -/
def routeSpec (b : Bytes) : Route :=
  if b.take 4 = magicBytes then .magic
  else if b.take 4 = ascii "POST"
      ∧ ∃ i, i < b.length + 1 - 8 ∧ (b.drop i).take 8 = ascii "HTTP/1.1" then .http
  else .fallback

-----------------------------------------------------------------------------------------
-- No check panics
-----------------------------------------------------------------------------------------

/-- The magic test reads the first four bytes as a big-endian number. -/
theorem isReflexMagic_eq (data : Bytes)
    : isReflexMagic data = some (decide (4 ≤ data.length ∧ beValue (data.take 4) = reflexMagic)) := by
  unfold isReflexMagic
  split
  · exact congrArg some (decide_eq_false fun h => by omega).symm
  · rw [slice_of_le (by omega) (by omega)]
    simp only [Option.some_bind, BigEndian.uint32, beUint, List.drop_zero, List.length_take]
    rw [if_pos (by omega), List.take_take, Nat.min_self]
    simp only [Option.map_some', Option.some.injEq]
    simp only [decide_eq_decide]
    omega

/-- The search answers whether `HTTP/1.1` stands at one of the starts it tries, all of which
lie in range: by induction on the starts. -/
theorem containsHTTPVersion_eq (b : Bytes)
    : containsHTTPVersion b
      = some (decide (∃ i, i < b.length + 1 - 8 ∧ (b.drop i).take 8 = ascii "HTTP/1.1")) := by
  have hloop : ∀ starts : List Nat, (∀ i ∈ starts, i + 8 ≤ b.length) →
      starts.foldr (fun i later => match slice b i (i + 8) with
          | none => none
          | some w => if w = ascii "HTTP/1.1" then some true else later) (some false)
        = some (decide (∃ i ∈ starts, (b.drop i).take 8 = ascii "HTTP/1.1")) := by
    intro starts hs
    induction starts with
    | nil => simp
    | cons i is ih =>
        rw [List.foldr_cons, slice_of_le (by omega) (hs i (List.mem_cons_self _ _)),
          Nat.add_sub_cancel_left, ih fun j hj => hs j (List.mem_cons_of_mem _ hj)]
        by_cases hi : (b.drop i).take 8 = ascii "HTTP/1.1" <;> simp [hi]
  rw [containsHTTPVersion, hloop _ fun i hi => by rw [List.mem_range] at hi; omega]
  simp only [List.mem_range]

/-- The search never panics. -/
theorem containsHTTPVersion_isSome (b : Bytes) : (containsHTTPVersion b).isSome := by
  rw [containsHTTPVersion_eq]
  rfl

theorem isHTTPPostLike_isSome (peeked : Bytes) : (isHTTPPostLike peeked).isSome := by
  unfold isHTTPPostLike
  split
  · rfl
  · rw [slice_of_le (by omega) (by omega)]
    dsimp only
    split
    · rfl
    · exact containsHTTPVersion_isSome peeked

/-- The classification never panics. -/
theorem route_isSome (peeked : Bytes) : (route peeked).isSome := by
  obtain ⟨m, hm⟩ : ∃ m, isReflexMagic peeked = some m := ⟨_, isReflexMagic_eq peeked⟩
  obtain ⟨p, hp⟩ := Option.isSome_iff_exists.mp (isHTTPPostLike_isSome peeked)
  unfold route isReflexHandshake
  cases m <;> cases p <;> simp [hm, hp]

/-- A buffer whose first four bytes are the magic goes to the magic handshake. -/
theorem route_magic {peeked : Bytes} (h : magicBytes <+: peeked) : route peeked = some .magic := by
  obtain ⟨rest, rfl⟩ := h
  have hm : isReflexMagic (magicBytes ++ rest) = some true := by
    rw [isReflexMagic_eq]
    simp only [List.length_append, List.take_left' (show magicBytes.length = 4 from rfl)]
    simp [magicBytes, BigEndian.putUint32, beValue_bePut, reflexMagic]
  simp [route, isReflexHandshake, hm]

/-- The magic test holds exactly when the first four bytes are the magic's, by decoding at
their own width. -/
theorem isReflexMagic_iff (data : Bytes)
    : isReflexMagic data = some (decide (data.take 4 = magicBytes)) := by
  rw [isReflexMagic_eq]
  congr 1
  refine decide_eq_decide.mpr ⟨?_, ?_⟩
  · rintro ⟨hl, hv⟩
    have hlen : (data.take 4).length = 4 := by simp [hl]
    rw [← bePut_beValue (data.take 4), hlen, hv]
    decide
  · intro h
    have hl : 4 ≤ data.length := by
      have := congrArg List.length h
      simp only [List.length_take] at this
      rw [show magicBytes.length = 4 from rfl] at this
      omega
    exact ⟨hl, by rw [h]; decide⟩

/-- The HTTP test on a buffer of 14 bytes or more: `POST`, then the search. -/
theorem isHTTPPostLike_eq {b : Bytes} (hb : 14 ≤ b.length)
    : isHTTPPostLike b = some (decide (b.take 4 = ascii "POST"
        ∧ ∃ i, i < b.length + 1 - 8 ∧ (b.drop i).take 8 = ascii "HTTP/1.1")) := by
  rw [isHTTPPostLike, if_neg (by omega), slice_of_le (by omega) (by omega)]
  simp only [List.drop_zero, Nat.sub_zero]
  by_cases hp : b.take 4 = ascii "POST"
  · simp [hp, containsHTTPVersion_eq]
  · simp [hp]

/-- On a buffer of 14 bytes or more the checks of `Process` classify as `routeSpec` says. -/
theorem route_eq_routeSpec {b : Bytes} (hb : 14 ≤ b.length) : route b = some (routeSpec b) := by
  unfold route isReflexHandshake routeSpec
  rw [isReflexMagic_iff, isHTTPPostLike_eq hb]
  by_cases hm : b.take 4 = magicBytes
  · rw [decide_eq_true hm, if_pos hm]
  · rw [decide_eq_false hm, if_neg hm]
    by_cases hh : b.take 4 = ascii "POST"
        ∧ ∃ i, i < b.length + 1 - 8 ∧ (b.drop i).take 8 = ascii "HTTP/1.1"
    · rw [decide_eq_true hh, if_pos hh]
    · rw [decide_eq_false hh, if_neg hh]

/-- The fallback inside the handshake branch of `Process` is never taken: a buffer
`isReflexHandshake` accepts passes the magic test or the HTTP test. -/
theorem isReflexHandshake_true {b : Bytes} (h : isReflexHandshake b = some true)
    : isReflexMagic b = some true ∨ isHTTPPostLike b = some true := by
  unfold isReflexHandshake at h
  rcases hm : isReflexMagic b with _ | _ | _ <;> rw [hm] at h
  · cases h
  · exact .inr h
  · exact .inl rfl

end Reflex
