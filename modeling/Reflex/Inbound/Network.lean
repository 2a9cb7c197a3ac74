import Reflex.Session.RoundTrip
import Reflex.Inbound.Tunnel
import Mathlib.Data.List.Sort
import Mathlib.Data.List.FinRange

/-! The frame channel under an active network: an attacker between the two parties that
reorders the writer's frames, delivers some of them again and drops others, but cannot seal
new ones. The reader accepts the longest prefix of the delivery whose counters rise, each
frame at most once and in the writer's order, and stops at the first frame that does not
rise with "replay detected"; the server's session loop then ends with that error.
-/

namespace Reflex

open Go

/-- The last counter a reader accepted, if it accepted one. -/
def Session.lastRead (s : Session) : Option Nat := if s.readSeen then some s.readNonceCount else none

/-- The deliveries a reader accepts, each with its counter: the longest prefix whose counters
rise strictly, the first one above the last counter accepted before, if any. -/
def risingPrefix {α : Type} (counter : α → Nat) : Option Nat → List α → List α
  | _, [] => []
  | none, x :: xs => x :: risingPrefix counter (some (counter x)) xs
  | some last, x :: xs =>
      if last < counter x then x :: risingPrefix counter (some (counter x)) xs else []

/-- The `i`-th frame of a writer whose first counter is `w0`, as it goes on the wire. -/
def sealedFrame (a : Aead) (w0 : Nat) (frames : List (UInt8 × Bytes)) (i : Fin frames.length)
    : Bytes :=
  (frameWrites a (w0 + i) (frames.get i).1 (frames.get i).2).flatten

/-- What the network delivers: the writer's frames in the order `order` names them, each any
number of times. -/
def deliver (a : Aead) (w0 : Nat) (frames : List (UInt8 × Bytes)) (order : List (Fin frames.length))
    : Bytes :=
  (order.map (sealedFrame a w0 frames)).flatten

/-- The frame a reader returns for the `i`-th frame written. -/
def frameAt (frames : List (UInt8 × Bytes)) (i : Fin frames.length) : Frame :=
  ⟨(frames.get i).1, (frames.get i).2⟩

-----------------------------------------------------------------------------------------
-- One sealed frame
-----------------------------------------------------------------------------------------

/-- A frame sealed under counter `c` is accepted exactly when `c` passes the replay check,
and rejected as a replay otherwise, the rest of the stream left in both cases. -/
theorem readFrame_sealed {a : Aead} (ha : a.Correct) {s : Session} (hs : s.aead = a)
    {c : Nat} (hc : c < 2 ^ 64) (ty : UInt8) {payload : Bytes} (hp : payload.length ≤ 65506)
    (rest : Bytes)
    : s.readFrame ((frameWrites a c ty payload).flatten ++ rest)
      = if s.readSeen = true ∧ c ≤ s.readNonceCount then
          (.err (.new "reflex: replay detected"), s, rest)
        else (.ok ⟨ty, payload⟩, { s with readSeen := true, readNonceCount := c }, rest) := by
  by_cases hchk : s.readSeen = true ∧ c ≤ s.readNonceCount
  swap
  · rw [if_neg hchk]
    exact readFrame_frameWrites ha hs hc hchk ty hp rest
  rw [if_pos hchk, frameWrites_flatten ha]
  have hlen : (payload.length + 29) % 2 ^ 16 % 256 ^ 2 = payload.length + 29 := by omega
  have hct : (a.Seal (makeNonce (List.replicate nonceSize 0) c) (ty :: payload)).length
      = payload.length + 29 - nonceSize := by
    simp [ha.seal_length, nonceSize, overhead]
  unfold Session.readFrame
  rw [List.append_assoc,
    readFull_append (show (BigEndian.putUint16 _).length = 2 from bePut_length 2 _)]
  dsimp only
  rw [BigEndian.uint16, BigEndian.putUint16, beUint_bePut, hlen]
  dsimp only
  rw [if_neg (by simp [nonceSize]), if_neg (by simp [nonceSize, overhead]), List.append_assoc,
    readFull_append (makeNonce_length c)]
  dsimp only
  rw [readFull_append hct]
  dsimp only
  rw [hs, ha.open_seal]
  dsimp only
  rw [if_neg (by simp), slice_uint64_of_length (makeNonce_length c)]
  dsimp only
  rw [nonceCounter_makeNonce, Nat.mod_eq_of_lt hc, if_pos (by simpa using hchk)]

/-- The replay check of a reader, read off its last accepted counter. -/
theorem Session.replay_iff_lastRead (s : Session) (c : Nat)
    : (s.readSeen = true ∧ c ≤ s.readNonceCount) ↔ ∃ last, s.lastRead = some last ∧ c ≤ last := by
  cases h : s.readSeen <;> simp [Session.lastRead, h]

-----------------------------------------------------------------------------------------
-- The rising prefix
-----------------------------------------------------------------------------------------

section Rising

variable {α : Type} (counter : α → Nat)

/-- Every accepted delivery's counter lies above the last counter accepted before. -/
theorem risingPrefix_sorted : ∀ (last : Option Nat) (xs : List α),
    ∀ x ∈ risingPrefix counter last xs, ∀ l ∈ last, l < counter x
  | _, [] => by simp [risingPrefix]
  | none, x :: xs => by simp [risingPrefix]
  | some last, x :: xs => by
      unfold risingPrefix
      split
      · rename_i hlt
        rintro y hy _ ⟨⟩
        rcases List.mem_cons.mp hy with rfl | hy
        · exact hlt
        · exact hlt.trans (risingPrefix_sorted (some (counter x)) xs y hy _ rfl)
      · simp

/-- The counters of an accepted prefix rise strictly. -/
theorem risingPrefix_pairwise (last : Option Nat) (xs : List α)
    : (risingPrefix counter last xs).Pairwise fun x y => counter x < counter y := by
  induction xs generalizing last with
  | nil => cases last <;> exact List.Pairwise.nil
  | cons x xs ih =>
      have hcons : (x :: risingPrefix counter (some (counter x)) xs).Pairwise
          fun x y => counter x < counter y :=
        List.Pairwise.cons (fun y hy => risingPrefix_sorted counter _ xs y hy _ rfl) (ih _)
      cases last with
      | none => exact hcons
      | some l =>
          unfold risingPrefix
          split
          · exact hcons
          · exact List.Pairwise.nil

/-- The accepted deliveries are a prefix of the delivery. -/
theorem risingPrefix_prefix (last : Option Nat) (xs : List α) : risingPrefix counter last xs <+: xs := by
  induction xs generalizing last with
  | nil => cases last <;> exact List.prefix_refl _
  | cons x xs ih =>
      cases last with
      | none => exact List.cons_prefix_cons.mpr ⟨rfl, ih _⟩
      | some l =>
          unfold risingPrefix
          split
          · exact List.cons_prefix_cons.mpr ⟨rfl, ih _⟩
          · exact List.nil_prefix

end Rising

/-- Frames taken at strictly rising positions are frames of the writer's list, in its order,
none twice. -/
theorem map_frameAt_sublist (frames : List (UInt8 × Bytes)) {idx : List (Fin frames.length)}
    (h : idx.Pairwise fun i j => i.val < j.val)
    : List.Sublist (idx.map (frameAt frames)) (frames.map fun f => ⟨f.1, f.2⟩) := by
  have hsorted : idx.Sorted (· < ·) := h.imp fun hij => Fin.lt_def.mpr hij
  have hsub : List.Sublist idx (List.finRange frames.length) :=
    List.sublist_of_subperm_of_sorted
      (List.subperm_of_subset hsorted.nodup fun i _ => List.mem_finRange i) hsorted
      (List.pairwise_lt_finRange frames.length)
  have hall : (List.finRange frames.length).map (frameAt frames) = frames.map fun f => ⟨f.1, f.2⟩ :=
    calc (List.finRange frames.length).map (frameAt frames)
        = ((List.finRange frames.length).map frames.get).map fun f => ⟨f.1, f.2⟩ := by
          rw [List.map_map]
          rfl
      _ = frames.map fun f => ⟨f.1, f.2⟩ := by rw [List.finRange_map_get]
  exact hall ▸ hsub.map _

-----------------------------------------------------------------------------------------
-- The reader under the network
-----------------------------------------------------------------------------------------

/-- Whatever the network delivers of a writer's frames of at most 65506 bytes, a reader
returns the frames of the longest rising prefix of the delivery, then EOF if that is the whole
delivery and "replay detected" otherwise, by induction on the delivery. -/
theorem readAll_deliver {a : Aead} (ha : a.Correct) (frames : List (UInt8 × Bytes))
    (hsize : ∀ f ∈ frames, f.2.length ≤ 65506) (w0 : Nat) (hcount : w0 + frames.length ≤ 2 ^ 64)
    (order : List (Fin frames.length)) (r : Session) (hr : r.aead = a)
    : r.readAll (deliver a w0 frames order)
      = ((risingPrefix (fun i => w0 + i.val) r.lastRead order).map (frameAt frames),
          if risingPrefix (fun i => w0 + i.val) r.lastRead order = order then .err .eof
          else .err (.new "reflex: replay detected")) := by
  induction order generalizing r with
  | nil => cases h : r.lastRead <;> simpa [risingPrefix, deliver] using readAll_nil r
  | cons i is ih =>
      have hi : w0 + i.val < 2 ^ 64 := by omega
      have hread := readFrame_sealed ha hr hi (frames.get i).1
        (hsize _ (List.get_mem frames i.val i.isLt)) (deliver a w0 frames is)
      have hstream : deliver a w0 frames (i :: is) = sealedFrame a w0 frames i ++ deliver a w0 frames is :=
        rfl
      rw [hstream, sealedFrame]
      by_cases hchk : r.readSeen = true ∧ w0 + i.val ≤ r.readNonceCount
      · rw [if_pos hchk] at hread
        obtain ⟨last, hlast, hle⟩ := (r.replay_iff_lastRead _).mp hchk
        rw [readAll_of_err hread, hlast, risingPrefix, if_neg (by omega)]
        simp
      · rw [if_neg hchk] at hread
        rw [readAll_of_ok hread, ih { r with readSeen := true, readNonceCount := w0 + i.val } hr]
        have hrise : risingPrefix (fun i => w0 + i.val) r.lastRead (i :: is)
            = i :: risingPrefix (fun i => w0 + i.val) (some (w0 + i.val)) is := by
          rcases hl : r.lastRead with _ | last
          · rfl
          · have hlt : last < w0 + i.val := by
              by_contra hge
              exact hchk ((r.replay_iff_lastRead _).mpr ⟨last, hl, by omega⟩)
            exact if_pos hlt
        have hseen : ({ r with readSeen := true, readNonceCount := w0 + i.val } : Session).lastRead
            = some (w0 + i.val) := rfl
        rw [hseen, hrise]
        simp [frameAt]

/-- Through any network between them, the reader gets the writer's frames (of at most 65506
bytes, fewer than `2^64` in all) in the writer's order and none twice: exactly those of the
longest rising prefix of the delivery. It then reads EOF when the network delivered the frames
in rising order, and stops with "replay detected" at the first frame out of order otherwise;
the server's session loop, with no dispatcher, returns nil in the first case and that error in
the second. -/
theorem network_delivery {a : Aead} (ha : a.Correct) (frames : List (UInt8 × Bytes))
    (hsize : ∀ f ∈ frames, f.2.length ≤ 65506) (w0 : Nat) (hcount : w0 + frames.length ≤ 2 ^ 64)
    (order : List (Fin frames.length)) (r : Session) (hr : r.aead = a)
    : let accepted := risingPrefix (fun i => w0 + i.val) r.lastRead order
      r.readAll (deliver a w0 frames order)
        = (accepted.map (frameAt frames),
            if accepted = order then .err .eof else .err (.new "reflex: replay detected"))
      ∧ accepted <+: order
      ∧ List.Sublist (accepted.map (frameAt frames)) (frames.map fun f => ⟨f.1, f.2⟩)
      ∧ ∀ (env : Env) (profile : Option TrafficProfile) (n : Nat), env.dispatcher = none
          → handleSession env r profile n (deliver a w0 frames order)
            = .error (if accepted = order then none else some (.new "reflex: replay detected")) := by
  intro accepted
  have hread := readAll_deliver ha frames hsize w0 hcount order r hr
  have hrise : accepted.Pairwise fun i j => i.val < j.val :=
    (risingPrefix_pairwise _ _ order).imp fun h => by omega
  refine ⟨hread, risingPrefix_prefix _ _ order, map_frameAt_sublist frames hrise,
    fun env profile n hd => ?_⟩
  have hend := @handleSession_readAll env hd r profile n _
    (if accepted = order then .eof else .new "reflex: replay detected") (by
      rw [hread]
      split <;> rfl)
  rw [hend]
  split <;> simp [*]

/-- A fresh reader given the second frame of two before the first. -/
theorem network_delivery_swapped
    : let frames : List (UInt8 × Bytes) := [(frameTypeData, [1]), (frameTypeData, [2])]
      let order : List (Fin frames.length) := [⟨1, by decide⟩, ⟨0, by decide⟩]
      let r := Session.fresh Aead.zeroTag
      (∀ f ∈ frames, f.2.length ≤ 65506) ∧ 0 + frames.length ≤ 2 ^ 64
      ∧ let accepted := risingPrefix (fun i => 0 + i.val) r.lastRead order
        r.readAll (deliver Aead.zeroTag 0 frames order)
          = (accepted.map (frameAt frames),
              if accepted = order then .err .eof else .err (.new "reflex: replay detected"))
        ∧ accepted <+: order
        ∧ List.Sublist (accepted.map (frameAt frames)) (frames.map fun f => ⟨f.1, f.2⟩)
        ∧ ∀ (env : Env) (profile : Option TrafficProfile) (n : Nat), env.dispatcher = none
            → handleSession env r profile n (deliver Aead.zeroTag 0 frames order)
              = .error (if accepted = order then none else some (.new "reflex: replay detected")) :=
  ⟨by decide, by decide, network_delivery Aead.zeroTag_correct _ (by decide) 0 (by decide) _ _ rfl⟩

end Reflex
