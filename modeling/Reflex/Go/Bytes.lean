import Mathlib.Data.List.Basic
import Mathlib.Algebra.Order.Group.Nat
import Mathlib.Algebra.Group.Int

/-! Byte strings as the Go code handles them: big-endian fields of `encoding/binary`,
bounds-checked slicing, and the reads of `io.ReadFull`, `bufio.Reader.ReadString` and
`bufio.Reader.Peek` on a finite client stream that ends in EOF.
-/

namespace Reflex.Go

/-- A Go `[]byte` or `string`, as its bytes. -/
abbrev Bytes := List UInt8

/-- The bytes of an ASCII Go string literal. -/
def ascii (s : String) : Bytes := s.toList.map (fun c => c.toNat.toUInt8)

/-- Errors the modelled code returns: the `io` sentinels and the texts made by `errors.New`
(library errors are given by their text). -/
inductive GoError where
  | eof
  | errUnexpectedEOF
  | new (text : String)
  deriving DecidableEq, Repr

/-- How a Go call ends: it returns a value, returns a non-nil error, or the runtime panics. -/
inductive Ret (α : Type) where
  | ok (a : α)
  | err (e : GoError)
  | panic (what : String)
  deriving DecidableEq, Repr

@[simp] theorem toNat_ofNat_u8 (n : Nat) : (UInt8.ofNat n).toNat = n % 256 := by
  simp [UInt8.toNat, UInt8.ofNat, BitVec.toNat_ofNat]

theorem toNat_lt_u8 (b : UInt8) : b.toNat < 256 := b.toBitVec.isLt

-----------------------------------------------------------------------------------------
-- Slicing
-----------------------------------------------------------------------------------------

/-- The slice expression `b[lo:hi]`; `none` where the runtime panics. Bounds are checked
against the length, which every slice the code takes reaches only through a length test. -/
def slice (b : Bytes) (lo hi : Nat) : Option Bytes :=
  if lo ≤ hi ∧ hi ≤ b.length then some ((b.drop lo).take (hi - lo)) else none

/-- The index expression `b[i]`; `none` where the runtime panics. -/
def index (b : Bytes) (i : Nat) : Option UInt8 := b[i]?

theorem slice_of_le {b : Bytes} {lo hi : Nat} (hlo : lo ≤ hi) (hhi : hi ≤ b.length)
    : slice b lo hi = some ((b.drop lo).take (hi - lo)) := by
  simp [slice, hlo, hhi]

/-- A slice picks out the field between its bounds. -/
theorem slice_field {x y rest : Bytes} {lo hi : Nat} (hx : x.length = lo) (hy : lo + y.length = hi)
    : slice (x ++ y ++ rest) lo hi = some y := by
  rw [slice_of_le (by omega) (by simp; omega)]
  subst hx hy
  simp

theorem index_of_lt {b : Bytes} {i : Nat} (h : i < b.length) : index b i = some b[i] := by
  simp [index, h]

-----------------------------------------------------------------------------------------
-- encoding/binary, big endian
-----------------------------------------------------------------------------------------

/-- The low `8 * k` bits of `v` as `k` big-endian bytes. -/
def bePut : Nat → Nat → Bytes
  | 0, _ => []
  | k + 1, v => bePut k (v / 256) ++ [UInt8.ofNat v]

/-- The unsigned value of big-endian bytes. -/
def beValue (b : Bytes) : Nat := b.foldl (fun acc x => acc * 256 + x.toNat) 0

/-- `binary.BigEndian.Uint16` and its siblings: the first `k` bytes as a big-endian value;
`none` where the runtime panics (fewer than `k` bytes). -/
def beUint (k : Nat) (b : Bytes) : Option Nat :=
  if k ≤ b.length then some (beValue (b.take k)) else none

namespace BigEndian

def uint16 (b : Bytes) : Option Nat := beUint 2 b
def uint32 (b : Bytes) : Option Nat := beUint 4 b
def uint64 (b : Bytes) : Option Nat := beUint 8 b
def putUint16 (v : Nat) : Bytes := bePut 2 v
def putUint32 (v : Nat) : Bytes := bePut 4 v
def putUint64 (v : Nat) : Bytes := bePut 8 v

end BigEndian

@[simp] theorem bePut_length (k v : Nat) : (bePut k v).length = k := by
  induction k generalizing v with
  | zero => rfl
  | succ k ih => simp [bePut, ih]

@[simp] theorem beValue_append_single (b : Bytes) (x : UInt8)
    : beValue (b ++ [x]) = beValue b * 256 + x.toNat := by
  simp [beValue, List.foldl_append]

/-- Decoding undoes encoding up to the width, by induction on the width. -/
theorem beValue_bePut (k v : Nat) : beValue (bePut k v) = v % 256 ^ k := by
  induction k generalizing v with
  | zero => simp [bePut, beValue, Nat.mod_one]
  | succ k ih =>
      rw [bePut, beValue_append_single, ih, toNat_ofNat_u8, pow_succ, Nat.mul_comm (256 ^ k),
        Nat.mod_mul]
      omega

/-- Encoding keeps only the low `8 * k` bits, by induction on the width. -/
theorem bePut_mod (k v : Nat) : bePut k (v % 256 ^ k) = bePut k v := by
  induction k generalizing v with
  | zero => rfl
  | succ k ih =>
      have hdiv : v % 256 ^ (k + 1) / 256 = v / 256 % 256 ^ k := by
        rw [pow_succ', Nat.mod_mul_right_div_self]
      simp only [bePut, hdiv, ih]
      congr 2
      apply UInt8.toNat.inj
      simp only [toNat_ofNat_u8, pow_succ, Nat.mod_mul_left_mod]

/-- Encoding at a list's own width undoes decoding, by induction from the last byte. -/
theorem bePut_beValue (b : Bytes) : bePut b.length (beValue b) = b := by
  induction b using List.reverseRecOn with
  | nil => rfl
  | append_singleton b x ih =>
      have hx := toNat_lt_u8 x
      rw [List.length_append, List.length_singleton, bePut, beValue_append_single,
        show (beValue b * 256 + x.toNat) / 256 = beValue b by omega, ih]
      congr 2
      apply UInt8.toNat.inj
      rw [toNat_ofNat_u8]
      omega

theorem beValue_lt (b : Bytes) : beValue b < 256 ^ b.length := by
  induction b using List.reverseRecOn with
  | nil => simp [beValue]
  | append_singleton b x ih =>
      rw [beValue_append_single, List.length_append, List.length_singleton, pow_succ]
      have := toNat_lt_u8 x
      generalize 256 ^ b.length = p at *
      omega

theorem beUint_bePut_append (k v : Nat) (rest : Bytes)
    : beUint k (bePut k v ++ rest) = some (v % 256 ^ k) := by
  simp [beUint, List.take_left' (bePut_length k v), beValue_bePut]

theorem beUint_bePut (k v : Nat) : beUint k (bePut k v) = some (v % 256 ^ k) := by
  simpa using beUint_bePut_append k v []

theorem beUint_of_length {k : Nat} {b : Bytes} (h : k ≤ b.length)
    : ∃ v, beUint k b = some v ∧ v < 256 ^ k := by
  refine ⟨beValue (b.take k), by simp [beUint, h], ?_⟩
  simpa [List.length_take, Nat.min_eq_left h] using beValue_lt (b.take k)

/-- The two's-complement value of the low 64 bits of `v`: Go's conversions to `int64` and
the result of its `int64` arithmetic. -/
def toInt64 (v : Int) : Int := (v + 2 ^ 63) % 2 ^ 64 - 2 ^ 63

theorem toInt64_of_range {v : Int} (h : -2 ^ 63 ≤ v ∧ v < 2 ^ 63) : toInt64 v = v := by
  unfold toInt64
  rw [Int.emod_eq_of_lt (by omega) (by omega)]
  omega

theorem toInt64_range (v : Int) : -2 ^ 63 ≤ toInt64 v ∧ toInt64 v < 2 ^ 63 := by
  unfold toInt64
  have h1 := Int.emod_nonneg (v + 2 ^ 63) (by decide : (2 : Int) ^ 64 ≠ 0)
  have h2 := Int.emod_lt_of_pos (v + 2 ^ 63) (by decide : (0 : Int) < 2 ^ 64)
  omega

-----------------------------------------------------------------------------------------
-- Reads from a stream that ends in EOF
-----------------------------------------------------------------------------------------

/-- `io.ReadFull(r, buf)` with `len(buf) = n` on a stream holding `r` and then EOF: the bytes
read and the rest of the stream; `EOF` when nothing was read, `ErrUnexpectedEOF` when the
stream ends early. -/
def readFull (r : Bytes) (n : Nat) : Except GoError (Bytes × Bytes) :=
  if n ≤ r.length then .ok (r.take n, r.drop n)
  else if r = [] then .error .eof else .error .errUnexpectedEOF

/-- `bufio.Reader.ReadString(delim)`: the bytes up to and including the first `delim`, or the
EOF error when the stream ends before one. -/
def readString (delim : UInt8) : Bytes → Except GoError (Bytes × Bytes)
  | [] => .error .eof
  | b :: r =>
      if b = delim then .ok ([b], r)
      else (readString delim r).map (fun read => (b :: read.1, read.2))

/-- `bufio.Reader.Peek(n)` without consuming: the first `n` bytes, or all there is with the
EOF error when the stream is shorter. -/
def peek (r : Bytes) (n : Nat) : Bytes × Option GoError :=
  if n ≤ r.length then (r.take n, none) else (r, some .eof)

@[simp] theorem readFull_append {a : Bytes} {n : Nat} (h : a.length = n) (r : Bytes)
    : readFull (a ++ r) n = .ok (a, r) := by
  subst h
  simp [readFull]

/-- A successful full read returns exactly `n` bytes and leaves the rest of the stream. -/
theorem readFull_ok {r a rest : Bytes} {n : Nat} (h : readFull r n = .ok (a, rest))
    : a.length = n ∧ r = a ++ rest := by
  unfold readFull at h
  split at h
  · cases h
    exact ⟨by simp [*], (List.take_append_drop n r).symm⟩
  · split at h <;> cases h

/-- `readString` returns the bytes up to the first delimiter. -/
theorem readString_append {delim : UInt8} {x : Bytes} (hx : delim ∉ x) (rest : Bytes)
    : readString delim (x ++ delim :: rest) = .ok (x ++ [delim], rest) := by
  induction x with
  | nil => simp [readString]
  | cons b x ih =>
      simp only [List.mem_cons, not_or] at hx
      simp [readString, Ne.symm hx.1, ih hx.2, Except.map]

/-- A line returned by `readString` is a non-empty prefix of the stream. -/
theorem readString_ok {delim : UInt8} {r line rest : Bytes}
    (h : readString delim r = .ok (line, rest)) : r = line ++ rest ∧ line ≠ [] := by
  induction r generalizing line with
  | nil => simp [readString] at h
  | cons b r ih =>
      unfold readString at h
      split at h
      · cases h
        simp
      · cases hr : readString delim r with
        | error e => simp [hr, Except.map] at h
        | ok read =>
            simp only [hr, Except.map] at h
            cases h
            simp [(ih hr).1]

end Reflex.Go
