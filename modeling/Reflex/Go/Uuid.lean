import Reflex.Go.Bytes

/-! `uuid.Parse` of `github.com/google/uuid`, which the configuration's client ids are meant
to denote: the canonical form `xxxxxxxx-xxxx-xxxx-xxxx-xxxxxxxxxxxx` in either case, the same
behind `urn:uuid:` or one leading character (the `{…}` form), and 32 bare hex digits. A Go
string is its UTF-8 bytes.
-/

namespace Reflex.Go

/-- The bytes of a Go string: its UTF-8 encoding. -/
def utf8 (s : String) : Bytes := s.toUTF8.data.toList

@[simp] theorem utf8_append (s t : String) : utf8 (s ++ t) = utf8 s ++ utf8 t := by
  simp [utf8, String.toUTF8, List.flatMap_append]

/-- ASCII characters are one byte each. -/
theorem utf8_ascii {cs : List Char} (h : ∀ c ∈ cs, c.toNat < 0x80)
    : utf8 (String.mk cs) = cs.map fun c => c.toNat.toUInt8 := by
  induction cs with
  | nil => rfl
  | cons c cs ih =>
      have hc := h c (List.mem_cons_self _ _)
      have hcs := ih fun x hx => h x (List.mem_cons_of_mem _ hx)
      simp only [utf8, String.toUTF8, List.flatMap_cons, List.map_cons] at hcs ⊢
      rw [hcs, String.utf8EncodeChar, if_pos (by simpa [Char.toNat] using Nat.lt_succ.mp hc)]
      rfl

/-- The value of a byte as a hex digit of either case: the table `xvalues`. -/
def xvalue (c : UInt8) : Option Nat :=
  if 48 ≤ c.toNat ∧ c.toNat ≤ 57 then some (c.toNat - 48)
  else if 97 ≤ c.toNat ∧ c.toNat ≤ 102 then some (c.toNat - 87)
  else if 65 ≤ c.toNat ∧ c.toNat ≤ 70 then some (c.toNat - 55)
  else none

/-- `xtob(x1, x2)`: two hex digits as one byte, `none` where either is not a digit. -/
def xtob (x1 x2 : UInt8) : Option UInt8 :=
  match xvalue x1, xvalue x2 with
  | some b1, some b2 => some (UInt8.ofNat (b1 * 16 + b2))
  | _, _ => none

/-- The loop over the starts of the hex pairs, the first pair that is not hex failing it. -/
def hexPairsAt (s : Bytes) : List Nat → Option Bytes
  | [] => some []
  | x :: xs =>
      match xtob (s.getD x 0) (s.getD (x + 1) 0) with
      | none => none
      | some v => (hexPairsAt s xs).map (v :: ·)

/-- The starts of the sixteen hex pairs of `xxxxxxxx-xxxx-xxxx-xxxx-xxxxxxxxxxxx`. -/
def dashedPairs : List Nat := [0, 2, 4, 6, 9, 11, 14, 16, 19, 21, 24, 26, 28, 30, 32, 34]

/-- The dashed form, read from the first 36 bytes: a dash at 8, 13, 18 and 23, hex pairs at
`dashedPairs`. -/
def parseDashed (s : Bytes) : Option Bytes :=
  if s.getD 8 0 ≠ 45 ∨ s.getD 13 0 ≠ 45 ∨ s.getD 18 0 ≠ 45 ∨ s.getD 23 0 ≠ 45 then none
  else hexPairsAt s dashedPairs

/-- ASCII upper case to lower case, other bytes as they are. -/
def asciiLower (c : UInt8) : UInt8 := if 65 ≤ c.toNat ∧ c.toNat ≤ 90 then c + 32 else c

/-- `uuid.Parse(s)`, the UUID's 16 bytes or `none` for an error. `strings.EqualFold` against
`urn:uuid:` is a comparison up to ASCII case here: no other rune folds to one of its letters. -/
def uuidParse (id : String) : Option Bytes :=
  let s := utf8 id
  if s.length = 36 then parseDashed s
  else if s.length = 36 + 9 then
    if (s.take 9).map asciiLower = ascii "urn:uuid:" then parseDashed (s.drop 9) else none
  else if s.length = 36 + 2 then parseDashed (s.drop 1)
  else if s.length = 32 then hexPairsAt s ((List.range 16).map (· * 2))
  else none

-----------------------------------------------------------------------------------------
-- Hex digits read back
-----------------------------------------------------------------------------------------

/-- The byte of a lowercase hex digit, as `hex.Encode` writes it. -/
def hexDigitByte (d : Nat) : UInt8 := (Nat.digitChar d).toNat.toUInt8

theorem digitChar_lt : ∀ d : Nat, d < 16 → (Nat.digitChar d).toNat < 0x80
  | 0, _ | 1, _ | 2, _ | 3, _ | 4, _ | 5, _ | 6, _ | 7, _ | 8, _ | 9, _ | 10, _ | 11, _ | 12, _
  | 13, _ | 14, _ | 15, _ => by decide
  | _ + 16, h => absurd h (by omega)

theorem xvalue_hexDigitByte : ∀ d : Nat, d < 16 → xvalue (hexDigitByte d) = some d
  | 0, _ | 1, _ | 2, _ | 3, _ | 4, _ | 5, _ | 6, _ | 7, _ | 8, _ | 9, _ | 10, _ | 11, _ | 12, _
  | 13, _ | 14, _ | 15, _ => by decide
  | _ + 16, h => absurd h (by omega)

/-- A byte's two digits read back as the byte. -/
theorem xtob_hexDigitByte (b : UInt8)
    : xtob (hexDigitByte (b.toNat / 16)) (hexDigitByte (b.toNat % 16)) = some b := by
  have hb := toNat_lt_u8 b
  rw [xtob, xvalue_hexDigitByte _ (by omega), xvalue_hexDigitByte _ (by omega)]
  dsimp only
  congr 1
  apply UInt8.toNat.inj
  rw [toNat_ofNat_u8]
  omega

end Reflex.Go
