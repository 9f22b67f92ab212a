import Reshape.Text.Utf8

/-!
UTF-8 is read back as it was written: the octets of a text are well-formed, and their code points are
those of the text.
-/

namespace Reshape.Utf8

/-- A number below 256 is that of its octet. -/
theorem toNat_toUInt8 {n : Nat} (small : n < 0x100) : n.toUInt8.toNat = n :=
  Nat.mod_eq_of_lt small

/-- Octets that are code points by themselves. -/
theorem lead_of_one : ∀ n < 0x80, lead n.toUInt8 = .single := by
  decide +kernel

/-- First octets that announce one tail, with the bits that they hold. -/
theorem lead_of_two : ∀ n < 0x20, 2 ≤ n → lead (0xC0 + n).toUInt8 = .opens 1 0x80 0xBF ∧
    leadBits 1 (0xC0 + n).toUInt8 = n := by
  decide +kernel

/-- First octets that announce two tails, with the bounds of the first tail. -/
theorem lead_of_three : ∀ n < 0x10, lead (0xE0 + n).toUInt8 =
      .opens 2 (if n = 0 then 0xA0 else 0x80) (if n = 0xD then 0x9F else 0xBF) ∧
    leadBits 2 (0xE0 + n).toUInt8 = n := by
  decide +kernel

/-- First octets that announce three tails, with the bounds of the first tail. -/
theorem lead_of_four : ∀ n < 5, lead (0xF0 + n).toUInt8 =
      .opens 3 (if n = 0 then 0x90 else 0x80) (if n = 4 then 0x8F else 0xBF) ∧
    leadBits 3 (0xF0 + n).toUInt8 = n := by
  decide +kernel

/-- A tail between the bounds adds its six bits to the code. -/
theorem readTails_cons {tails digit code : Nat} {low high : UInt8} {rest : Bytes}
    (small : digit < 0x40) (above : low.toNat ≤ 0x80 + digit) (below : 0x80 + digit ≤ high.toNat) :
    readTails (tails + 1) low high code ((0x80 + digit).toUInt8 :: rest) =
      readTails tails 0x80 0xBF (code * 0x40 + digit) rest := by
  -- The octet does not overflow, so that its low bits are the digit.
  have octet : (0x80 + digit).toUInt8.toNat = 0x80 + digit := toNat_toUInt8 (by omega)
  have between : low ≤ (0x80 + digit).toUInt8 ∧ (0x80 + digit).toUInt8 ≤ high := by
    rw [UInt8.le_iff_toNat_le, UInt8.le_iff_toNat_le, octet]
    exact ⟨above, below⟩
  have bits : (0x80 + digit) % 0x40 = digit := by omega
  rw [readTails, if_pos between, octet, bits]

/-- Octets that are read as tails of a first one are read as one code point. -/
theorem parts_cons {tails : Nat} {b low high : UInt8} {octets rest : Bytes} {code : Nat}
    (opens : lead b = .opens tails low high)
    (read : readTails tails low high (leadBits tails b) octets = (some code, rest)) :
    parts (b :: octets) = some (Char.ofNat code) :: parts rest := by
  have scanned : scan b octets = (some (Char.ofNat code), rest) := by simp [scan, opens, read]
  rw [parts, scanned]

/-- The octets of a code point are read as the code point, whatever follows them. -/
theorem parts_encodeChar (c : Char) (rest : Bytes) :
    parts (encodeChar c ++ rest) = some c :: parts rest := by
  have same : Char.ofNat c.toNat = c := Char.ofNat_toNat c
  have valid : c.toNat < 0xD800 ∨ 0xDFFF < c.toNat ∧ c.toNat < 0x110000 := c.valid
  unfold encodeChar
  generalize c.toNat = n at same valid
  subst same
  -- Each width has its own first octet, and tails of six bits.
  simp only
  by_cases one : n < 0x80
  · rw [if_pos one, List.singleton_append, parts]
    have octet : n.toUInt8.toNat = n := toNat_toUInt8 (by omega)
    have scanned : scan n.toUInt8 rest = (some (Char.ofNat n), rest) := by
      simp only [scan, lead_of_one n one, octet]
    rw [scanned]
  rw [if_neg one]
  by_cases two : n < 0x800
  · simp only [if_pos two, List.cons_append, List.nil_append]
    obtain ⟨opens, bits⟩ := lead_of_two (n / 0x40) (by omega) (by omega)
    refine parts_cons opens ?_
    rw [bits, readTails_cons (by omega) (by simp) (by simp; omega), readTails]
    simp only [Prod.mk.injEq, Option.some.injEq, and_true]
    omega
  rw [if_neg two]
  by_cases three : n < 0x10000
  · simp only [if_pos three, List.cons_append, List.nil_append]
    obtain ⟨opens, bits⟩ := lead_of_three (n / 0x1000) (by omega)
    refine parts_cons opens ?_
    rw [bits, readTails_cons (by omega) ?_ ?_,
      readTails_cons (by omega) (by simp) (by simp; omega), readTails]
    · simp only [Prod.mk.injEq, Option.some.injEq, and_true]
      omega
    -- The lead that spells the least code points narrows the first tail from below, and the one
    -- before the surrogates from above.
    · split
      · simp
        omega
      · simp
    · split
      · simp
        omega
      · simp
        omega
  · simp only [if_neg three, List.cons_append, List.nil_append]
    obtain ⟨opens, bits⟩ := lead_of_four (n / 0x40000) (by omega)
    refine parts_cons opens ?_
    rw [bits, readTails_cons (by omega) ?_ ?_, readTails_cons (by omega) (by simp) (by simp; omega),
      readTails_cons (by omega) (by simp) (by simp; omega), readTails]
    · simp only [Prod.mk.injEq, Option.some.injEq, and_true]
      omega
    -- The same holds for the leads of the least and of the greatest code points.
    · split
      · simp
        omega
      · simp
    · split
      · simp
        omega
      · simp
        omega

/-- The octets of a text are read as its code points. -/
theorem parts_encode (text : List Char) : parts (encode text) = text.map some := by
  induction text with
  | nil => rw [encode, List.flatMap_nil, parts, List.map_nil]
  | cons c text ih => rw [encode, List.flatMap_cons, parts_encodeChar, ← encode, ih, List.map_cons]

/-- The octets of a text are well-formed, and hold the text. -/
theorem decode?_encode (text : List Char) : decode? (encode text) = some text := by
  rw [decode?, parts_encode, List.mapM_map]
  exact List.mapM_pure.trans (congrArg some (List.map_id text))

/-- Nothing of the octets of a text is ill-formed. -/
theorem decodeLossy_encode (text : List Char) : decodeLossy (encode text) = text := by
  rw [decodeLossy, parts_encode, List.map_map]
  exact List.map_id text

/-- The octets of a string are read as that string. -/
theorem toText_ofText (text : String) : toText (ofText text) = text := by
  rw [toText, ofText, decodeLossy_encode, String.ofList_toList]

end Reshape.Utf8
