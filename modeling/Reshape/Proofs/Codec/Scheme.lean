import Reshape.Codec.Scheme
import Reshape.Proofs.Text.Ascii

/-!
Schemes are read back as they were written. The digits of base 64 spell the bits of octets, six to
the digit, with as few zero bits at the end as make the last digit full. Each sequence of octets is
spelled by one text, and decoding accepts that text and no other.
-/

namespace Reshape.Scheme

/-- The digits of a scheme that is a form of base 64. -/
def digits? : Scheme → Option Digits
  | .base64 => some usual
  | .base64url => some (forAddresses true)
  | .base64rawurl => some (forAddresses false)
  | .hex => none

section Bits

/-- The lowest bits of a number, the highest one of them first. -/
def bits : Nat → Nat → List Bool
  | 0, _ => []
  | width + 1, n => n.testBit width :: bits width n

variable {width : Nat}

/-- There are as many bits as the width. -/
@[simp] theorem length_bits (width n : Nat) : (bits width n).length = width := by
  induction width with
  | zero => rfl
  | succ width ih => rw [bits, List.length_cons, ih]

/-- Higher bits stand before lower ones. -/
theorem bits_add (high low n : Nat) :
    bits (high + low) n = bits high (n / 2 ^ low) ++ bits low n := by
  induction high with
  | zero => rw [Nat.zero_add, bits, List.nil_append]
  | succ high ih =>
    rw [Nat.add_right_comm, bits, bits, ih, Nat.testBit_div_two_pow, List.cons_append]

/-- Only the lowest bits of a number matter. -/
theorem bits_mod (width n : Nat) : bits width (n % 2 ^ width) = bits width n := by
  -- The bits of a width are among those of any greater one.
  have lower : ∀ count ≤ width, bits count (n % 2 ^ width) = bits count n := by
    intro count
    induction count with
    | zero => exact fun _ => rfl
    | succ count ih =>
      intro within
      rw [bits, bits, ih (Nat.le_of_succ_le within), Nat.testBit_mod_two_pow,
        decide_eq_true (Nat.lt_of_succ_le within), Bool.true_and]
  exact lower width (Nat.le_refl width)

/-- Zero has no bits set. -/
theorem bits_zero (width : Nat) : bits width 0 = List.replicate width false := by
  induction width with
  | zero => rfl
  | succ width ih => rw [bits, ih, Nat.zero_testBit, List.replicate_succ]

/-- Numbers of a width are told apart by their bits. -/
theorem eq_of_bits {m n : Nat} (small : m < 2 ^ width) (small' : n < 2 ^ width)
    (same : bits width m = bits width n) : m = n := by
  induction width generalizing m n with
  | zero => omega
  | succ width ih =>
    obtain ⟨first, others⟩ := List.cons.inj same
    rw [← bits_mod width m, ← bits_mod width n] at others
    have low := ih (Nat.mod_lt m (Nat.two_pow_pos width)) (Nat.mod_lt n (Nat.two_pow_pos width))
      others
    -- What stands before the lower bits is the highest bit.
    have digit {x y : Nat} (below : x < 2) (below' : y < 2) (same : x % 2 = 1 ↔ y % 2 = 1) :
        x = y := by omega
    rw [Nat.pow_succ] at small small'
    rw [Nat.testBit_eq_decide_div_mod_eq, Nat.testBit_eq_decide_div_mod_eq, decide_eq_decide]
      at first
    have high : m / 2 ^ width = n / 2 ^ width :=
      digit (Nat.div_lt_of_lt_mul small) (Nat.div_lt_of_lt_mul small') first
    rw [← Nat.div_add_mod m (2 ^ width), ← Nat.div_add_mod n (2 ^ width), high, low]

/-- How many bits there are of numbers of the same width. -/
theorem length_flatMap_bits {α : Type} (number : α → Nat) (items : List α) :
    (items.flatMap fun item => bits width (number item)).length = width * items.length := by
  induction items with
  | nil => rfl
  | cons item rest ih =>
    rw [List.flatMap_cons, List.length_append, length_bits, ih, List.length_cons, Nat.mul_succ,
      Nat.add_comm]

/-- Sequences of numbers of a width are told apart by their bits. -/
theorem eq_of_flatMap_bits {values values' : List Nat} (small : ∀ value ∈ values, value < 2 ^ width)
    (small' : ∀ value ∈ values', value < 2 ^ width) (lengths : values.length = values'.length)
    (same : values.flatMap (bits width) = values'.flatMap (bits width)) : values = values' := by
  -- Every number has the same count of bits, so the first numbers are cut off alike on both sides.
  induction values generalizing values' with
  | nil => exact (List.length_eq_zero_iff.1 lengths.symm).symm
  | cons value rest ih =>
    cases values' with
    | nil => cases lengths
    | cons value' rest' =>
      rw [List.forall_mem_cons] at small small'
      rw [List.flatMap_cons, List.flatMap_cons] at same
      obtain ⟨first, others⟩ := List.append_inj same (by rw [length_bits, length_bits])
      rw [eq_of_bits small.1 small'.1 first,
        ih small.2 small'.2 (Nat.succ.inj lengths) others]

/-- The number whose bits are those of numbers of a width, one behind the other. -/
def assembled (width : Nat) (values : List Nat) : Nat :=
  values.foldl (fun n value => n * 2 ^ width + value) 0

/-- The bits of numbers of a width, one behind the other, are those of one number. -/
theorem flatMap_bits {values : List Nat} (small : ∀ value ∈ values, value < 2 ^ width) :
    values.flatMap (bits width) = bits (width * values.length) (assembled width values) := by
  -- The induction is on the values from the last one, which has the lowest bits.
  induction values using List.reverseRecOn with
  | nil => rfl
  | append_singleton values last ih =>
    rw [List.forall_mem_append, List.forall_mem_singleton] at small
    have high : (assembled width values * 2 ^ width + last) / 2 ^ width =
        assembled width values := by
      rw [Nat.add_comm, Nat.add_mul_div_right _ _ (Nat.two_pow_pos width),
        Nat.div_eq_of_lt small.2, Nat.zero_add]
    have low : (assembled width values * 2 ^ width + last) % 2 ^ width = last := by
      rw [Nat.add_comm, Nat.add_mul_mod_self_right, Nat.mod_eq_of_lt small.2]
    have whole : assembled width (values ++ [last]) = assembled width values * 2 ^ width + last := by
      rw [assembled, List.foldl_append]
      rfl
    rw [List.flatMap_append, List.flatMap_singleton, ih small.1, List.length_append,
      List.length_singleton, Nat.mul_succ, whole, bits_add, high,
      ← bits_mod width (assembled width values * 2 ^ width + last), low]

/-- A number with zeros behind its bits. -/
theorem bits_mul (width spare n : Nat) :
    bits (width + spare) (n * 2 ^ spare) = bits width n ++ List.replicate spare false := by
  rw [bits_add, Nat.mul_div_cancel _ (Nat.two_pow_pos spare), ← bits_mod spare,
    Nat.mul_mod_left, bits_zero]

/-- Octets have the bits of the number that they make. -/
theorem flatMap_octets (octets : Bytes) :
    (octets.flatMap fun octet => bits 8 octet.toNat) =
      bits (8 * octets.length) (assembled 8 (octets.map UInt8.toNat)) := by
  have small : ∀ value ∈ octets.map UInt8.toNat, value < 2 ^ 8 := by
    rw [List.forall_mem_map]
    exact fun octet _ => octet.toNat_lt
  have count : (octets.map UInt8.toNat).length = octets.length := List.length_map _
  rw [← count, ← flatMap_bits small, List.flatMap_map]

end Bits

namespace Digits

/-- A text of base 64 spells octets: its digits have the bits of the octets and behind them zeros,
fewer than a digit has, and the text is filled up to groups of four if the digits are padded. -/
def Spells (digits : Digits) (text octets : Bytes) : Prop :=
  ∃ (values : List Nat) (spare missing : Nat),
    text = values.map digits.octet ++ digits.filling missing ∧
    (∀ value ∈ values, value < 64) ∧
    values.flatMap (bits 6) =
      (octets.flatMap fun octet => bits 8 octet.toNat) ++ List.replicate spare false ∧
    spare < 6 ∧ 4 ∣ values.length + missing ∧ missing < 4

/-- Digits are read as what they write. -/
structure Readable (digits : Digits) : Prop where
  value?_octet : ∀ n < 64, digits.value? (digits.octet n) = some n
  of_value? : ∀ b n, digits.value? b = some n → n < 64 ∧ digits.octet n = b
  /-- What fills up a last group is no digit. -/
  value?_pad : digits.value? pad = none
  ascii : ∀ n < 64, (digits.octet n).toNat < 0x80

/-- The digits of all forms of base 64 are read as what they write, by going through them. -/
theorem readable_of_digits? {scheme : Scheme} {digits : Digits}
    (given : scheme.digits? = some digits) : digits.Readable := by
  -- There are three sets of digits, and 64 numbers and 256 octets to look up in each.
  have forms : digits ∈ [usual, forAddresses true, forAddresses false] := by
    cases scheme <;> cases given <;> simp
  have writes : ∀ digits ∈ [usual, forAddresses true, forAddresses false], ∀ n < 64,
      digits.value? (digits.octet n) = some n ∧ (digits.octet n).toNat < 0x80 := by decide +kernel
  have reads : ∀ digits ∈ [usual, forAddresses true, forAddresses false], ∀ k < 0x100,
      ∀ n ∈ digits.value? (UInt8.ofNat k), n < 64 ∧ digits.octet n = UInt8.ofNat k := by
    decide +kernel
  have pads : ∀ digits ∈ [usual, forAddresses true, forAddresses false],
      digits.value? pad = none := by decide
  refine ⟨fun n small => (writes digits forms n small).1, fun b n read => ?_, pads digits forms,
    fun n small => (writes digits forms n small).2⟩
  have known := reads digits forms b.toNat b.toNat_lt n
  rw [UInt8.ofNat_toNat] at known
  exact known read

variable {digits : Digits} {text text' octets : Bytes}

section Spelling

/-- Octets are spelled by one text. -/
theorem Spells.unique (spells : digits.Spells text octets)
    (spells' : digits.Spells text' octets) : text = text' := by
  obtain ⟨values, spare, missing, rfl, small, same, few, whole, short⟩ := spells
  obtain ⟨values', spare', missing', rfl, small', same', few', whole', short'⟩ := spells'
  have count := congrArg List.length same
  have count' := congrArg List.length same'
  rw [List.length_append, List.length_replicate, length_flatMap_bits] at count count'
  have six (values : List Nat) : (values.flatMap fun value => bits 6 value).length =
      6 * values.length := length_flatMap_bits id values
  have many := six values
  have many' := six values'
  -- The number of octets leaves one choice for the number of digits and for what is filled up.
  have lengths : values.length = values'.length := by omega
  obtain rfl : spare = spare' := by omega
  obtain rfl : missing = missing' := by omega
  rw [eq_of_flatMap_bits small small' lengths (same.trans same'.symm)]

/-- Digits that make the same number as octets, or that number with zeros behind its bits, spell
these octets before what further digits spell. -/
theorem Spells.prepend (spells : digits.Spells text octets) (values : List Nat) (first : Bytes)
    (small : ∀ value ∈ values, value < 64) (full : 6 * values.length = 8 * first.length)
    (same : assembled 6 values = assembled 8 (first.map UInt8.toNat)) :
    digits.Spells (values.map digits.octet ++ text) (first ++ octets) := by
  -- What is spelled before is a whole number of octets, so that the spare bits stay at the end.
  obtain ⟨others, spare, missing, rfl, small', same', few, whole, short⟩ := spells
  refine ⟨values ++ others, spare, missing, by simp, ?_, ?_, few, ?_, short⟩
  · exact List.forall_mem_append.2 ⟨small, small'⟩
  · rw [List.flatMap_append, List.flatMap_append, same', List.append_assoc, flatMap_octets first,
      flatMap_bits small, full, same]
  · rw [List.length_append]
    omega

/-- Digits that make the same number as octets with zeros behind its bits spell these octets. -/
theorem spells_last (digits : Digits) (values : List Nat) (octets : Bytes) (spare missing : Nat)
    (small : ∀ value ∈ values, value < 64) (full : 6 * values.length = 8 * octets.length + spare)
    (same : assembled 6 values = assembled 8 (octets.map UInt8.toNat) * 2 ^ spare)
    (few : spare < 6) (whole : 4 ∣ values.length + missing) (short : missing < 4) :
    digits.Spells (values.map digits.octet ++ digits.filling missing) octets := by
  refine ⟨values, spare, missing, rfl, small, ?_, few, whole, short⟩
  rw [flatMap_octets, flatMap_bits small, full, same, bits_mul]

/-- Encoding spells octets. -/
theorem spells_encode (digits : Digits) (octets : Bytes) :
    digits.Spells (digits.encode octets) octets := by
  -- Each case computes one group of octets and what its digits put together again.
  fun_induction encode digits octets with
  | case1 a b c rest group ih =>
    have size : group = a.toNat * 65536 + b.toNat * 256 + c.toNat := rfl
    have first := a.toNat_lt
    have second := b.toNat_lt
    have third := c.toNat_lt
    refine ih.prepend [group / 262144, group / 4096 % 64, group / 64 % 64, group % 64] [a, b, c]
      ?_ rfl ?_
    · simp only [List.forall_mem_cons, List.not_mem_nil, false_implies, implies_true, and_true]
      omega
    · simp only [assembled, List.map, List.foldl]
      omega
  | case2 a b group =>
    have size : group = a.toNat * 1024 + b.toNat * 4 := rfl
    have first := a.toNat_lt
    have second := b.toNat_lt
    refine digits.spells_last [group / 4096, group / 64 % 64, group % 64] [a, b] 2 1 ?_ rfl ?_
      (by omega) (by simp) (by omega)
    · simp only [List.forall_mem_cons, List.not_mem_nil, false_implies, implies_true, and_true]
      omega
    · simp only [assembled, List.map, List.foldl]
      omega
  | case3 a group =>
    have size : group = a.toNat * 16 := rfl
    have first := a.toNat_lt
    refine digits.spells_last [group / 64, group % 64] [a] 4 2 ?_ rfl ?_ (by omega) (by simp)
      (by omega)
    · simp only [List.forall_mem_cons, List.not_mem_nil, false_implies, implies_true, and_true]
      omega
    · simp only [assembled, List.map, List.foldl]
      omega
  | case4 =>
    have none : digits.filling 0 = [] := by
      unfold filling
      split <;> rfl
    exact none ▸ digits.spells_last [] [] 0 0 (List.forall_mem_nil _) rfl rfl (by omega)
      (by simp) (by omega)

end Spelling

section Reading

variable {p q r s : UInt8} {rest : Bytes}

/-- An octet that has a number below 256 as a part of it. -/
theorem toUInt8_eq {n : Nat} {a : UInt8} (same : n = a.toNat) : n.toUInt8 = a := by
  rw [same]
  exact UInt8.ofNat_toNat

/-- No digit is written like what fills up a last group. -/
theorem Readable.octet_ne_pad (readable : digits.Readable) {n : Nat} (small : n < 64) :
    digits.octet n ≠ pad := by
  intro same
  have read := readable.value?_octet n small
  rw [same, readable.value?_pad] at read
  cases read

/-- Two digits are read as an octet just if they are what encoding it writes. -/
theorem Readable.decodeOne?_eq_some (readable : digits.Readable) :
    digits.decodeOne? p q = some octets ↔
      ∃ a, octets = [a] ∧ [p, q] ++ digits.filling 2 = digits.encode [a] := by
  -- The spare bits of the last digit have to be zero, or the octet would not be written so.
  constructor
  · intro read
    simp only [decodeOne?, Option.bind_eq_bind, Option.bind_eq_some_iff] at read
    obtain ⟨first, known₁, second, known₂, read⟩ := read
    obtain ⟨small₁, rfl⟩ := readable.of_value? _ _ known₁
    obtain ⟨small₂, rfl⟩ := readable.of_value? _ _ known₂
    split at read
    next spare =>
      refine ⟨_, (Option.some.inj read).symm, ?_⟩
      -- Both digits make one number, whose quotients are the octet and the digits again.
      generalize sum : first * 64 + second = group at spare
      have octet : (group / 16).toUInt8.toNat = group / 16 := Utf8.toNat_toUInt8 (by omega)
      have whole : group / 16 * 16 = group := by omega
      have high : group / 64 = first := by omega
      have low : group % 64 = second := by omega
      rw [encode, octet, whole, high, low]
      rfl
    next => cases read
  -- Conversely the digits of an octet are looked up, and their spare bits are zero.
  · rintro ⟨a, rfl, same⟩
    have below := a.toNat_lt
    simp only [encode, List.cons_append, List.cons.injEq] at same
    obtain ⟨rfl, rfl, -⟩ := same
    generalize sum : a.toNat * 16 = group
    have whole : group / 64 * 64 + group % 64 = group := by omega
    have octet : (group / 16).toUInt8 = a := toUInt8_eq (by omega)
    simp only [decodeOne?, readable.value?_octet (group / 64) (by omega),
      readable.value?_octet (group % 64) (by omega), Option.bind_eq_bind, Option.bind_some, whole]
    rw [if_pos (by omega), octet]

/-- Three digits are read as two octets just if they are what encoding these writes. -/
theorem Readable.decodeTwo?_eq_some (readable : digits.Readable) :
    digits.decodeTwo? p q r = some octets ↔
      ∃ a b, octets = [a, b] ∧ [p, q, r] ++ digits.filling 1 = digits.encode [a, b] := by
  -- The spare bits of the last digit have to be zero, or the octets would not be written so.
  constructor
  · intro read
    simp only [decodeTwo?, Option.bind_eq_bind, Option.bind_eq_some_iff] at read
    obtain ⟨first, known₁, second, known₂, third, known₃, read⟩ := read
    obtain ⟨small₁, rfl⟩ := readable.of_value? _ _ known₁
    obtain ⟨small₂, rfl⟩ := readable.of_value? _ _ known₂
    obtain ⟨small₃, rfl⟩ := readable.of_value? _ _ known₃
    split at read
    next spare =>
      refine ⟨_, _, (Option.some.inj read).symm, ?_⟩
      -- The digits make one number, whose quotients are the octets and the digits again.
      generalize sum : (first * 64 + second) * 64 + third = group at spare
      have octet₁ : (group / 1024).toUInt8.toNat = group / 1024 := Utf8.toNat_toUInt8 (by omega)
      have octet₂ : (group / 4 % 256).toUInt8.toNat = group / 4 % 256 :=
        Utf8.toNat_toUInt8 (by omega)
      have whole : group / 1024 * 1024 + group / 4 % 256 * 4 = group := by omega
      have high : group / 4096 = first := by omega
      have middle : group / 64 % 64 = second := by omega
      have low : group % 64 = third := by omega
      rw [encode, octet₁, octet₂, whole, high, middle, low]
      rfl
    next => cases read
  -- Conversely the digits of the octets are looked up, and their spare bits are zero.
  · rintro ⟨a, b, rfl, same⟩
    have below₁ := a.toNat_lt
    have below₂ := b.toNat_lt
    simp only [encode, List.cons_append, List.cons.injEq] at same
    obtain ⟨rfl, rfl, rfl, -⟩ := same
    generalize sum : a.toNat * 1024 + b.toNat * 4 = group
    have whole : (group / 4096 * 64 + group / 64 % 64) * 64 + group % 64 = group := by omega
    have octet₁ : (group / 1024).toUInt8 = a := toUInt8_eq (by omega)
    have octet₂ : (group / 4 % 256).toUInt8 = b := toUInt8_eq (by omega)
    simp only [decodeTwo?, readable.value?_octet (group / 4096) (by omega),
      readable.value?_octet (group / 64 % 64) (by omega),
      readable.value?_octet (group % 64) (by omega), Option.bind_eq_bind, Option.bind_some, whole]
    rw [if_pos (by omega), octet₁, octet₂]

/-- Four digits are read as three octets just if they are what encoding these writes. -/
theorem Readable.decodeThree?_eq_some (readable : digits.Readable) :
    digits.decodeThree? p q r s = some octets ↔
      ∃ a b c, octets = [a, b, c] ∧ [p, q, r, s] = digits.encode [a, b, c] := by
  -- Four digits have no spare bits, so that nothing is refused.
  constructor
  · intro read
    simp only [decodeThree?, Option.bind_eq_bind, Option.bind_eq_some_iff] at read
    obtain ⟨first, known₁, second, known₂, third, known₃, fourth, known₄, read⟩ := read
    obtain ⟨small₁, rfl⟩ := readable.of_value? _ _ known₁
    obtain ⟨small₂, rfl⟩ := readable.of_value? _ _ known₂
    obtain ⟨small₃, rfl⟩ := readable.of_value? _ _ known₃
    obtain ⟨small₄, rfl⟩ := readable.of_value? _ _ known₄
    refine ⟨_, _, _, (Option.some.inj read).symm, ?_⟩
    -- The digits make one number, whose quotients are the octets and the digits again.
    generalize sum : ((first * 64 + second) * 64 + third) * 64 + fourth = group
    have octet₁ : (group / 65536).toUInt8.toNat = group / 65536 := Utf8.toNat_toUInt8 (by omega)
    have octet₂ : (group / 256 % 256).toUInt8.toNat = group / 256 % 256 :=
      Utf8.toNat_toUInt8 (by omega)
    have octet₃ : (group % 256).toUInt8.toNat = group % 256 := Utf8.toNat_toUInt8 (by omega)
    have whole : group / 65536 * 65536 + group / 256 % 256 * 256 + group % 256 = group := by omega
    have digit₁ : group / 262144 = first := by omega
    have digit₂ : group / 4096 % 64 = second := by omega
    have digit₃ : group / 64 % 64 = third := by omega
    have digit₄ : group % 64 = fourth := by omega
    rw [encode, octet₁, octet₂, octet₃, whole, digit₁, digit₂, digit₃, digit₄, encode]
  -- Conversely the digits of the octets are looked up.
  · rintro ⟨a, b, c, rfl, same⟩
    have below₁ := a.toNat_lt
    have below₂ := b.toNat_lt
    have below₃ := c.toNat_lt
    simp only [encode, List.cons.injEq] at same
    obtain ⟨rfl, rfl, rfl, rfl, -⟩ := same
    generalize sum : a.toNat * 65536 + b.toNat * 256 + c.toNat = group
    have whole : ((group / 262144 * 64 + group / 4096 % 64) * 64 + group / 64 % 64) * 64 +
        group % 64 = group := by omega
    have octet₁ : (group / 65536).toUInt8 = a := toUInt8_eq (by omega)
    have octet₂ : (group / 256 % 256).toUInt8 = b := toUInt8_eq (by omega)
    have octet₃ : (group % 256).toUInt8 = c := toUInt8_eq (by omega)
    simp only [decodeThree?, readable.value?_octet (group / 262144) (by omega),
      readable.value?_octet (group / 4096 % 64) (by omega),
      readable.value?_octet (group / 64 % 64) (by omega),
      readable.value?_octet (group % 64) (by omega), Option.bind_eq_bind, Option.bind_some, whole,
      octet₁, octet₂, octet₃]

/-- Groups of three octets are written on their own. -/
theorem encode_group (digits : Digits) (a b c : UInt8) (rest : Bytes) :
    digits.encode (a :: b :: c :: rest) = digits.encode [a, b, c] ++ digits.encode rest := by
  rw [encode, encode, encode]
  rfl

/-- A last group is made of no more than four digits, and is what encoding its octets writes. -/
theorem Readable.eq_encode_of_decodeLast? (readable : digits.Readable) {group : Bytes}
    (read : digits.decodeLast? group = some octets) : group = digits.encode octets := by
  have three {p q r s : UInt8} (read : digits.decodeThree? p q r s = some octets) :
      [p, q, r, s] = digits.encode octets := by
    obtain ⟨a, b, c, rfl, same⟩ := readable.decodeThree?_eq_some.1 read
    exact same
  -- With padding the group is filled up to four, and two fillers, one or none are told apart.
  unfold decodeLast? at read
  split at read
  next p q r s padded =>
    split at read
    next last =>
      subst last
      split at read
      next before =>
        subst before
        obtain ⟨a, rfl, same⟩ := readable.decodeOne?_eq_some.1 read
        rwa [filling, if_pos padded] at same
      next =>
        obtain ⟨a, b, rfl, same⟩ := readable.decodeTwo?_eq_some.1 read
        rwa [filling, if_pos padded] at same
    next => exact three read
  next => exact three read
  -- Without padding the length tells how many octets there are.
  next p q r bare =>
    obtain ⟨a, b, rfl, same⟩ := readable.decodeTwo?_eq_some.1 read
    rwa [filling, if_neg (Bool.eq_false_iff.1 bare), List.append_nil] at same
  next p q bare =>
    obtain ⟨a, rfl, same⟩ := readable.decodeOne?_eq_some.1 read
    rwa [filling, if_neg (Bool.eq_false_iff.1 bare), List.append_nil] at same
  next => cases read

/-- A text that is decoded is what encoding its octets writes. -/
theorem Readable.eq_encode_of_decode? (readable : digits.Readable)
    (read : digits.decode? text = some octets) : text = digits.encode octets := by
  -- Groups of four are read while anything is left behind them; the last group is read by itself.
  fun_induction decode? digits text generalizing octets with
  | case1 p q r s next rest ih =>
    simp only [Option.bind_eq_bind, Option.bind_eq_some_iff] at read
    obtain ⟨first, known, others, later, same⟩ := read
    obtain ⟨a, b, c, rfl, group⟩ := readable.decodeThree?_eq_some.1 known
    cases same
    rw [List.cons_append, List.cons_append, List.cons_append, List.nil_append, encode_group,
      ← group, ← ih later]
    rfl
  | case2 =>
    cases read
    rfl
  | case3 group _ _ => exact readable.eq_encode_of_decodeLast? read

/-- A text of no more than four digits is a last group. -/
theorem decode?_eq_decodeLast? (filled : text ≠ []) (short : text.length ≤ 4) :
    digits.decode? text = digits.decodeLast? text := by
  rw [decode?]
  · rintro p q r s next rest rfl
    simp only [List.length_cons] at short
    omega
  · exact filled

/-- Four digits are read as three octets, and what follows them is read on its own. -/
theorem Readable.decode?_group (readable : digits.Readable) (a b c : UInt8) (rest : Bytes) :
    digits.decode? (digits.encode (a :: b :: c :: rest)) =
      (digits.decode? (digits.encode rest)).map ([a, b, c] ++ ·) := by
  have last : digits.octet ((a.toNat * 65536 + b.toNat * 256 + c.toNat) % 64) ≠ pad :=
    readable.octet_ne_pad (Nat.mod_lt _ (by decide))
  have read : digits.decodeThree? _ _ _ _ = some [a, b, c] :=
    readable.decodeThree?_eq_some.2 ⟨a, b, c, rfl, rfl⟩
  rw [encode]
  cases digits.encode rest with
  | nil =>
    rw [decode?_eq_decodeLast? (List.cons_ne_nil _ _) (by simp)]
    -- A last group of four digits does not end like one that was filled up.
    cases padded : digits.isPadded with
    | true => simp only [decodeLast?, padded, last, if_false, read, decode?, Option.map_some,
        List.append_nil]
    | false => simp only [decodeLast?, padded, read, decode?, Option.map_some, List.append_nil]
  | cons next others =>
    rw [decode?, read]
    cases digits.decode? (next :: others) <;> rfl

/-- What encoding writes is decoded. -/
theorem Readable.decode?_encode (readable : digits.Readable) (octets : Bytes) :
    digits.decode? (digits.encode octets) = some octets := by
  -- The cases are those of the encoder: a whole group, two octets left, one octet left or none.
  fun_induction encode digits octets with
  | case1 a b c rest group ih =>
    have whole := readable.decode?_group a b c rest
    rw [encode, ih] at whole
    exact whole
  | case2 a b group =>
    have last : digits.octet (group % 64) ≠ pad := readable.octet_ne_pad (Nat.mod_lt _ (by decide))
    have read : digits.decodeTwo? (digits.octet (group / 4096)) (digits.octet (group / 64 % 64))
        (digits.octet (group % 64)) = some [a, b] :=
      readable.decodeTwo?_eq_some.2 ⟨a, b, rfl, rfl⟩
    cases padded : digits.isPadded with
    | true =>
      rw [filling, if_pos padded, decode?_eq_decodeLast? (List.cons_ne_nil _ _) (by simp)]
      simp only [decodeLast?, padded, List.replicate, if_true, last, if_false, read]
    | false =>
      rw [filling, if_neg (Bool.eq_false_iff.1 padded),
        decode?_eq_decodeLast? (List.cons_ne_nil _ _) (by simp)]
      simp only [decodeLast?, padded, read]
  | case3 a group =>
    have read : digits.decodeOne? (digits.octet (group / 64)) (digits.octet (group % 64)) =
        some [a] := readable.decodeOne?_eq_some.2 ⟨a, rfl, rfl⟩
    cases padded : digits.isPadded with
    | true =>
      rw [filling, if_pos padded, decode?_eq_decodeLast? (List.cons_ne_nil _ _) (by simp)]
      simp only [decodeLast?, padded, List.replicate, if_true, read]
    | false =>
      rw [filling, if_neg (Bool.eq_false_iff.1 padded),
        decode?_eq_decodeLast? (List.cons_ne_nil _ _) (by simp)]
      simp only [decodeLast?, padded, read]
  | case4 => rfl

/-- Decoding accepts what encoding writes, and nothing else. -/
theorem Readable.decode?_eq_some_iff (readable : digits.Readable) :
    digits.decode? text = some octets ↔ text = digits.encode octets :=
  ⟨readable.eq_encode_of_decode?, fun same => same ▸ readable.decode?_encode octets⟩

/-- What encoding writes is what spells the octets. -/
theorem eq_encode_iff : text = digits.encode octets ↔ digits.Spells text octets := by
  constructor
  · rintro rfl
    exact digits.spells_encode octets
  · intro spells
    exact spells.unique (digits.spells_encode octets)

end Reading

end Digits

section Hexadecimal

/-- Hexadecimal digits are read as what they write, by going through them. -/
theorem hexValue?_hexOctet : ∀ n < 16,
    hexValue? (hexOctet n) = some n ∧ (hexOctet n).toNat < 0x80 := by
  decide

/-- What is written in hexadecimal digits is read back. -/
theorem decodeHex?_encodeHex (octets : Bytes) : decodeHex? (encodeHex octets) = some octets := by
  -- Each octet is written as two digits, its quotient and remainder by sixteen.
  induction octets with
  | nil => rfl
  | cons octet rest ih =>
    have below := octet.toNat_lt
    have high := (hexValue?_hexOctet (octet.toNat / 16) (by omega)).1
    have low := (hexValue?_hexOctet (octet.toNat % 16) (by omega)).1
    have whole : octet.toNat / 16 * 16 + octet.toNat % 16 = octet.toNat := by omega
    change decodeHex? (hexOctet _ :: hexOctet _ :: encodeHex rest) = _
    rw [decodeHex?, high, low, ih]
    simp only [Option.bind_eq_bind, Option.bind_some, whole]
    exact congrArg some (congrArg (· :: rest) UInt8.ofNat_toNat)

end Hexadecimal

/-- A scheme either is a form of base 64, by its digits, or is hexadecimal. -/
theorem digits?_cases (scheme : Scheme) :
    (∃ digits, scheme.digits? = some digits ∧ scheme.encode = digits.encode ∧
      scheme.decode? = digits.decode?) ∨
    (scheme.digits? = none ∧ scheme.encode = encodeHex ∧ scheme.decode? = decodeHex?) := by
  cases scheme with
  | hex => exact .inr ⟨rfl, rfl, rfl⟩
  | _ => exact .inl ⟨_, rfl, rfl, rfl⟩

/-- What a scheme writes is ASCII. -/
theorem ascii_encode (scheme : Scheme) (octets : Bytes) :
    ∀ b ∈ scheme.encode octets, b.toNat < 0x80 := by
  -- A scheme writes digits of base 64 and what fills them up, or hexadecimal digits.
  rcases scheme.digits?_cases with ⟨digits, given, writes, _⟩ | ⟨_, writes, _⟩
  · obtain ⟨values, _, missing, same, small, _⟩ := digits.spells_encode octets
    rw [writes, same, List.forall_mem_append, List.forall_mem_map]
    refine ⟨fun value among => ?_, fun b among => ?_⟩
    · exact (Digits.readable_of_digits? given).ascii value (small value among)
    · unfold Digits.filling at among
      split at among
      · rw [List.eq_of_mem_replicate among]
        decide
      · cases among
  · rw [writes]
    intro b among
    obtain ⟨octet, _, among⟩ := List.mem_flatMap.1 among
    have below := octet.toNat_lt
    rcases List.mem_cons.1 among with rfl | among
    · exact (hexValue?_hexOctet (octet.toNat / 16) (by omega)).2
    · obtain rfl := List.mem_singleton.1 among
      exact (hexValue?_hexOctet (octet.toNat % 16) (by omega)).2

/-- What a scheme writes is the text that holds it. -/
theorem ofText_toText_encode (scheme : Scheme) (octets : Bytes) :
    Utf8.ofText (Utf8.toText (scheme.encode octets)) = scheme.encode octets := by
  obtain ⟨codes, same⟩ := Text.exists_octet (scheme.ascii_encode octets)
  rw [← same, Utf8.ofText, Utf8.toText, String.toList_ofList, Ascii.decodeLossy_octet,
    Ascii.encode_char]

/-- Schemes invert. Whatever octets are written in a scheme, as octets or as a text, are read back in
the scheme. In the forms of base 64 a text is read as some octets only if it is what these are
written as, and that is the one text which spells their bits: by its digits, by the zeros behind the
bits, and by what fills it up. -/
theorem inverts (scheme : Scheme) (octets : Bytes) :
    scheme.decode? (scheme.encode octets) = some octets ∧
    scheme.decode? (Utf8.ofText (Utf8.toText (scheme.encode octets))) = some octets ∧
    ∀ digits ∈ scheme.digits?, ∀ text,
      (scheme.decode? text = some octets ↔ text = scheme.encode octets) ∧
      (text = scheme.encode octets ↔ digits.Spells text octets) := by
  -- The round trip is that of the digits or the hexadecimal one.
  have back : scheme.decode? (scheme.encode octets) = some octets := by
    rcases scheme.digits?_cases with ⟨digits, given, writes, reads⟩ | ⟨_, writes, reads⟩
    · rw [writes, reads]
      exact (Digits.readable_of_digits? given).decode?_encode octets
    · rw [writes, reads]
      exact decodeHex?_encodeHex octets
  refine ⟨back, ?_, fun digits given text => ?_⟩
  · rw [ofText_toText_encode, back]
  · rcases scheme.digits?_cases with ⟨_, same, writes, reads⟩ | ⟨none, _⟩
    · obtain rfl := Option.some.inj (given.symm.trans same)
      rw [writes, reads]
      exact ⟨(Digits.readable_of_digits? given).decode?_eq_some_iff, Digits.eq_encode_iff⟩
    · cases given.symm.trans none

/-- Two octets in base 64, with one digit filled up, and not with other bits in the last digit. -/
theorem inverts_pair :
    usual ∈ Scheme.base64.digits? ∧
    Scheme.base64.decode? (Utf8.ofText "/wA=") = some [0xFF, 0x00] ∧
    usual.Spells (Utf8.ofText "/wA=") [0xFF, 0x00] ∧
      Scheme.base64.decode? (Utf8.ofText "/wB=") ≠ some [0xFF, 0x00] := by
  have forms := (Scheme.base64.inverts [0xFF, 0x00]).2.2 usual rfl
  have text : Utf8.ofText "/wA=" = Scheme.base64.encode [0xFF, 0x00] := by decide +kernel
  have other : Utf8.ofText "/wB=" ≠ Scheme.base64.encode [0xFF, 0x00] := by decide +kernel
  exact ⟨rfl, (forms _).1.2 text, (forms _).2.1 text, fun read => other ((forms _).1.1 read)⟩

end Reshape.Scheme
