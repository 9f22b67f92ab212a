import Reshape.Proofs.Text.Search
import Reshape.Proofs.Text.Utf8
import Reshape.Value.Text

/-!
Searching in the octets of a text. No tail starts a code point, so the octets of a needle are found
only where a code point starts, and there just if the needle itself is found. A string and its
octets are thus searched, split and replaced in alike.
-/

namespace Reshape

namespace Utf8

theorem encode_nil : encode [] = [] := rfl

theorem encode_cons (c : Char) (text : List Char) :
    encode (c :: text) = encodeChar c ++ encode text := rfl

/-- Texts one after the other are encoded one after the other. -/
theorem encode_append (first second : List Char) :
    encode (first ++ second) = encode first ++ encode second :=
  List.flatMap_append

/-- The octets that are tails. -/
theorem isTail_toUInt8 : ∀ n < 0x100, isTail n.toUInt8 = decide (0x80 ≤ n ∧ n < 0xC0) := by
  decide +kernel

/-- Six bits under the mark of a tail are a tail. -/
theorem isTail_digit (n : Nat) : isTail (0x80 + n % 0x40).toUInt8 = true := by
  rw [isTail_toUInt8 _ (by omega), decide_eq_true_iff]
  omega

/-- No other octet is a tail. -/
theorem isTail_first {n : Nat} (small : n < 0x100) (outside : n < 0x80 ∨ 0xC0 ≤ n) :
    isTail n.toUInt8 = false := by
  rw [isTail_toUInt8 n small, decide_eq_false_iff_not]
  omega

/-- The octets of a code point are a first one that is no tail, and tails. -/
theorem encodeChar_eq (c : Char) : ∃ first tails, encodeChar c = first :: tails ∧
    isTail first = false ∧ ∀ b ∈ tails, isTail b = true := by
  have valid : c.toNat < 0xD800 ∨ 0xDFFF < c.toNat ∧ c.toNat < 0x110000 := c.valid
  unfold encodeChar
  generalize c.toNat = n at valid
  simp only
  -- Each width has its own first octet, and one tail more than the width before.
  have one (n : Nat) : ∀ b ∈ [(0x80 + n % 0x40).toUInt8], isTail b = true :=
    List.forall_mem_singleton.2 (isTail_digit n)
  have two (m n : Nat) : ∀ b ∈ [(0x80 + m % 0x40).toUInt8, (0x80 + n % 0x40).toUInt8],
      isTail b = true := List.forall_mem_cons.2 ⟨isTail_digit m, one n⟩
  split
  · exact ⟨_, _, rfl, isTail_first (by omega) (by omega), List.forall_mem_nil _⟩
  split
  · exact ⟨_, _, rfl, isTail_first (by omega) (by omega), one _⟩
  split
  · exact ⟨_, _, rfl, isTail_first (by omega) (by omega), two _ _⟩
  · exact ⟨_, _, rfl, isTail_first (by omega) (by omega),
      List.forall_mem_cons.2 ⟨isTail_digit _, two _ _⟩⟩

/-- Only the empty text has no octets. -/
theorem isEmpty_encode (text : List Char) : (encode text).isEmpty = text.isEmpty := by
  cases text with
  | nil => rfl
  | cons c text =>
    obtain ⟨first, tails, octets, _⟩ := encodeChar_eq c
    rw [encode_cons, octets]
    rfl

/-- Octets that start with those of a text are the octets of a longer one. -/
theorem of_encode_append_eq {text needle : List Char} {rest : Bytes}
    (same : encode text = encode needle ++ rest) :
    ∃ after, text = needle ++ after ∧ rest = encode after := by
  -- One code point of the needle is compared with one of the text at a time.
  induction needle generalizing text with
  | nil => exact ⟨text, rfl, same.symm⟩
  | cons n needle ih =>
    rw [encode_cons, List.append_assoc] at same
    -- The first code point is read off both sides.
    have read := congrArg parts same
    rw [parts_encode, parts_encodeChar] at read
    cases text with
    | nil => cases read
    | cons c text =>
      obtain rfl := Option.some.inj (List.cons.inj read).1
      rw [encode_cons] at same
      obtain ⟨after, rfl, rest⟩ := ih (List.append_cancel_left same)
      exact ⟨after, rfl, rest⟩

/-- The octets of a text are cut only between its code points by one that is no tail. -/
theorem of_encode_eq_append {text : List Char} {before rest : Bytes} {b : UInt8}
    (start : isTail b = false) (same : encode text = before ++ b :: rest) :
    ∃ front back, text = front ++ back ∧ before = encode front ∧ b :: rest = encode back := by
  induction text generalizing before with
  | nil => simp [encode_nil] at same
  | cons c text ih =>
    cases before with
    | nil => exact ⟨[], c :: text, rfl, rfl, same.symm⟩
    | cons first' before =>
      obtain ⟨first, tails, octets, _, all⟩ := encodeChar_eq c
      rw [encode_cons, octets, List.cons_append, List.cons_append] at same
      obtain ⟨rfl, later⟩ := List.cons.inj same
      -- The cut is behind all tails of the code point, as what follows it is no tail.
      rcases List.append_eq_append_iff.1 later with ⟨middle, rfl, behind⟩ | ⟨middle, rfl, behind⟩
      · obtain ⟨front, back, rfl, rfl, rest⟩ := ih behind
        exact ⟨c :: front, back, rfl, by rw [encode_cons, octets, List.cons_append], rest⟩
      · cases middle with
        | nil =>
          refine ⟨[c], text, rfl, ?_, behind⟩
          rw [encode_cons, octets, encode_nil, List.append_nil, List.append_nil]
        | cons b' middle =>
          obtain rfl := (List.cons.inj behind).1
          have tail := all b (List.mem_append_right _ List.mem_cons_self)
          rw [start] at tail
          cases tail

end Utf8

namespace Search

open Utf8

variable {needle : List Char}

/-- The octets of a text start with those of a needle just if the text starts with the needle. -/
theorem dropStart_encode (needle text : List Char) :
    dropStart (encode needle) (encode text) = (dropStart needle text).map encode := by
  -- The encoding can be cut between two code points only, and is injective on each side.
  refine Option.ext fun rest => ?_
  rw [dropStart_eq_some, Option.map_eq_some_iff]
  constructor
  · intro same
    obtain ⟨after, rfl, rfl⟩ := of_encode_append_eq same
    exact ⟨after, dropStart_eq_some.2 rfl, rfl⟩
  · rintro ⟨after, found, rfl⟩
    rw [dropStart_eq_some.1 found, encode_append]

variable (occupied : needle ≠ [])

include occupied

/-- The octets of a needle are not found at a tail. -/
theorem dropStart_tail {b : UInt8} (tail : isTail b = true) (rest : Bytes) :
    dropStart (encode needle) (b :: rest) = none := by
  -- The needle begins with the first octet of a code point, which is no tail.
  cases needle with
  | nil => exact absurd rfl occupied
  | cons n needle =>
    obtain ⟨first, tails, octets, start, _⟩ := encodeChar_eq n
    have apart : first ≠ b := by
      rintro rfl
      rw [tail] at start
      cases start
    rw [encode_cons, octets, List.cons_append, dropStart, if_neg (by simpa using apart)]

/-- Tails stand before the first occurrence. -/
theorem cut_tails {tails : Bytes} (all : ∀ b ∈ tails, isTail b = true) (rest : Bytes) :
    cut (encode needle) (tails ++ rest) =
      (cut (encode needle) rest).map (Prod.map (tails ++ ·) id) := by
  induction tails with
  | nil => exact Option.map_id_apply.symm
  | cons b tails ih =>
    obtain ⟨tail, all⟩ := List.forall_mem_cons.1 all
    -- No encoded needle starts at a tail, so that all the tails are passed.
    rw [List.cons_append, cut, dropStart_tail occupied tail, ih all, Option.map_map]
    rfl

/-- The octets of a text are cut where the text is cut. -/
theorem cut_encode (text : List Char) :
    cut (encode needle) (encode text) = (cut needle text).map (Prod.map encode encode) := by
  induction text with
  | nil =>
    have start := dropStart_encode needle []
    rw [encode_nil] at start
    rw [encode_nil, cut, cut, start, Option.map_map, Option.map_map]
    rfl
  | cons c text ih =>
    have start := dropStart_encode needle (c :: text)
    obtain ⟨first, tails, octets, _, all⟩ := encodeChar_eq c
    rw [encode_cons, octets, List.cons_append] at start
    rw [encode_cons, octets, List.cons_append, cut, cut, start]
    cases dropStart needle (c :: text) with
    | some after => rfl
    | none =>
      -- The next place to look at is that of the next code point.
      simp only [Option.map_none, cut_tails occupied all, ih, Option.map_map]
      refine congrArg (Option.map · _) (funext fun parts => ?_)
      simp [encode_cons, octets]

/-- The octets of a text have the octets of its pieces for their pieces. -/
theorem pieces_encode (text : List Char) :
    pieces (encode needle) (encode text) = (pieces needle text).map encode :=
  pieces_of_cut (isEmpty_encode needle) (cut_encode occupied) text

/-- Replacing in octets gives the octets of what replacing in the text gives. -/
theorem replaced_encode (replacement text : List Char) :
    replaced (encode needle) (encode replacement) (encode text) =
      encode (replaced needle replacement text) := by
  rw [replaced_eq_joined, pieces_encode occupied, joined_of_append encode_nil encode_append,
    replaced_eq_joined]

/-- The octets of a needle occur just where the needle does. -/
theorem occurs_encode (text : List Char) :
    occurs (encode needle) (encode text) = occurs needle text := by
  rw [occurs, cut_encode occupied, Option.isSome_map, occurs]

omit occupied in
/-- Octets start with those of a needle just if the text does with the needle. -/
theorem startsWith_encode (text : List Char) :
    startsWith (encode needle) (encode text) = startsWith needle text := by
  rw [startsWith, dropStart_encode, Option.isSome_map, startsWith]

/-- The octets of a text end with those of a needle just if the text ends with the needle. -/
theorem endsWith_encode (text : List Char) :
    endsWith (encode needle) (encode text) = endsWith needle text := by
  rw [Bool.eq_iff_iff, endsWith_iff, endsWith_iff]
  constructor
  · rintro ⟨before, same⟩
    cases needle with
    | nil => exact absurd rfl occupied
    | cons n needle =>
      -- The needle starts with an octet that is no tail, so the text is cut before a code point.
      obtain ⟨first, tails, octets, start, _⟩ := encodeChar_eq n
      rw [encode_cons, octets, List.cons_append] at same
      obtain ⟨front, back, rfl, _, ending⟩ := of_encode_eq_append start same.symm
      rw [← List.cons_append, ← octets, ← encode_cons] at ending
      exact ⟨front, by rw [← decodeLossy_encode back, ← ending, decodeLossy_encode]⟩
  · rintro ⟨before, rfl⟩
    exact ⟨encode before, (encode_append before needle).symm⟩

end Search

namespace Text

/-- Searches in a string and in its octets agree for every needle that is not empty: whether it
occurs, and at which end, the pieces that it cuts, and what stands there once it is replaced. -/
theorem search_encode (text replacement : List Char) {needle : List Char} (occupied : needle ≠ []) :
    (Text.octets (Utf8.encode text)).contains (Utf8.encode needle) =
        (Text.chars text).contains (Utf8.encode needle) ∧
      (Text.octets (Utf8.encode text)).startsWith (Utf8.encode needle) =
        (Text.chars text).startsWith (Utf8.encode needle) ∧
      (Text.octets (Utf8.encode text)).endsWith (Utf8.encode needle) =
        (Text.chars text).endsWith (Utf8.encode needle) ∧
      (Text.octets (Utf8.encode text)).split (Utf8.encode needle) =
        ((Text.chars text).split (Utf8.encode needle)).map (fun piece => .octets piece.toOctets) ∧
      (Text.octets (Utf8.encode text)).replaceAll (Utf8.encode needle) (Utf8.encode replacement) =
        .octets ((Text.chars text).replaceAll (Utf8.encode needle)
          (Utf8.encode replacement)).toOctets := by
  -- A needle that is not empty has octets as well, and these decode to the needle.
  have full : needle.isEmpty = false := List.isEmpty_eq_false_iff.2 occupied
  simp only [contains, startsWith, endsWith, split, replaceAll, Utf8.decodeLossy_encode,
    Utf8.isEmpty_encode, full, Bool.false_eq_true, if_false]
  refine ⟨Search.occurs_encode occupied text, Search.startsWith_encode text,
    Search.endsWith_encode occupied text, ?_, ?_⟩
  · rw [Search.pieces_encode occupied, List.map_map, List.map_map]
    rfl
  · rw [Search.replaced_encode occupied]
    rfl

/-- A letter of two octets is found in the octets of a text, not at their end, and cuts them. -/
theorem search_encode_accent :
    (Text.chars ['a', 'ñ', 'b']).contains (Utf8.encode ['ñ']) = true ∧
      (Text.chars ['a', 'ñ', 'b']).endsWith (Utf8.encode ['ñ']) = false ∧
      (Text.octets (Utf8.encode ['a', 'ñ', 'b'])).split (Utf8.encode ['ñ']) =
        ((Text.chars ['a', 'ñ', 'b']).split (Utf8.encode ['ñ'])).map
          fun piece => .octets piece.toOctets := by
  have occupied : ['ñ'] ≠ [] := by decide
  obtain ⟨contained, _, ended, cut, _⟩ := search_encode ['a', 'ñ', 'b'] ['n'] occupied
  exact ⟨contained.symm.trans (by decide), ended.symm.trans (by decide), cut⟩

end Text

end Reshape
