import Mathlib.Data.List.DropRight
import Reshape.Text.Blank
import Reshape.Text.Search

/-!
Searching in sequences that are carried over to others. Where cuts are carried over, so are pieces
and replacements. This is so under a renaming of elements: where different elements get different
names, a needle is found in renamed sequences where it is found in the sequences themselves.
-/

namespace Reshape

namespace Search

variable {α β : Type}

section Found

variable [BEq α] [LawfulBEq α] {needle haystack rest : List α}

/-- What is left behind a needle at the start, if it stands there. -/
theorem dropStart_eq_some : dropStart needle haystack = some rest ↔ haystack = needle ++ rest := by
  -- The code points of the needle are compared one by one with those at the start.
  fun_induction dropStart needle haystack with
  | case1 rest' => simp
  | case2 => simp
  | case3 n needle h rest' same ih =>
    obtain rfl := eq_of_beq same
    simp [ih]
  | case4 n needle h rest' different =>
    have apart : h ≠ n := fun same => different (beq_iff_eq.2 same.symm)
    simp [apart]

/-- A sequence starts with a needle just if the needle is a prefix. -/
theorem startsWith_iff : startsWith needle haystack = true ↔ needle <+: haystack := by
  simp only [startsWith, Option.isSome_iff_exists, dropStart_eq_some]
  exact exists_congr fun rest => eq_comm

/-- A sequence ends with a needle just if the needle is a suffix. -/
theorem endsWith_iff : endsWith needle haystack = true ↔ needle <:+ haystack := by
  rw [endsWith, startsWith_iff, List.reverse_prefix]

end Found

section Joined

/-- What follows the first part stands behind a separator. -/
theorem joined_cons {separator part : List α} {rest : List (List α)} (more : rest ≠ []) :
    joined separator (part :: rest) = part ++ separator ++ joined separator rest := by
  -- Separators stand between parts only, so the rest has to have one.
  cases rest with
  | nil => exact absurd rfl more
  | cons next rest => simp [joined, List.intercalate]

variable [BEq α]

/-- A sequence is always cut into some piece. -/
theorem pieces_ne_nil (needle haystack : List α) : pieces needle haystack ≠ [] := by
  unfold pieces
  split
  · simp
  · split <;> simp

/-- Replacing a needle puts the replacement between the pieces that the needle cuts. -/
theorem replaced_eq_joined (needle replacement haystack : List α) :
    replaced needle replacement haystack = joined replacement (pieces needle haystack) := by
  -- Both go from one occurrence to the next, so the induction is on the cuts.
  fun_induction pieces needle haystack with
  | case1 haystack empty =>
    rw [replaced, if_pos empty]
    simp [joined]
  | case2 haystack full missing =>
    rw [replaced, if_neg full]
    split <;> simp_all [joined]
  | case3 haystack full before after found ih =>
    rw [replaced, if_neg full, joined_cons (pieces_ne_nil needle after), ← ih]
    split <;> simp_all

end Joined

section Carried

variable {carry : List α → List β}

/-- Pieces are carried over if cuts are. -/
theorem pieces_of_cut [BEq α] [BEq β] {needle : List α} {needle' : List β}
    (occupied : needle'.isEmpty = needle.isEmpty)
    (cuts : ∀ haystack, cut needle' (carry haystack) =
      (cut needle haystack).map (Prod.map carry carry)) (haystack : List α) :
    pieces needle' (carry haystack) = (pieces needle haystack).map carry := by
  -- Both sides cut at the same place, and the pieces behind it are carried over by recursion.
  fun_induction pieces needle haystack with
  | case1 haystack empty =>
    rw [pieces, if_pos (occupied.trans empty)]
    rfl
  | case2 haystack full missing =>
    have carried : cut needle' (carry haystack) = none := by rw [cuts, missing, Option.map_none]
    rw [pieces, if_neg (occupied ▸ full)]
    split <;> simp_all
  | case3 haystack full before after found ih =>
    have carried : cut needle' (carry haystack) = some (carry before, carry after) := by
      rw [cuts, found, Option.map_some, Prod.map_apply]
    rw [pieces, if_neg (occupied ▸ full)]
    split <;> simp_all

/-- Joining is carried over by what keeps the empty sequence and appending. -/
theorem joined_of_append (empty : carry [] = [])
    (append : ∀ first second, carry (first ++ second) = carry first ++ carry second)
    (separator : List α) (parts : List (List α)) :
    joined (carry separator) (parts.map carry) = carry (joined separator parts) := by
  -- The separator stands between two pieces, so the last one is a case of its own.
  induction parts with
  | nil => exact empty.symm
  | cons part rest ih =>
    cases rest with
    | nil => simp [joined, List.intercalate]
    | cons next rest =>
      simp only [joined, List.intercalate, List.map_cons, List.intersperse_cons_cons,
        List.flatten_cons, append] at ih ⊢
      rw [ih]

end Carried

variable [BEq α] [LawfulBEq α] [BEq β] [LawfulBEq β] {rename : α → β}
  (injective : rename.Injective)

include injective

/-- A needle at the start is found under other names. -/
theorem dropStart_map (needle haystack : List α) :
    dropStart (needle.map rename) (haystack.map rename) =
      (dropStart needle haystack).map (List.map rename) := by
  -- Different code points have different names.
  fun_induction dropStart needle haystack with
  | case1 => rfl
  | case2 => rfl
  | case3 n needle h rest same ih =>
    obtain rfl := eq_of_beq same
    simpa [dropStart] using ih
  | case4 n needle h rest different =>
    have apart : rename n ≠ rename h := fun same => different (beq_iff_eq.2 (injective same))
    simp [dropStart, apart]

/-- A needle is cut out at the same place under other names. -/
theorem cut_map (needle haystack : List α) :
    cut (needle.map rename) (haystack.map rename) =
      (cut needle haystack).map (Prod.map (List.map rename) (List.map rename)) := by
  -- The needle is found at the start, or one code point further on.
  induction haystack with
  | nil =>
    have start := dropStart_map injective needle []
    rw [List.map_nil] at start
    simp only [List.map_nil, cut, start, Option.map_map]
    rfl
  | cons h rest ih =>
    have start := dropStart_map injective needle (h :: rest)
    rw [List.map_cons] at start
    rw [List.map_cons, cut, cut, start]
    cases dropStart needle (h :: rest) with
    | some after => rfl
    | none =>
      simp only [Option.map_none, ih, Option.map_map]
      rfl

/-- A needle occurs under other names where it does. -/
theorem occurs_map (needle haystack : List α) :
    occurs (needle.map rename) (haystack.map rename) = occurs needle haystack := by
  rw [occurs, cut_map injective, Option.isSome_map, occurs]

/-- A sequence starts with a needle under other names if it does. -/
theorem startsWith_map (needle haystack : List α) :
    startsWith (needle.map rename) (haystack.map rename) = startsWith needle haystack := by
  rw [startsWith, dropStart_map injective, Option.isSome_map, startsWith]

/-- A sequence ends with a needle under other names if it does. -/
theorem endsWith_map (needle haystack : List α) :
    endsWith (needle.map rename) (haystack.map rename) = endsWith needle haystack := by
  rw [endsWith, ← List.map_reverse, ← List.map_reverse, startsWith_map injective, endsWith]

/-- The pieces are those of the sequence under other names. -/
theorem pieces_map (needle haystack : List α) :
    pieces (needle.map rename) (haystack.map rename) =
      (pieces needle haystack).map (List.map rename) :=
  pieces_of_cut (List.isEmpty_map) (cut_map injective needle) haystack

/-- Replacing gives under other names what it gives. -/
theorem replaced_map (needle replacement haystack : List α) :
    replaced (needle.map rename) (replacement.map rename) (haystack.map rename) =
      (replaced needle replacement haystack).map rename := by
  rw [replaced_eq_joined, pieces_map injective,
    joined_of_append rfl fun _ _ => List.map_append, replaced_eq_joined]

end Search

namespace Text

variable {α β : Type}

/-- Under other names those elements are trimmed off whose names are to be dropped. -/
theorem trimmed_map (drop : β → Bool) (rename : α → β) (items : List α) :
    trimmed drop (items.map rename) = (trimmed (drop ∘ rename) items).map rename := by
  simp only [trimmed, List.dropWhile_map, ← List.map_reverse]

/-- What is trimmed off either end is dropped, and what is left has no end to be dropped. -/
theorem trimmed_spec (drop : α → Bool) (items : List α) :
    ∃ front back, items = front ++ trimmed drop items ++ back ∧
      (∀ item ∈ front, drop item) ∧ (∀ item ∈ back, drop item) ∧
      (∀ item ∈ (trimmed drop items).head?, ¬drop item) ∧
      ∀ item ∈ (trimmed drop items).getLast?, ¬drop item := by
  let rest := items.dropWhile drop
  have right : rest = trimmed drop items ++ rest.rtakeWhile drop := by
    rw [← List.reverse_inj, List.reverse_append, trimmed, List.rtakeWhile, List.reverse_reverse,
      List.reverse_reverse, List.takeWhile_append_dropWhile]
  refine ⟨items.takeWhile drop, rest.rtakeWhile drop, ?_, ?_, ?_, ?_, ?_⟩
  · rw [List.append_assoc, ← right, List.takeWhile_append_dropWhile]
  · exact fun item among => List.mem_takeWhile_imp among
  · exact fun item among => List.mem_takeWhile_imp (List.mem_reverse.1 among)
  · intro item first
    -- What comes first after the trimming comes first in the rest, whose first is not dropped.
    have head : rest.head? = some item := by rw [right, List.head?_append, first, Option.some_or]
    have refused := List.head?_dropWhile_not drop items
    rw [head] at refused
    simpa using refused
  · intro item last
    rw [trimmed, List.getLast?_reverse] at last
    have refused := List.head?_dropWhile_not drop rest.reverse
    rw [last] at refused
    simpa using refused

/-- Elements to be dropped at either end are trimmed off those between, if no end of them is. -/
theorem trimmed_of_ends {drop : α → Bool} {front core back : List α}
    (before : ∀ item ∈ front, drop item) (after : ∀ item ∈ back, drop item)
    (first : ∀ item ∈ core.head?, ¬drop item) (last : ∀ item ∈ core.getLast?, ¬drop item) :
    trimmed drop (front ++ core ++ back) = core := by
  -- What is dropped in front stops at the first element of the core, and behind at its last one.
  cases core with
  | nil =>
    have none : (front ++ [] ++ back).dropWhile drop = [] := by
      rw [List.dropWhile_eq_nil_iff]
      simpa [or_imp, forall_and] using ⟨before, after⟩
    rw [trimmed, none]
    rfl
  | cons item rest =>
    have left : (item :: rest ++ back).dropWhile drop = item :: rest ++ back :=
      List.dropWhile_cons_of_neg (first item rfl)
    have right : (item :: rest).reverse.dropWhile drop = (item :: rest).reverse := by
      rw [List.dropWhile_eq_self_iff]
      intro occupied
      refine last _ ?_
      rw [Option.mem_def, ← List.head?_reverse, List.head?_eq_getElem?]
      exact List.getElem?_eq_getElem occupied
    rw [trimmed, List.append_assoc, List.dropWhile_append_of_pos before, left, List.reverse_append,
      List.dropWhile_append_of_pos (by simpa using after), right, List.reverse_reverse]

end Text

end Reshape
