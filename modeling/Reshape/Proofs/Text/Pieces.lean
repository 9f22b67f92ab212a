import Reshape.Builtin.Collection
import Reshape.Proofs.Text.Search
import Reshape.Proofs.Text.Utf8

/-!
Splitting, joining and replacing. A needle cuts a sequence at its first occurrence, so the pieces
between its occurrences have none in them and are the sequence again with the needle between them.
Replacing a needle joins the same pieces with something else. Each cut leaves less to search, so there
is no endless search. Strings and octets are split alike, and a string that an empty delimiter splits
is joined again as well.
-/

namespace Reshape

namespace Search

variable {α : Type} [BEq α]

section Pieces

variable [LawfulBEq α] {needle haystack before after : List α}

/-- A cut takes out one occurrence of the needle. -/
theorem append_of_cut (found : cut needle haystack = some (before, after)) :
    haystack = before ++ needle ++ after := by
  -- The induction follows the search: the needle stands at the start, or further on.
  induction haystack generalizing before with
  | nil =>
    simp only [cut, Option.map_eq_some_iff, Prod.mk.injEq] at found
    obtain ⟨rest, start, rfl, rfl⟩ := found
    exact dropStart_eq_some.1 start
  | cons h haystack ih =>
    rw [cut] at found
    split at found
    · next start =>
      simp only [Option.some.injEq, Prod.mk.injEq] at found
      obtain ⟨rfl, rfl⟩ := found
      exact dropStart_eq_some.1 start
    · simp only [Option.map_eq_some_iff, Prod.mk.injEq, Prod.exists] at found
      obtain ⟨front, back, inner, rfl, rfl⟩ := found
      simpa using ih inner

/-- A sequence that the needle does not cut does not start with it. -/
theorem not_prefix_of_dropStart (missing : dropStart needle haystack = none) :
    ¬needle <+: haystack := by
  rintro ⟨rest, rfl⟩
  rw [dropStart_eq_some.2 rfl] at missing
  cases missing

/-- A needle does not occur where there is no cut. -/
theorem not_infix_of_cut (missing : cut needle haystack = none) : ¬needle <:+: haystack := by
  -- Every place has been tried, the end too, where an empty needle would stand.
  induction haystack with
  | nil =>
    rw [cut, Option.map_eq_none_iff] at missing
    rw [List.infix_nil]
    rintro rfl
    exact not_prefix_of_dropStart missing (List.prefix_refl [])
  | cons h haystack ih =>
    rw [cut] at missing
    split at missing
    · cases missing
    · next start =>
      rw [List.infix_cons_iff, not_or]
      exact ⟨not_prefix_of_dropStart start, ih (Option.map_eq_none_iff.1 missing)⟩

/-- The needle is cut out where it occurs first: it does not even occur where it overlaps that
occurrence. -/
theorem first_of_cut (occupied : needle ≠ [])
    (found : cut needle haystack = some (before, after)) :
    ¬needle <:+: before ++ needle.dropLast := by
  -- A needle is longer than what is left of it without its last element.
  have start : ¬needle <:+: [] ++ needle.dropLast := fun within => by
    have length := within.length_le
    have positive := List.length_pos_iff.2 occupied
    rw [List.nil_append, List.length_dropLast] at length
    omega
  induction haystack generalizing before after with
  | nil =>
    simp only [cut, Option.map_eq_some_iff, Prod.mk.injEq] at found
    obtain ⟨rest, -, rfl, -⟩ := found
    exact start
  | cons h haystack ih =>
    rw [cut] at found
    split at found
    · simp only [Option.some.injEq, Prod.mk.injEq] at found
      obtain ⟨rfl, -⟩ := found
      exact start
    · next missing =>
      simp only [Option.map_eq_some_iff, Prod.mk.injEq, Prod.exists] at found
      obtain ⟨front, back, inner, rfl, -⟩ := found
      -- An occurrence at the start would be one at the start of the sequence.
      have shorter : h :: (front ++ needle.dropLast) <+: h :: haystack := by
        rw [append_of_cut inner, List.cons_prefix_cons, List.append_assoc,
          List.prefix_append_right_inj]
        exact ⟨rfl, (List.dropLast_prefix needle).trans (List.prefix_append needle back)⟩
      rw [List.cons_append, List.infix_cons_iff, not_or]
      exact ⟨fun early => not_prefix_of_dropStart missing (early.trans shorter), ih inner⟩

/-- The pieces with the needle between them are the sequence. -/
theorem joined_pieces (needle haystack : List α) :
    joined needle (pieces needle haystack) = haystack := by
  -- Each cut takes off one piece and the needle behind it.
  fun_induction pieces needle haystack with
  | case1 haystack empty => simp [joined]
  | case2 haystack full missing => simp [joined]
  | case3 haystack full before after found ih =>
    rw [joined_cons (pieces_ne_nil needle after), ih, append_of_cut found]

/-- A needle does not occur in the pieces that it cuts. -/
theorem not_infix_of_mem_pieces (occupied : needle ≠ []) {piece : List α}
    (among : piece ∈ pieces needle haystack) : ¬needle <:+: piece := by
  -- A piece ends before the first occurrence, and nothing is cut in the last one.
  fun_induction pieces needle haystack with
  | case1 haystack empty => exact absurd (List.isEmpty_iff.1 empty) occupied
  | case2 haystack full missing =>
    obtain rfl := List.mem_singleton.1 among
    exact not_infix_of_cut missing
  | case3 haystack full before after found ih =>
    obtain rfl | later := List.mem_cons.1 among
    · intro within
      exact first_of_cut occupied found (within.trans (List.prefix_append _ _).isInfix)
    · exact ih later

end Pieces

/-- Parts with nothing between them are the parts one after another. -/
theorem joined_nil {β : Type} (parts : List (List β)) : joined [] parts = parts.flatten := by
  induction parts with
  | nil => rfl
  | cons part rest ih =>
    cases rest with
    | nil => simp [joined]
    | cons next rest => rw [joined_cons (List.cons_ne_nil next rest), ih]; simp

section Passes

variable {needle haystack : List α}

/-- A pass of the search for a needle leaves what follows an occurrence. -/
def Leaves (needle after haystack : List α) : Prop :=
  ∃ before, cut needle haystack = some (before, after)

/-- No search for a needle that is not empty makes passes without end. -/
theorem wellFounded_leaves (occupied : needle ≠ []) : WellFounded (Leaves needle) := by
  -- Each pass leaves a shorter sequence.
  refine Subrelation.wf ?_ (measure List.length).wf
  rintro after haystack ⟨before, found⟩
  exact length_after_lt (mt List.isEmpty_iff.1 occupied) found

/-- There are no more passes than needles that the sequence has room for. -/
theorem length_pieces (occupied : needle ≠ []) :
    (pieces needle haystack).length * needle.length ≤ haystack.length + needle.length := by
  -- Every piece but the last one has the needle behind it.
  fun_induction pieces needle haystack with
  | case1 haystack empty => exact absurd (List.isEmpty_iff.1 empty) occupied
  | case2 haystack full missing => simp
  | case3 haystack full before after found ih =>
    rw [List.length_cons, Nat.succ_mul, length_cut found]
    omega

end Passes

end Search

namespace Text

/-- Octets as a text of the same kind as another one: for a string, the text they hold. -/
def reads (text : Text) (octets : Bytes) : Text :=
  match text with
  | .chars _ => .chars (Utf8.decodeLossy octets)
  | .octets _ => .octets octets

/-- A text is made of parts of its kind, with a separator between each and the next. -/
inductive IsJoined : Text → List Text → Text → Prop where
  | chars (separator : List Char) (parts : List (List Char)) :
    IsJoined (.chars separator) (parts.map .chars) (.chars (separator.intercalate parts))
  | octets (separator : Bytes) (parts : List Bytes) :
    IsJoined (.octets separator) (parts.map .octets) (.octets (separator.intercalate parts))

/-- A text occurs in another one of its kind. -/
inductive Within : Text → Text → Prop where
  | chars {needle text : List Char} : needle <:+: text → Within (.chars needle) (.chars text)
  | octets {needle data : Bytes} : needle <:+: data → Within (.octets needle) (.octets data)

/-- Octets hold some text just if there are any. -/
theorem decodeLossy_ne_nil {octets : Bytes} (occupied : octets ≠ []) :
    Utf8.decodeLossy octets ≠ [] := by
  cases octets with
  | nil => exact absurd rfl occupied
  | cons b rest =>
    -- The first octet begins a code point or an ill-formed part, and each gives a code point.
    rw [Utf8.decodeLossy, Utf8.parts]
    exact List.cons_ne_nil _ _

section Delimited

variable {delimiter : Bytes} (occupied : delimiter ≠ [])

include occupied

/-- A delimiter cuts the code points of a string. -/
theorem split_chars (text : List Char) : (Text.chars text).split delimiter =
    (Search.pieces (Utf8.decodeLossy delimiter) text).map .chars :=
  if_neg (mt List.isEmpty_iff.1 (decodeLossy_ne_nil occupied))

/-- A delimiter cuts octets. -/
theorem split_octets (data : Bytes) :
    (Text.octets data).split delimiter = (Search.pieces delimiter data).map .octets :=
  if_neg (mt List.isEmpty_iff.1 occupied)

/-- The pieces of a text with the delimiter between them are the text. -/
theorem isJoined_split (text : Text) :
    IsJoined (text.reads delimiter) (text.split delimiter) text := by
  -- A string is cut by the decoded delimiter, and octets by the delimiter itself.
  cases text with
  | chars text =>
    have joined := IsJoined.chars (Utf8.decodeLossy delimiter)
      (Search.pieces (Utf8.decodeLossy delimiter) text)
    rwa [← Search.joined, Search.joined_pieces, ← split_chars occupied] at joined
  | octets data =>
    have joined := IsJoined.octets delimiter (Search.pieces delimiter data)
    rwa [← Search.joined, Search.joined_pieces, ← split_octets occupied] at joined

/-- The delimiter does not occur in the pieces of a text. -/
theorem not_within_split {text piece : Text} (among : piece ∈ text.split delimiter) :
    ¬Within (text.reads delimiter) piece := by
  -- A string is cut by the decoded delimiter, and octets by the delimiter itself.
  cases text with
  | chars text =>
    rw [split_chars occupied, List.mem_map] at among
    obtain ⟨part, among, rfl⟩ := among
    rintro ⟨within⟩
    exact Search.not_infix_of_mem_pieces (decodeLossy_ne_nil occupied) among within
  | octets data =>
    rw [split_octets occupied, List.mem_map] at among
    obtain ⟨part, among, rfl⟩ := among
    rintro (_ | ⟨within⟩)
    exact Search.not_infix_of_mem_pieces occupied among within

/-- Replacing the delimiter puts the replacement between the pieces of a text. -/
theorem isJoined_replaceAll (text : Text) (replacement : Bytes) :
    IsJoined (text.reads replacement) (text.split delimiter)
      (text.replaceAll delimiter replacement) := by
  -- A delimiter that is not empty does not become empty when it is decoded.
  cases text with
  | chars text =>
    have replaced : (Text.chars text).replaceAll delimiter replacement = .chars
        (Search.replaced (Utf8.decodeLossy delimiter) (Utf8.decodeLossy replacement) text) :=
      if_neg (mt List.isEmpty_iff.1 (decodeLossy_ne_nil occupied))
    rw [split_chars occupied, replaced, Search.replaced_eq_joined]
    exact .chars _ _
  | octets data =>
    rw [split_octets occupied, replaceAll, Search.replaced_eq_joined]
    exact .octets _ _

end Delimited

end Text

namespace Collection

/-- Strings are joined by joining their code points. -/
theorem join_chars (delimiter : String) (parts : List (List Char)) :
    join delimiter (.array ((parts.map Text.chars).map Text.toValue)) =
      .ok (.string (String.ofList (delimiter.toList.intercalate parts))) := by
  -- All the parts are strings, so none of them is refused.
  have read : ((parts.map Text.chars).map Text.toValue).mapM string =
      .ok (parts.map String.ofList) := by
    rw [List.map_map, List.mapM_map]
    exact List.mapM_pure
  have joined : join delimiter (.array ((parts.map Text.chars).map Text.toValue)) =
      (((parts.map Text.chars).map Text.toValue).mapM string).map fun parts =>
        .string (delimiter.intercalate parts) := rfl
  have codes : (delimiter.intercalate (parts.map String.ofList)).toList =
      delimiter.toList.intercalate parts := by
    rw [String.toList_intercalate, List.map_map]
    simp [Function.comp_def]
  rw [joined, read, ← codes, String.ofList_toList]
  rfl

/-- A string is its pieces joined again, whatever delimits them. -/
theorem join_split (text delimiter : String) :
    join delimiter (.array (((Text.chars text.toList).split (Utf8.ofText delimiter)).map
      Text.toValue)) = .ok (.string text) := by
  have read : Utf8.decodeLossy (Utf8.ofText delimiter) = delimiter.toList :=
    Utf8.decodeLossy_encode delimiter.toList
  have same : String.ofList text.toList = text := String.ofList_toList
  unfold Text.split
  simp only [read]
  split
  next empty =>
    -- An empty delimiter cuts a string into its code points.
    have single : text.toList.map (fun c => Text.chars [c]) =
        (text.toList.map fun c => [c]).map Text.chars := by simp
    rw [single, join_chars, List.isEmpty_iff.1 empty, ← Search.joined, Search.joined_nil,
      ← List.flatMap_def, List.flatMap_singleton', same]
  next => rw [join_chars, ← Search.joined, Search.joined_pieces, same]

/-- Splitting, joining and replacing fit together. The pieces of a text between the occurrences of a
delimiter are the text again with the delimiter between them; the delimiter does not occur in them,
and it is replaced by joining them with the replacement. Strings are joined again whatever delimits
their pieces. The search in octets ends after a number of passes that is bounded by their length. -/
theorem split_joins :
    (∀ (text : Text) (delimiter : Bytes), delimiter ≠ [] →
      Text.IsJoined (text.reads delimiter) (text.split delimiter) text ∧
      (∀ piece ∈ text.split delimiter, ¬Text.Within (text.reads delimiter) piece) ∧
      ∀ replacement : Bytes, Text.IsJoined (text.reads replacement) (text.split delimiter)
        (text.replaceAll delimiter replacement)) ∧
    (∀ text delimiter : String,
      join delimiter (.array (((Text.chars text.toList).split (Utf8.ofText delimiter)).map
        Text.toValue)) = .ok (.string text)) ∧
    ∀ needle : Bytes, needle ≠ [] → WellFounded (Search.Leaves needle) ∧
      ∀ haystack : Bytes, (Search.pieces needle haystack).length * needle.length ≤
        haystack.length + needle.length :=
  ⟨fun text _ occupied => ⟨Text.isJoined_split occupied text,
      fun _ among => Text.not_within_split occupied among,
      Text.isJoined_replaceAll occupied text⟩,
    join_split,
    fun _ occupied => ⟨Search.wellFounded_leaves occupied, fun _ => Search.length_pieces occupied⟩⟩

/-- A delimiter that overlaps itself is taken from the left, here out of three equal octets. -/
theorem split_joins_overlapping :
    ([0x61, 0x61] : Bytes) ≠ [] ∧
    (Text.octets [0x61, 0x61, 0x61]).split [0x61, 0x61] = [.octets [], .octets [0x61]] ∧
    Text.IsJoined (.octets [0x61, 0x61]) [.octets [], .octets [0x61]]
      (.octets [0x61, 0x61, 0x61]) ∧
    Text.IsJoined (.octets [0x2D]) [.octets [], .octets [0x61]]
      ((Text.octets [0x61, 0x61, 0x61]).replaceAll [0x61, 0x61] [0x2D]) := by
  -- The second and third octet would match as well, but the first two are cut out before.
  have occupied : ([0x61, 0x61] : Bytes) ≠ [] := by decide
  have pieces : (Text.octets [0x61, 0x61, 0x61]).split [0x61, 0x61] =
      [.octets [], .octets [0x61]] := by
    simp [Text.split, Search.pieces, Search.cut, Search.dropStart]
  obtain ⟨whole, -, replaced⟩ := split_joins.1 (.octets [0x61, 0x61, 0x61]) _ occupied
  rw [pieces] at whole replaced
  exact ⟨occupied, pieces, whole, replaced [0x2D]⟩

end Collection

end Reshape
