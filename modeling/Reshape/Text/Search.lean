/-!
Searching sequences for a sub-sequence of adjacent elements: where it occurs first, and cutting a
sequence at its occurrences. The same operations serve code points and octets.
-/

namespace Reshape.Search

variable {α : Type} [BEq α]

/-- What follows a needle at the start of a sequence. -/
def dropStart : List α → List α → Option (List α)
  | [], rest => some rest
  | _ :: _, [] => none
  | n :: needle, h :: rest => if n == h then dropStart needle rest else none

/-- What stands before the first occurrence of a needle and what follows it. -/
def cut (needle : List α) : List α → Option (List α × List α)
  | [] => (dropStart needle []).map ([], ·)
  | h :: rest =>
    match dropStart needle (h :: rest) with
    | some after => some ([], after)
    | none => (cut needle rest).map fun (before, after) => (h :: before, after)

/-- Whether a needle occurs in a sequence. -/
def occurs (needle haystack : List α) : Bool :=
  (cut needle haystack).isSome

/-- Whether a sequence starts with a needle. -/
def startsWith (needle haystack : List α) : Bool :=
  (dropStart needle haystack).isSome

/-- Whether a sequence ends with a needle. -/
def endsWith (needle haystack : List α) : Bool :=
  startsWith needle.reverse haystack.reverse

omit [BEq α] in
/-- A needle and what is left behind it are as long as the whole. -/
theorem length_dropStart [BEq α] {needle haystack rest : List α}
    (found : dropStart needle haystack = some rest) :
    haystack.length = needle.length + rest.length := by
  -- The needle is dropped as the text is, character by character.
  fun_induction dropStart needle haystack with
  | case1 rest => simp_all
  | case2 => simp at found
  | case3 n needle h rest same ih =>
    simp only [List.length_cons, ih found]
    omega
  | case4 => simp at found

/-- What stands before a needle, the needle and what is left behind it are as long as the whole. -/
theorem length_cut {needle haystack before after : List α}
    (found : cut needle haystack = some (before, after)) :
    haystack.length = before.length + needle.length + after.length := by
  induction haystack generalizing before with
  | nil =>
    simp only [cut, Option.map_eq_some_iff, Prod.mk.injEq] at found
    obtain ⟨rest, start, rfl, rfl⟩ := found
    simpa using length_dropStart start
  | cons h rest ih =>
    rw [cut] at found
    -- Either the needle starts here, or it is looked for behind the first item.
    split at found
    · next start =>
      simp only [Option.some.injEq, Prod.mk.injEq] at found
      obtain ⟨rfl, rfl⟩ := found
      simpa using length_dropStart start
    · simp only [Option.map_eq_some_iff, Prod.mk.injEq, Prod.exists] at found
      obtain ⟨front, back, inner, rfl, rfl⟩ := found
      simp only [List.length_cons, ih inner]
      omega

/-- What follows an occurrence of a needle that is not empty is shorter than the sequence. -/
theorem length_after_lt {needle haystack before after : List α}
    (occupied : ¬needle.isEmpty = true) (found : cut needle haystack = some (before, after)) :
    after.length < haystack.length := by
  have length := length_cut found
  -- The needle has characters, and these are not left behind it.
  have positive : 0 < needle.length := by
    cases needle with
    | nil => simp at occupied
    | cons => simp
  omega

/-- The pieces of a sequence between the occurrences of a needle, from the left and without
overlap. An empty needle occurs nowhere here. -/
def pieces (needle haystack : List α) : List (List α) :=
  if needle.isEmpty then [haystack]
  else
    match _found : cut needle haystack with
    | none => [haystack]
    | some (before, after) => before :: pieces needle after
termination_by haystack.length
decreasing_by
  rename_i occupied
  exact length_after_lt occupied _found

/-- The pieces with a separator between each and the next. -/
def joined {β : Type} (separator : List β) (parts : List (List β)) : List β :=
  List.intercalate separator parts

/-- The sequence with every occurrence of a needle replaced, from the left and without overlap. An
empty needle occurs nowhere here. -/
def replaced (needle replacement haystack : List α) : List α :=
  if needle.isEmpty then haystack
  else
    match _found : cut needle haystack with
    | none => haystack
    | some (before, after) => before ++ replacement ++ replaced needle replacement after
termination_by haystack.length
decreasing_by
  rename_i occupied
  exact length_after_lt occupied _found

end Reshape.Search
