/-!
Differences between texts, line by line: the lines that both have, as many as can be in the order of
both, and between them the lines of one only.
-/

namespace Reshape

/-- Lines next to each other that both texts have, or one of them. -/
inductive Difference where
  | same (lines : List String)
  | removed (lines : List String)
  | added (lines : List String)
  deriving DecidableEq, Repr

namespace Difference

/-- For each end of a list of lines, how many lines can be shared with the lines that start with a
line, given the same for the lines behind it. -/
def row (line : String) : List String → List Nat → List Nat
  | other :: others, behind :: behinds =>
    let rest := row line others behinds
    let best :=
      if line = other then behinds.headD 0 + 1 else max behind (rest.headD 0)
    best :: rest
  | _, _ => [0]

/-- The rows for all ends of a list of lines. -/
def table (others : List String) : List String → List (List Nat)
  | [] => [List.replicate (others.length + 1) 0]
  | line :: rest =>
    let rows := table others rest
    row line others (rows.headD []) :: rows

/-- The shared lines, found along the rows of a table: a line is left out if as many can be shared
without it, one of the first list before one of the second. -/
def trace : List String → List String → List (List Nat) → List String
  | line :: rest, other :: others, current :: behind :: rows =>
    let best := current.headD 0
    if best = behind.headD 0 then trace rest (other :: others) (behind :: rows)
    else if best = current.tail.headD 0 then
      trace (line :: rest) others ((current :: behind :: rows).map List.tail)
    else line :: trace rest others ((behind :: rows).map List.tail)
  | _, _, _ => []
termination_by lines others => lines.length + others.length

/-- The lines that two lists share, found from their ends. -/
def shared (before after : List String) : List String :=
  let before := before.reverse
  let after := after.reverse
  (trace before after (table after before)).reverse

/-- The lines up to the next shared one, and those from it on. -/
def upTo (shared : Option String) (lines : List String) : List String × List String :=
  lines.span fun line => some line ≠ shared

/-- The lines that all three lists start with, and what follows them in each. -/
def common : List String → List String → List String →
    List String × List String × List String × List String
  | line :: before, other :: after, both :: shared =>
    if line = both ∧ other = both then
      let (lines, rest) := common before after shared
      (line :: lines, rest)
    else ([], line :: before, other :: after, both :: shared)
  | before, after, shared => ([], before, after, shared)

/-- The differences between lists of lines along the lines that they share. -/
def along : Nat → List String → List String → List String → List Difference
  | 0, _, _, _ => []
  | fuel + 1, before, after, shared =>
    if before.isEmpty && after.isEmpty then []
    else
      let (lines, before, after, shared) := common before after shared
      let (gone, before) := upTo shared.head? before
      let (new, after) := upTo shared.head? after
      let part := fun (kind : List String → Difference) (lines : List String) =>
        if lines.isEmpty then [] else [kind lines]
      part same lines ++ part removed gone ++ part added new ++
        along fuel before after shared

/-- The lines of a text; the empty text has none. -/
def linesOf (text : String) : List String :=
  if text.isEmpty then [] else text.splitOn "\n"

/-- The differences between two texts. A single empty line is not enough to be shared. -/
def between (before after : String) : List Difference :=
  let both := shared (before.splitOn "\n") (after.splitOn "\n")
  let both := if both = [""] then [] else both
  let before := linesOf before
  let after := linesOf after
  along (before.length + after.length + 1) before after both

/-- Lines as they are shown: an empty last one is not, nor a carriage return before a line end. -/
def shown (lines : List String) : List String :=
  let ended := lines.dropLast.map fun line =>
    if line.endsWith "\r" then (line.dropEnd 1).toString else line
  let last := lines.getLastD ""
  if last.isEmpty then ended else ended ++ [last]

/-- The lines that show a difference. -/
def report : Difference → List String
  | same lines => (shown lines).map ("    " ++ ·)
  | removed lines => (shown lines).map ("  - " ++ ·)
  | added lines => (shown lines).map ("  + " ++ ·)

end Difference

end Reshape
