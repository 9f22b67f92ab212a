import Reshape.Text.Tables.Clusters

/-!
Extended grapheme clusters: the units that a reader takes for one character. A text is cut between
two code points unless a rule joins them, and every code point belongs to one cluster.
-/

namespace Reshape.Text

/-- How a code point takes part in clusters. -/
inductive BreakClass where
  | carriageReturn
  | lineFeed
  | control
  | extend
  | joiner
  | regional
  | prepend
  | spacing
  | leadingJamo
  | vowelJamo
  | trailingJamo
  | openSyllable
  | closedSyllable
  | other
  deriving DecidableEq, Repr

/-- The break class of a code point. -/
def breakClass (c : Char) : BreakClass :=
  let n := c.toNat
  if n == 0x0D then .carriageReturn
  else if n == 0x0A then .lineFeed
  else if n < 0x20 then .control
  else if n < 0x7F then .other
  else if n == 0x200D then .joiner
  else if 0xAC00 ≤ n ∧ n ≤ 0xD7A3 then
    if (n - 0xAC00) % 28 == 0 then .openSyllable else .closedSyllable
  else match Clusters.breaks.tag? n with
    | some 0 => .control
    | some 1 => .extend
    | some 2 => .regional
    | some 3 => .prepend
    | some 4 => .spacing
    | some 5 => .leadingJamo
    | some 6 => .vowelJamo
    | some 7 => .trailingJamo
    | _ => .other

/-- Whether a code point is an extended pictograph. -/
def isPictograph (c : Char) : Bool :=
  0x7F < c.toNat && Clusters.pictographs.has c.toNat

/-- What the code points of the cluster so far mean for the next boundary. -/
structure ClusterState where
  /-- The break class of the last code point. -/
  last : BreakClass
  /-- A pictograph with extenders stands at the end. -/
  pictograph : Bool
  /-- That, followed by a joiner. -/
  joined : Bool
  /-- The last code point is a regional indicator without a partner. -/
  unpaired : Bool
  /-- A consonant of a conjunct script stands at the end, past marks. -/
  consonant : Bool
  /-- That, with a linker among the marks. -/
  linked : Bool

/-- Whether a code point may stand between a consonant and the next one of a conjunct. -/
def extendsConjunct (c : Char) : Bool :=
  c.toNat == 0x200D || Clusters.combining.has c.toNat

/-- The state after a code point, given the state before it. -/
def ClusterState.after (before : Option ClusterState) (c : Char) : ClusterState :=
  let kind := breakClass c
  let consonant := 0x7F < c.toNat && Clusters.conjunctConsonants.has c.toNat
  let linker := 0x7F < c.toNat && Clusters.conjunctLinkers.has c.toNat
  let mark := linker || (0x7F < c.toNat && extendsConjunct c)
  match before with
  | none => ⟨kind, isPictograph c, false, kind == .regional, consonant, false⟩
  | some state =>
    { last := kind
      pictograph := isPictograph c || (state.pictograph && kind == .extend)
      joined := state.pictograph && kind == .joiner
      unpaired := kind == .regional && !state.unpaired
      consonant := consonant || (state.consonant && mark)
      linked := !consonant && state.consonant && mark && (state.linked || linker) }

/-- Whether the rules join a code point to the cluster before it. -/
def ClusterState.joins (state : ClusterState) (c : Char) : Bool :=
  let kind := breakClass c
  match state.last, kind with
  | .carriageReturn, .lineFeed => true
  | .carriageReturn, _ | .lineFeed, _ | .control, _ => false
  | _, .carriageReturn | _, .lineFeed | _, .control => false
  | .leadingJamo, .leadingJamo | .leadingJamo, .vowelJamo
  | .leadingJamo, .openSyllable | .leadingJamo, .closedSyllable => true
  | .openSyllable, .vowelJamo | .openSyllable, .trailingJamo
  | .vowelJamo, .vowelJamo | .vowelJamo, .trailingJamo => true
  | .closedSyllable, .trailingJamo | .trailingJamo, .trailingJamo => true
  | _, .extend | _, .joiner | _, .spacing => true
  | .prepend, _ => true
  -- Regional indicators make pairs, counted from the start of the cluster.
  | .regional, .regional => state.unpaired
  | _, _ =>
    (state.joined && isPictograph c) ||
      (state.linked && 0x7F < c.toNat && Clusters.conjunctConsonants.has c.toNat)

/-- The clusters of a text, given the code points of the open cluster, the last one first. -/
def clustersFrom (state : ClusterState) (opened : List Char) : List Char → List (List Char)
  | [] => [opened.reverse]
  | c :: rest =>
    if state.joins c then clustersFrom (.after (some state) c) (c :: opened) rest
    else opened.reverse :: clustersFrom (.after none c) [c] rest

/-- The extended grapheme clusters of a text, in order. -/
def clusters : List Char → List (List Char)
  | [] => []
  | c :: rest => clustersFrom (.after none c) [c] rest

end Reshape.Text
