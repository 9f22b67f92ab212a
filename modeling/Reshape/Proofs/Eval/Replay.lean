import Reshape.Proofs.Eval.Agreement

/-!
Histories: the calls of one query at its site, each of which finds in the cell of the site what the
call before it has left there. The context and the rest of the memory are any for each call. Calls
that leave what they have found can be dropped from a history.
-/

namespace Reshape

namespace Memory

/-- Cells with one of a site in the place of the first one there, or behind all others. -/
def place (site : Site) (cell : Cell) : List (Site × Cell) → List (Site × Cell)
  | [] => [(site, cell)]
  | (other, kept) :: rest =>
    if site == other then (site, cell) :: rest else (other, kept) :: place site cell rest

/-- The memory as it is if a call has kept a cell, or nothing. -/
def withCell (memory : Memory) (site : Site) : Option Cell → Memory
  | none => { memory with cells := memory.cells.filter fun (other, _) => other != site }
  | some cell => { memory with cells := place site cell memory.cells }

/-- A call finds what it has kept. -/
@[simp] theorem cell?_withCell (memory : Memory) (site : Site) (cell : Option Cell) :
    (memory.withCell site cell).cell? site = cell := by
  unfold cell?
  cases cell with
  | none =>
    refine List.lookup_eq_none_iff.2 fun entry member => ?_
    have other : entry.1 ≠ site := bne_iff_ne.1 (List.mem_filter.1 member).2
    exact bne_iff_ne.2 other.symm
  | some cell =>
    simp only [withCell]
    -- The first cell of the site is the one that was put there.
    induction memory.cells with
    | nil => simp [place]
    | cons entry rest ih =>
      obtain ⟨other, kept⟩ := entry
      unfold place
      split
      next => simp
      next apart => rw [List.lookup_cons, Bool.eq_false_iff.2 apart, ih]

end Memory

/-- What a call finds besides its own cell. -/
structure Occasion where
  context : Context
  /-- The memory, whatever is in the cell of the call. -/
  memory : Memory
  deriving Repr

/-- An occasion with a current value and nothing else. -/
def Occasion.ofValue (value : Value) : Occasion :=
  ⟨{ Context.bare ⟨[], ⟨0, 0⟩⟩ with value := some value }, .fresh (.seeded 0)⟩

/-- A call of a query with memory. -/
structure Turn where
  occasion : Occasion
  /-- What the call finds in its cell. -/
  found : Option Cell
  result : Except Error Value
  /-- What it leaves there. -/
  left : Option Cell

namespace Query

variable (query : Query) (site : Site)

/-- The call of a query that finds a cell on an occasion. -/
def turn (found : Option Cell) (occasion : Occasion) : Turn :=
  let ended := (query.run occasion.context).outcome (occasion.memory.withCell site found)
  ⟨occasion, found, ended.1, ended.2.cell? site⟩

/-- The calls of a query on occasions, one after the other, the first of which finds a cell. -/
def history (found : Option Cell) : List Occasion → List Turn
  | [] => []
  | occasion :: later =>
    query.turn site found occasion :: history (query.turn site found occasion).left later

/-- What the calls of a query on occasions leave in the cell. -/
def left (found : Option Cell) (occasions : List Occasion) : Option Cell :=
  occasions.foldl (fun found occasion => (query.turn site found occasion).left) found

variable {query site} {found : Option Cell}

/-- Part of a history from its beginning is the history of the first occasions, and the rest of it
goes on from what is left then. -/
theorem history_eq_append {occasions : List Occasion} {earlier later : List Turn}
    (split : query.history site found occasions = earlier ++ later) :
    ∃ first rest, occasions = first ++ rest ∧ query.history site found first = earlier ∧
      query.history site (query.left site found first) rest = later := by
  induction earlier generalizing found occasions with
  | nil => exact ⟨[], occasions, rfl, rfl, split⟩
  | cons turn earlier ih =>
    cases occasions with
    | nil => cases split
    | cons occasion others =>
      -- The first call is on the first occasion, and the others start from what it leaves.
      obtain ⟨rfl, others⟩ := List.cons.inj split
      obtain ⟨first, rest, rfl, same, further⟩ := ih others
      exact ⟨occasion :: first, rest, rfl, congrArg (List.cons _) same, further⟩

/-- The first call of a history is made on the first occasion. -/
theorem history_eq_cons {occasions : List Occasion} {turn : Turn} {later : List Turn}
    (split : query.history site found occasions = turn :: later) :
    ∃ occasion rest, occasions = occasion :: rest ∧ query.turn site found occasion = turn ∧
      query.history site turn.left rest = later := by
  -- Without an occasion there is no call.
  cases occasions with
  | nil => cases split
  | cons occasion rest =>
    obtain ⟨rfl, same⟩ := List.cons.inj split
    exact ⟨occasion, rest, rfl, rfl, same⟩

/-- What each call keeps to holds of what every call of a history finds. -/
theorem mem_history {motive : Option Cell → Prop}
    (keeps : ∀ found occasion, motive found → motive (query.turn site found occasion).left)
    (start : motive found) {occasions : List Occasion} {turn : Turn}
    (member : turn ∈ query.history site found occasions) :
    motive turn.found ∧ query.turn site turn.found turn.occasion = turn := by
  -- The induction is over the occasions, and the invariant holds of what the first call finds.
  induction occasions generalizing found with
  | nil => cases member
  | cons occasion later ih =>
    rw [history, List.mem_cons] at member
    rcases member with rfl | later
    · exact ⟨start, rfl⟩
    · exact ih (keeps found occasion start) later

variable (query site)

variable {query site}

end Query

end Reshape
