import Reshape.Proofs.Eval.Call
import Reshape.Proofs.Eval.Obedience

/-!
Frames: an expression changes the cells of its own site and of the sites below it only. A call finds
in its cell what it has kept there, whatever is evaluated in its arguments.
-/

namespace Reshape

namespace Memory

variable {memory : Memory} {site other : Site}

/-- What a call keeps is what it finds. -/
@[simp] theorem cell?_keep_self (memory : Memory) (site : Site) (cell : Cell) :
    (memory.keep site cell).cell? site = some cell := by
  simp [cell?, keep]

/-- What a call keeps is not what another call finds. -/
theorem cell?_keep_of_ne (distinct : other ≠ site) (cell : Cell) :
    (memory.keep other cell).cell? site = memory.cell? site := by
  have apart : (site == other) = false := beq_eq_false_iff_ne.2 (Ne.symm distinct)
  simp only [cell?, keep, List.lookup_cons, apart]
  -- Only cells of the other site are dropped.
  induction memory.cells with
  | nil => rfl
  | cons entry rest ih =>
    obtain ⟨place, kept⟩ := entry
    rw [List.filter_cons]
    split
    next => rw [List.lookup_cons, List.lookup_cons, ih]
    next dropped =>
      have same : place = other := by simpa using dropped
      rw [same, List.lookup_cons, apart, ih]

end Memory

/-- The discipline to keep an invariant of the memory. -/
def Discipline.keeping (invariant : Memory → Prop) : Discipline where
  Holds values action := ∀ memory, invariant memory →
    Outcome.Ensures values (fun _ => True) (action.outcome memory).1 ∧
      invariant (action.outcome memory).2
  pure holds := fun memory kept => ⟨.value holds, kept⟩
  bind := by
    intro α β values results action next first follows memory kept
    obtain ⟨ensures, reached⟩ := first memory kept
    rw [Eval.outcome_bind]
    generalize action.outcome memory = outcome at ensures reached ⊢
    obtain ⟨outcome, after⟩ := outcome
    -- What follows starts from the memory that the first part leaves.
    cases ensures with
    | value holds => exact follows _ holds after reached
    | failure => exact ⟨.failure trivial, reached⟩
  failure error := fun memory kept => ⟨.failure trivial, kept⟩
  adapt change holds := fun memory kept =>
    ⟨(holds memory kept).1.mapError fun _ _ => trivial, (holds memory kept).2⟩
  attempt holds := fun memory kept => ⟨.value trivial, (holds memory kept).2⟩

namespace Eval

variable {α : Type} {invariant : Memory → Prop} {site other : Site} {cell : Option Cell}

/-- An evaluation that keeps an invariant leaves memory with it. -/
theorem Obeys.kept {action : Eval α} (obeys : Eval.Obeys (.keeping invariant) action)
    {memory : Memory} (start : invariant memory) : invariant (action.outcome memory).2 :=
  (obeys memory start).2

/-- What follows a look at the memory keeps an invariant if it does for any memory. -/
theorem obeys_get {next : Memory → Eval α}
    (follows : ∀ memory, Eval.Obeys (.keeping invariant) (next memory)) :
    Eval.Obeys (.keeping invariant) (get >>= next) :=
  fun memory kept => follows memory memory kept

/-- A call does not change the cells of other sites. -/
theorem obeys_keep (distinct : other ≠ site) (kept : Cell) :
    Eval.Obeys (.keeping fun memory => memory.cell? site = cell) (keep other kept) :=
  fun _ start => ⟨.value trivial, (Memory.cell?_keep_of_ne distinct kept).trans start⟩

/-- What is drawn changes no cell. -/
theorem obeys_draw (step : Shared → α × Shared) :
    Eval.Obeys (.keeping fun memory => memory.cell? site = cell) (draw step) :=
  fun _ start => ⟨.value trivial, start⟩

variable {least greatest seed : Query} {override : Option Query}

/-- A counter of another site is found or made without a change to the cell of a site. -/
theorem obeys_tally (distinct : other ≠ site)
    (first : Query.Obeys (.keeping fun memory => memory.cell? site = cell) least)
    (second : Query.Obeys (.keeping fun memory => memory.cell? site = cell) greatest)
    (context : Context) :
    Eval.Obeys (.keeping fun memory => memory.cell? site = cell)
      (tally other least greatest context) := by
  refine obeys_get fun memory => ?_
  -- Without a tally the bounds are read, and one that they make is kept at the other site.
  split
  · exact .pure _
  · refine (first.integer "min" context).bind fun low => ?_
    refine (second.integer "max" context).bind fun high => ?_
    refine (Obeys.ofExcept _).bind fun tally => ?_
    exact (obeys_keep distinct _).bind fun _ => .pure tally

/-- A counter of another site counts without a change to the cell of a site. -/
theorem obeys_counter (distinct : other ≠ site)
    (first : Query.Obeys (.keeping fun memory => memory.cell? site = cell) least)
    (second : Query.Obeys (.keeping fun memory => memory.cell? site = cell) greatest)
    (third : ∀ query ∈ override,
      Query.Obeys (.keeping fun memory => memory.cell? site = cell) query)
    (context : Context) :
    Eval.Obeys (.keeping fun memory => memory.cell? site = cell)
      (counter other least greatest override context) := by
  have count (tally : Tally) : Eval.Obeys (.keeping fun memory => memory.cell? site = cell)
      (count other tally) := (obeys_keep distinct _).bind fun _ => .pure _
  refine (obeys_tally distinct first second context).bind fun tally => ?_
  cases override with
  | none => exact count tally
  | some override =>
    refine ((third override rfl).read context).bind fun value => ?_
    -- An override counts on, starts over, asks for the current value or gives another one.
    split
    · exact .pure _
    · exact count _
    · exact count _
    · split
      · exact (obeys_keep distinct _).bind fun _ => .pure _
      · exact .failure _

/-- A generator of another site is found or seeded without a change to the cell of a site. -/
theorem obeys_generator (distinct : other ≠ site)
    (obeys : Query.Obeys (.keeping fun memory => memory.cell? site = cell) seed)
    (context : Context) :
    Eval.Obeys (.keeping fun memory => memory.cell? site = cell)
      (generator other seed context) := by
  have seeded (value : Value) : Eval.Obeys (.keeping fun memory => memory.cell? site = cell)
      (sown value) := by
    unfold sown
    split
    · exact .pure _
    · exact .failure _
  have read : Eval.Obeys (.keeping fun memory => memory.cell? site = cell)
      (do
        let value ← seed.read context
        keep other (.seed value)
        sown value : Eval Generator) :=
    (obeys.read context).bind fun value => (obeys_keep distinct _).bind fun _ => seeded value
  refine obeys_get fun memory => ?_
  -- A generator is used again, and so is a seed that was kept before.
  rcases memory.cell? other with _ | tally | value | state
  · exact read
  · exact read
  · exact seeded value
  · exact .pure state

end Eval

/-- A call of a function changes no cell of another site if its arguments do not. -/
theorem FunctionCall.obeys_run {site other : Site} {cell : Option Cell} (distinct : other ≠ site)
    {call : FunctionCall Query}
    (alike : FunctionCall.Alike
      (fun query _ => Query.Obeys (.keeping fun memory => memory.cell? site = cell) query)
      call call)
    (context : Context) :
    Eval.Obeys (.keeping fun memory => memory.cell? site = cell) (call.run other context) := by
  -- Only counters and generators keep something, and they keep it at their own sites.
  cases alike with
  | counter first second third =>
    refine Eval.obeys_counter distinct first second (fun query given => ?_) context
    obtain rfl := given
    cases third with
    | some obeys => exact obeys
  | random obeys least greatest =>
    refine (Eval.obeys_generator distinct obeys context).bind fun state => ?_
    exact (Eval.obeys_keep distinct _).bind fun _ => .pure _
  | count | identifier => exact (Eval.obeys_draw _).map _
  | _ => exact FunctionCall.obeys_of_stateless rfl other context

/-- An expression keeps the cells of all sites that are neither its own nor below it. -/
theorem Expr.obeys_keeping (expr : Expr) {site inner : Site} (apart : ¬inner <:+ site)
    (cell : Option Cell) :
    Query.Obeys (.keeping fun memory => memory.cell? site = cell) (expr.denote inner) := by
  have deeper (position : Nat) (inner : Site) (apart : ¬inner <:+ site) :
      ¬(position :: inner) <:+ site :=
    fun above => apart ((List.suffix_cons position inner).trans above)
  -- The functions that are called stand at the site of the expression or below it.
  refine expr.obeys_of_calls deeper (fun function _ call _ alike inner apart context => ?_) inner
    apart
  have distinct : inner ≠ site := by
    rintro rfl
    exact apart List.suffix_rfl
  exact FunctionCall.obeys_run distinct alike context

/-- The arguments of a call stand below it. -/
theorem Site.not_suffix_below (position : Nat) (site : Site) : ¬(position :: site) <:+ site := by
  intro above
  -- The site of an argument is longer by its position.
  have shorter := above.length_le
  rw [List.length_cons] at shorter
  omega

end Reshape
