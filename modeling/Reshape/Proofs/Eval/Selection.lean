import Reshape.Expr.Compile
import Reshape.Proofs.Eval.Move

/-!
Selection: the methods that ask a condition for each element agree with each other. Filtering gives
what mapping gives with the verdict to keep or to delete in the place of the condition. Where the
condition gives truth values, what is kept tells whether it holds for some item and for all.
-/

namespace Reshape

variable {memories : Memory → Memory → Prop}

namespace Expr

/-- What becomes of an element on a condition: it is kept as it is, or deleted. -/
def verdict (condition : Expr) : Expr :=
  .branches [(condition, .call .nothing [])] (some (.call .deleted []))

/-- The query that gives the verdicts of a test; the body of a lambda is the condition. -/
def selection : Expr → Expr
  | .lambda name body => .lambda name body.verdict
  | test => test.verdict

/-- The site of the condition in a test. -/
def conditionSite (site : Site) : Expr → Site
  | .lambda _ _ => 0 :: site
  | _ => site

/-- A call of a method with a query as its argument, at a site. -/
def queried (site : Site) (called : Method) (target query : Expr) (context : Context) :
    Eval Value :=
  ((Expr.method target called [.query query]).denote site).run context

end Expr

/-- The sites of a method with a test, paired with those of the method with the verdicts of the
test: the target stays where it is, and the condition is a part of the verdict. -/
inductive Site.Selected (site : Site) (test : Expr) : Site → Site → Prop where
  | target (below : Site) : Selected site test (below ++ 0 :: site) (below ++ 0 :: site)
  | condition (below : Site) :
    Selected site test (below ++ test.conditionSite (1 :: site))
      (below ++ 1 :: test.conditionSite (1 :: site))

namespace Site

variable {site : Site} {test : Expr}

/-- The condition of a test is at its site or below. -/
theorem exists_conditionSite (site : Site) (test : Expr) :
    ∃ front, test.conditionSite site = front ++ site := by
  cases test with
  | lambda name body => exact ⟨[0], rfl⟩
  | _ => exact ⟨[], rfl⟩

/-- What is below one argument is not below another one. -/
theorem below_ne {position other : Nat} (distinct : position ≠ other) (below below' : Site) :
    below ++ position :: site ≠ below' ++ other :: site := by
  intro same
  have ends : position :: site = other :: site := List.append_inj_right' same rfl
  exact distinct (List.cons.inj ends).1

/-- The sites of a test and of its verdicts are paired one to one. -/
theorem selected_pairing (site : Site) (test : Expr) : Site.Pairing (Site.Selected site test) := by
  obtain ⟨front, placed⟩ := exists_conditionSite (1 :: site) test
  -- The target and the query are different arguments.
  have apart (below below' : Site) :
      below ++ 0 :: site ≠ below' ++ test.conditionSite (1 :: site) := by
    rw [placed, ← List.append_assoc]
    exact below_ne (by decide) _ _
  have apart' (below below' : Site) :
      below ++ 0 :: site ≠ below' ++ 1 :: test.conditionSite (1 :: site) := by
    intro same
    rw [List.append_cons below' 1] at same
    exact apart below (below' ++ [1]) same
  refine ⟨fun paired position => ?_, fun paired paired' => ?_⟩
  · cases paired with
    | target below => exact .target (position :: below)
    | condition below => exact .condition (position :: below)
  · cases paired with
    | target below =>
      cases paired' with
      | target below' => exact Iff.rfl
      | condition below' => exact iff_of_false (apart below below') (apart' below below')
    | condition below =>
      cases paired' with
      | target below' =>
        exact iff_of_false (Ne.symm (apart below' below)) (Ne.symm (apart' below' below))
      | condition below' => rw [List.append_left_inj, List.append_left_inj]

end Site

/-- The marker that stands for a verdict. -/
def Value.ofVerdict : Bool → Value
  | true => .nothing
  | false => .delete

namespace Collection

/-- A marker that stands for a verdict keeps the element or drops it. -/
theorem mapped_ofVerdict (element : Value) (accepted : Bool) :
    mapped element (.ofVerdict accepted) = if accepted then some element else none := by
  cases accepted <;> rfl

/-- Filtering by a test agrees with mapping by the markers that stand for its verdicts. -/
theorem filter_mapEach_agree {test : Value → Eval Bool} {run : Value → Eval Value}
    (agree : ∀ value, Eval.Agree memories (fun accepted result => result = .ofVerdict accepted)
      (test value) (run value)) (value : Value) :
    Eval.Agree memories Eq (filter test value) (mapEach run value) := by
  -- Only arrays and objects have elements.
  cases value with
  | array items =>
    refine (filterMapM_agree (fun item => (agree item).map ?_) items).apply _
    rintro accepted _ rfl
    exact (mapped_ofVerdict item accepted).symm
  | object fields =>
    refine (filterMapM_agree (fun field => (agree (entry field.1 field.2)).map ?_) fields).apply _
    rintro accepted _ rfl
    cases accepted <;> rfl
  | _ => exact .failure _ _

end Collection

namespace Expr

/-- A condition agrees with its verdict if it agrees with itself as a part of that. -/
theorem verdict_agree {test : Query} {condition : Expr} {site : Site} {context inner : Context}
    (agree : Query.Agree memories context inner test (condition.denote (1 :: site))) :
    Eval.Agree memories (fun accepted result => result = .ofVerdict accepted)
      (test.truth context) ((condition.verdict.denote site).run inner) := by
  -- The branches ask for the same truth value, and then give a constant.
  rw [← bind_pure (test.truth context)]
  refine agree.truth.bind ?_
  rintro accepted _ rfl
  cases accepted with
  | true => exact .pure rfl
  | false => exact .pure rfl

/-- A test accepts an element where its verdict is to keep it. -/
theorem selection_agree (site : Site) (test : Expr) (context : Context) (value : Value) :
    Eval.Agree (Memory.Paired (Site.Selected site test))
      (fun accepted result => result = .ofVerdict accepted)
      (MethodCall.accepts (test.denote (1 :: site)) context value)
      (MethodCall.element (test.selection.denote (1 :: site)) context value) := by
  have pairing := Site.selected_pairing site test
  refine Eval.Agree.adaptRight _ ?_
  -- The condition is asked on the element, or where the element has a name.
  cases test with
  | lambda name body =>
    have agree := body.agree_of_paired pairing (.condition [])
      ((context.narrow value).bind name value)
    have named : Query.Agree (Memory.Paired (Site.Selected site (.lambda name body)))
        (context.narrow value) ((context.narrow value).bind name value)
        ((Expr.lambda name body).denote (1 :: site)) (body.denote (1 :: 0 :: 1 :: site)) :=
      Eval.Agree.adaptLeft _ agree
    exact (verdict_agree named).adaptRight _
  | _ => exact verdict_agree (agree_of_paired pairing _ (.condition []) _)

/-- Filtering by a test agrees with mapping by its verdicts. -/
theorem filter_agree_mapEach (site : Site) (target test : Expr) (context : Context) :
    Eval.Agree (Memory.Paired (Site.Selected site test)) Eq
      (queried site .filter target test context)
      (queried site .mapEach target test.selection context) := by
  have same := target.agree_of_paired (Site.selected_pairing site test) (.target []) context
  refine Eval.Agree.adapt _ _ (same.read.attempt.bind ?_)
  -- A target that fails is a failure of both calls.
  rintro _ _ (@⟨value, _, rfl⟩ | ⟨error, error'⟩)
  · exact Collection.filter_mapEach_agree (selection_agree site test context) value
  · exact .failure _ _

end Expr

/-- A test gives a truth value for each of several items, which it is asked for in order: each
answer starts from the memory that the one before it leaves. -/
inductive Query.Judges (test : Query) (context : Context) :
    Memory → List Value → List Bool → Memory → Prop where
  | nil (memory : Memory) : Judges test context memory [] [] memory
  | cons {before middle after : Memory} {item : Value} {verdict : Bool} {items : List Value}
      {verdicts : List Bool}
      (first : (MethodCall.element test context item).outcome before =
        (.ok (.bool verdict), middle))
      (later : Judges test context middle items verdicts after) :
      Judges test context before (item :: items) (verdict :: verdicts) after

namespace Query.Judges

variable {test : Query} {context : Context} {before middle after : Memory} {item : Value}
  {verdict : Bool} {items : List Value} {verdicts : List Bool}

/-- A test that gives a truth value accepts the element or not. -/
theorem outcome_accepts
    (given : (MethodCall.element test context item).outcome before =
      (.ok (.bool verdict), middle)) :
    (MethodCall.accepts test context item).outcome before = (.ok verdict, middle) :=
  Eval.outcome_bind_of_ok given

/-- The items that a test accepts are kept in order. They are all items just if it accepts all, and
there are some just if it accepts one. -/
theorem filter (judges : test.Judges context before items verdicts after) :
    ∃ kept, (items.filterMapM fun item => do
        return if ← MethodCall.accepts test context item then some item else none).outcome before =
          (.ok kept, after) ∧
      kept.Sublist items ∧ (kept ≠ [] ↔ true ∈ verdicts) ∧
        (kept = items ↔ false ∉ verdicts) := by
  induction judges with
  | nil memory => exact ⟨[], rfl, .slnil, by simp, by simp⟩
  | @cons before middle after item verdict items verdicts first later ih =>
    obtain ⟨kept, given, among, some, all⟩ := ih
    have asked : Eval.outcome (do
        return if ← MethodCall.accepts test context item then Option.some item else none) before =
          (.ok (if verdict then Option.some item else none), middle) :=
      Eval.outcome_bind_of_ok (outcome_accepts first)
    rw [List.filterMapM_cons, Eval.outcome_bind_of_ok asked]
    -- What becomes of the later items is known, whatever becomes of this one.
    cases verdict with
    | true =>
      refine ⟨item :: kept, Eval.outcome_bind_of_ok given, among.cons_cons item, by simp, ?_⟩
      rw [List.cons.injEq, all]
      simp
    | false =>
      refine ⟨kept, given, among.cons item, by simpa using some, ?_⟩
      -- What is kept of the later items is too short.
      refine iff_of_false (fun same => ?_) (by simp)
      have short := among.length_le
      rw [same, List.length_cons] at short
      omega

/-- A search of the items finds a verdict just if it is one of the answers. -/
theorem searchM (verdict : Bool) (judges : test.Judges context before items verdicts after) :
    ∃ ended, (Collection.searchM verdict (MethodCall.accepts test context) items).outcome before =
      (.ok (verdicts.contains verdict == verdict), ended) := by
  induction judges with
  | nil memory =>
    refine ⟨memory, ?_⟩
    cases verdict with
    | true => rfl
    | false => rfl
  | @cons before middle after item given items verdicts first later ih =>
    rw [Collection.searchM, Eval.outcome_bind_of_ok (outcome_accepts first)]
    -- After the verdict no other item is asked for.
    split
    next found =>
      refine ⟨middle, ?_⟩
      simp [found]
    next other => simpa [Ne.symm other] using ih

end Query.Judges

namespace Expr

variable {before middle after : Memory} {items : List Value} {verdicts : List Bool}
  {target test : Expr} {context : Context} {site : Site}

/-- A method runs on what its target gives. -/
theorem outcome_called (call : MethodCall Query) {target : Query} {value result : Value}
    (given : (target.run context).outcome before = (.ok value, middle))
    (gives : (call.run (.ok value) context).outcome middle = (.ok result, after)) :
    Eval.outcome (ExceptT.adapt (fun error => error.label target.label) (do
        call.run (← Eval.attempt (target.read context)) context)) before = (.ok result, after) := by
  -- The target is read first, and its label stands in errors alone.
  have read : (target.read context).outcome before = (.ok value, middle) := by
    rw [Query.read, Eval.outcome_adapt, given]
    rfl
  have attempted : (target.read context).attempt.outcome before = (.ok (.ok value), middle) :=
    congrArg (fun ended : Except Error Value × Memory => (Except.ok ended.1, ended.2)) read
  rw [Eval.outcome_adapt, Eval.outcome_bind_of_ok attempted, gives]
  rfl

/-- Methods with a test agree: filtering gives what mapping by the verdicts of the test gives, or
both fail; and of an array on whose items the test gives truth values, one is accepted just if
something is kept, and all are just if there are items and all are kept. -/
theorem filter_agrees (site : Site) (target test : Expr) (context : Context) :
    (∀ shared,
      Memory.Paired (Site.Selected site test) (.fresh shared) (.fresh shared)) ∧
    Eval.Agree (Memory.Paired (Site.Selected site test)) Eq
      (queried site .filter target test context)
      (queried site .mapEach target test.selection context) ∧
    ∀ {before middle after : Memory} {items : List Value} {verdicts : List Bool},
      ((target.denote (0 :: site)).run context).outcome before = (.ok (.array items), middle) →
      (test.denote (1 :: site)).Judges context middle items verdicts after →
      ∃ kept found whole,
        (queried site .filter target test context).outcome before = (.ok (.array kept), after) ∧
        ((queried site .any target test context).outcome before).1 = .ok (.bool found) ∧
        ((queried site .all target test context).outcome before).1 = .ok (.bool whole) ∧
        (found = true ↔ kept ≠ []) ∧ (whole = true ↔ items ≠ [] ∧ kept = items) := by
  refine ⟨.fresh, filter_agree_mapEach site target test context, ?_⟩
  intro before middle after items verdicts given judges
  obtain ⟨kept, filtered, among, some, all⟩ := judges.filter
  obtain ⟨_, any⟩ := judges.searchM true
  obtain ⟨_, every⟩ := judges.searchM false
  rw [← Collection.anyM_eq_searchM] at any
  rw [← Collection.allM_eq_searchM] at every
  -- All three calls start from the memory that the target leaves, and ask in the same order; the
  -- last two may stop early, before the memory that the filter leaves.
  refine ⟨kept, verdicts.contains true == true,
    !items.isEmpty && verdicts.contains false == false, ?_, ?_, ?_, ?_, ?_⟩
  · exact outcome_called (.filter _) given (Eval.outcome_bind_of_ok filtered)
  · exact congrArg Prod.fst (outcome_called (.any _) given (Eval.outcome_bind_of_ok any))
  · exact congrArg Prod.fst (outcome_called (.all _) given (Eval.outcome_bind_of_ok every))
  · rw [some]
    simp
  · rw [all]
    simp

end Expr

section Sample

/-- The term of `i > 1`. -/
def Term.large : Term := .binary (.operator .greater) (.name "i") (.literal (.int 1))

/-- The term of `if i > 1 … else …` that keeps an element or deletes it. -/
def Term.largeVerdict : Term :=
  .branches [(.large, .call ⟨0, 0⟩ "nothing" [])] (some (.call ⟨0, 0⟩ "deleted" []))

/-- The term of a method of the current value with a lambda. -/
def Term.perElement (called : String) (body : Term) : Term :=
  .method ⟨0, 0⟩ .current called [(none, .lambda "i" body)]

/-- The expression of `i -> i > 1`. -/
def Expr.large : Expr :=
  .lambda "i" (.binary .greater (.field (.named "i") []) (.literal (.int 1)))

/-- Three numbers. -/
def Value.three : List Value := [.int 1, .int 2, .int 3]

/-- A context whose current value is the array of the three numbers. -/
def Context.ofThree : Context :=
  { Context.bare ⟨[], ⟨0, 0⟩⟩ with value := some (.array Value.three) }

/-- What a method with the query of large numbers gives for three numbers. -/
def Expr.ofThree (called : Method) (query : Expr) : Except Error Value :=
  ((queried [] called (.field .current []) query .ofThree).outcome (.fresh (.seeded 0))).1

/-- Two of three numbers are large: filtering keeps them, mapping by the verdicts does so too, there
is one and not all are. -/
theorem Expr.filter_agrees_of_large :
    (((Term.perElement "filter" .large).compile ⟨.standard, 0, []⟩).run.run []).1 =
        .ok (.method (.field .current []) .filter [.query .large]) ∧
      (((Term.perElement "map_each" .largeVerdict).compile ⟨.standard, 0, []⟩).run.run []).1 =
        .ok (.method (.field .current []) .mapEach [.query Expr.large.selection]) ∧
      ofThree .filter .large = .ok (.array [.int 2, .int 3]) ∧
      ofThree .mapEach Expr.large.selection = .ok (.array [.int 2, .int 3]) ∧
      ofThree .any .large = .ok (.bool true) ∧ ofThree .all .large = .ok (.bool false) := by
  have given : (((Expr.field .current []).denote [0]).run .ofThree).outcome (.fresh (.seeded 0)) =
      (.ok (.array Value.three), .fresh (.seeded 0)) := rfl
  have judges : (Expr.large.denote [1]).Judges .ofThree (.fresh (.seeded 0)) Value.three
      [false, true, true] (.fresh (.seeded 0)) := .cons rfl (.cons rfl (.cons rfl (.nil _)))
  have filtered : ofThree .filter .large = .ok (.array [.int 2, .int 3]) := rfl
  obtain ⟨paired, agree, asked⟩ := filter_agrees [] (.field .current []) .large .ofThree
  obtain ⟨kept, found, whole, keeps, any, all, some, every⟩ := asked given judges
  -- What is kept is read off the filter, and all else follows from the verdicts.
  obtain rfl : kept = [.int 2, .int 3] := by
    have same := (congrArg Prod.fst keeps).symm.trans filtered
    simpa using same
  have mapped : Outcome.Agree Eq (ofThree .filter .large)
      (ofThree .mapEach Expr.large.selection) := (agree (paired _)).1
  rw [filtered] at mapped
  refine ⟨rfl, rfl, filtered, ?_, ?_, ?_⟩
  · generalize ofThree .mapEach Expr.large.selection = outcome at mapped
    cases mapped with
    | value same => rw [← same]
  · obtain rfl : found = true := some.2 (by simp)
    exact any
  · obtain rfl : whole = false := by simpa [Value.three] using every
    exact all

end Sample

end Reshape
