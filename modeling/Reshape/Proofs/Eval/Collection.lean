import Mathlib.Data.List.Forall2
import Reshape.Builtin.Collection
import Reshape.Proofs.Eval.Agreement

/-!
Agreement of the operations on arrays and objects that run a query for each element: they agree if
the query does for each element.
-/

namespace Reshape.Collection

variable {α β : Type} {memories : Memory → Memory → Prop}

section Search

/-! A search for an item that is accepted and a check that all items are: both ask the items in
order up to the first one with a verdict. -/

variable {m : Type → Type} [Monad m]

/-- The verdict if a test gives it for one of the items, and the other one if not. The items are
asked in order, up to the first one with the verdict. -/
def searchM (verdict : Bool) (test : α → m Bool) : List α → m Bool
  | [] => pure !verdict
  | item :: rest => do
    if (← test item) = verdict then return verdict else searchM verdict test rest

/-- Whether one of the items passes is a search for one that does. -/
theorem anyM_eq_searchM (test : α → m Bool) (items : List α) :
    items.anyM test = searchM true test items := by
  induction items with
  | nil => rfl
  | cons item rest ih =>
    rw [List.anyM_cons, searchM, ih]

/-- Whether all items pass is a search for one that does not. -/
theorem allM_eq_searchM (test : α → m Bool) (items : List α) :
    items.allM test = searchM false test items := by
  induction items with
  | nil => rfl
  | cons item rest ih =>
    rw [List.allM_cons, searchM, ih]
    -- The two ways stand in the other order.
    refine bind_congr fun given => ?_
    cases given with
    | true => rfl
    | false => rfl

variable [MonadExceptOf Error m]

/-- The verdict of a test on the items of an array; without items no test is passed by all. -/
def searched (verdict : Bool) (test : Value → m Bool) (value : Value) : m Value :=
  match items value with
  | .ok items => do return .bool ((verdict || !items.isEmpty) && (← searchM verdict test items))
  | .error error => throw error

/-- Whether a test accepts an item of an array. -/
theorem any_eq_searched (test : Value → m Bool) (value : Value) :
    any test value = searched true test value := by
  unfold any searched
  cases items value with
  | error error => rfl
  | ok items =>
    -- The verdict is looked for as it is, whether there are items or not.
    exact congrArg (fun search : m Bool => search >>= fun given => pure (Value.bool given))
      (anyM_eq_searchM test items)

/-- Whether a test accepts all items of an array. -/
theorem all_eq_searched (test : Value → m Bool) (value : Value) :
    all test value = searched false test value := by
  unfold all searched
  cases items value with
  | error error => rfl
  | ok items =>
    exact congrArg (fun search : m Bool => search >>= fun given =>
      pure (Value.bool (!items.isEmpty && given))) (allM_eq_searchM test items)

end Search

section Lists

/-- Lists of related items are mapped to related lists by functions that agree on related items. -/
theorem mapM_related {γ δ : Type} {related : α → γ → Prop} {values : β → δ → Prop}
    {f : α → Eval β} {g : γ → Eval δ}
    (agree : ∀ a c, related a c → Eval.Agree memories values (f a) (g c)) {items : List α}
    {items' : List γ} (pairs : List.Forall₂ related items items') :
    Eval.Agree memories (List.Forall₂ values) (items.mapM f) (items'.mapM g) := by
  -- The items are passed in order, and each starts from the memory that the one before it leaves.
  induction pairs with
  | nil => exact .pure .nil
  | cons first _ ih =>
    rw [List.mapM_cons, List.mapM_cons]
    refine (agree _ _ first).bind fun value value' same => ?_
    exact ih.map fun values values' rest => .cons same rest

/-- A list is mapped alike by functions that agree on each item. -/
theorem mapM_agree {f g : α → Eval β} (agree : ∀ a, Eval.Agree memories Eq (f a) (g a))
    (items : List α) : Eval.Agree memories Eq (items.mapM f) (items.mapM g) := by
  -- Items are related to themselves, so that this is the case of equal items.
  have pairs : List.Forall₂ Eq items items := List.forall₂_same.2 fun _ _ => rfl
  have each : ∀ a c, a = c → Eval.Agree memories Eq (f a) (g c) := by
    rintro a _ rfl
    exact agree a
  simpa only [List.forall₂_eq_eq_eq] using mapM_related each pairs

/-- A list is filtered and mapped alike by functions that agree on each item. -/
theorem filterMapM_agree {f g : α → Eval (Option β)}
    (agree : ∀ a, Eval.Agree memories Eq (f a) (g a)) (items : List α) :
    Eval.Agree memories Eq (items.filterMapM f) (items.filterMapM g) := by
  induction items with
  | nil => exact .pure rfl
  | cons item rest ih =>
    rw [List.filterMapM_cons, List.filterMapM_cons]
    refine (agree item).bind ?_
    -- An item that gives nothing is left out on both sides.
    rintro (_ | value) _ rfl
    · exact ih
    · refine ih.andThen fun values => ?_
      exact .pure rfl

/-- Tests that agree on each item agree in a search for a verdict. -/
theorem searchM_agree (verdict : Bool) {f g : α → Eval Bool}
    (agree : ∀ a, Eval.Agree memories Eq (f a) (g a)) (items : List α) :
    Eval.Agree memories Eq (searchM verdict f items) (searchM verdict g items) := by
  induction items with
  | nil => exact .pure rfl
  | cons item rest ih =>
    refine (agree item).andThen fun given => ?_
    -- The first item with the verdict ends the search on both sides.
    split
    · exact .pure rfl
    · exact ih

/-- Steps that agree for each state and item fold a list alike. -/
theorem foldlM_agree {f g : β → α → Eval β}
    (agree : ∀ b a, Eval.Agree memories Eq (f b a) (g b a)) (start : β) (items : List α) :
    Eval.Agree memories Eq (items.foldlM f start) (items.foldlM g start) := by
  -- The state changes with each item, so the lemma has to hold from any state.
  induction items generalizing start with
  | nil => exact .pure rfl
  | cons item rest ih =>
    rw [List.foldlM_cons, List.foldlM_cons]
    refine (agree start item).andThen fun next => ?_
    exact ih next

/-- Orders that agree on each pair merge two sequences alike. -/
theorem mergeSorted_agree {f g : α → α → Eval Bool}
    (agree : ∀ a b, Eval.Agree memories Eq (f a b) (g a b)) (left right : List α) :
    Eval.Agree memories Eq (mergeSorted f left right) (mergeSorted g left right) := by
  -- One item of either sequence is taken at a time, as the recursion does.
  induction left, right using mergeSorted.induct with
  | case1 right => simpa only [mergeSorted] using .pure rfl
  | case2 left nonempty =>
    rw [mergeSorted, mergeSorted]
    · exact .pure rfl
    · exact nonempty
    · exact nonempty
  | case3 a left b right second first =>
    rw [mergeSorted, mergeSorted]
    exact (agree b a).ite (second.apply _) (first.apply _)

/-- Orders that agree on each pair sort a sequence alike. -/
theorem sortItems_agree {f g : α → α → Eval Bool}
    (agree : ∀ a b, Eval.Agree memories Eq (f a b) (g a b)) (items : List α) :
    Eval.Agree memories Eq (sortItems f items) (sortItems g items) := by
  -- Both halves are sorted alike, and so their merging is alike.
  induction items using sortItems.induct with
  | case1 items short =>
    rw [sortItems.eq_def f items, sortItems.eq_def g items, dif_pos short, dif_pos short]
    exact .pure rfl
  | case2 items long left right =>
    rw [sortItems.eq_def f items, sortItems.eq_def g items, dif_neg long, dif_neg long]
    refine left.andThen fun low => ?_
    refine right.andThen fun high => ?_
    exact mergeSorted_agree agree low high

end Lists

variable {run run' : Value → Eval Value} {test test' : Value → Eval Bool}

/-- Tests of what agreeing queries give agree. -/
theorem predicate_agree (label label' : String)
    (agree : ∀ value, Eval.Agree memories Eq (run value) (run' value)) (value : Value) :
    Eval.Agree memories Eq (predicate label run value) (predicate label' run' value) := by
  refine (agree value).andThen fun result => ?_
  -- A test that gives no truth value fails on both sides.
  cases result with
  | bool truth => exact .pure rfl
  | _ => exact .failure _ _

/-- Queries that agree on each element map an array or object alike. -/
theorem mapEach_agree (agree : ∀ value, Eval.Agree memories Eq (run value) (run' value))
    (value : Value) : Eval.Agree memories Eq (mapEach run value) (mapEach run' value) := by
  -- Only arrays and objects have elements.
  cases value with
  | array items =>
    exact (filterMapM_agree (fun item => (agree item).apply _) items).apply _
  | object fields =>
    -- The query sees a name and a value as one entry.
    exact (filterMapM_agree (fun field => (agree (entry field.1 field.2)).apply _) fields).apply _
  | _ => exact .failure _ _

/-- Tests that agree on each element filter an array or object alike. -/
theorem filter_agree (agree : ∀ value, Eval.Agree memories Eq (test value) (test' value))
    (value : Value) : Eval.Agree memories Eq (filter test value) (filter test' value) := by
  -- Only arrays and objects have elements.
  cases value with
  | array items =>
    exact (filterMapM_agree (fun item => (agree item).apply _) items).apply _
  | object fields =>
    exact (filterMapM_agree (fun field => (agree (entry field.1 field.2)).apply _) fields).apply _
  | _ => exact .failure _ _

/-- Tests that agree on each item agree on the verdict on an array. -/
theorem searched_agree (verdict : Bool)
    (agree : ∀ value, Eval.Agree memories Eq (test value) (test' value)) (value : Value) :
    Eval.Agree memories Eq (searched verdict test value) (searched verdict test' value) := by
  unfold searched
  -- Without items the test is not asked at all.
  cases items value with
  | ok items => exact (searchM_agree verdict agree items).apply _
  | error error => exact .failure _ _

/-- Queries that agree on each tally and item fold an array alike. -/
theorem fold_agree (agree : ∀ value, Eval.Agree memories Eq (run value) (run' value))
    (initial value : Value) :
    Eval.Agree memories Eq (fold run initial value) (fold run' initial value) := by
  unfold fold
  -- Each item comes to the query together with the tally so far.
  cases items value with
  | ok items => exact foldlM_agree (fun tally item => agree (tallied tally item)) initial items
  | error error => exact .failure _ _

end Reshape.Collection
