import Reshape.Eval.Denote
import Reshape.Proofs.Eval.Discipline

/-!
Sorting: whatever the comparison says, a sorted sequence has the items of the given one, and a
comparison that is a strict weak order on them puts them in order and leaves those that are tied as
they stood. The comparison may be an outcome or an evaluation, so the lemmas are about every monad
in which something can be said of the values of computations.
-/

namespace Reshape

variable {α : Type} {before : α → α → Bool}

/-- A comparison is a strict weak order on items. -/
structure StrictWeak (before : α → α → Bool) (items : List α) : Prop where
  irrefl : ∀ a ∈ items, before a a = false
  trans : ∀ a ∈ items, ∀ b ∈ items, ∀ c ∈ items,
    before a b = true → before b c = true → before a c = true
  /-- Items that are tied with the same one are tied. -/
  tied : ∀ a ∈ items, ∀ b ∈ items, ∀ c ∈ items, before a b = false → before b a = false →
    before b c = false → before c b = false → before a c = false

/-- A sequence has given items in order: none comes before an earlier one, and items none of which
comes before another one of them stand as they stood. -/
structure StablySorted (before : α → α → Bool) (items sorted : List α) : Prop where
  perm : sorted.Perm items
  ascending : sorted.Pairwise fun earlier later => before later earlier = false
  stable : ∀ tied : α → Bool,
    (∀ a ∈ items, ∀ b ∈ items, tied a = true → tied b = true → before a b = false) →
      sorted.filter tied = items.filter tied

namespace StrictWeak

variable {items : List α} {a b c : α}

/-- An order on items is one on some of them. -/
theorem mono (weak : StrictWeak before items) {part : List α} (inside : part ⊆ items) :
    StrictWeak before part where
  irrefl a member := weak.irrefl a (inside member)
  trans a first b second c third := weak.trans a (inside first) b (inside second) c (inside third)
  tied a first b second c third := weak.tied a (inside first) b (inside second) c (inside third)

/-- Of two items not both come before the other. -/
theorem asymm (weak : StrictWeak before items) (first : a ∈ items) (second : b ∈ items)
    (ahead : before a b = true) : before b a = false := by
  by_contra later
  rw [Bool.not_eq_false] at later
  have loop := weak.trans a first b second a first ahead later
  rw [weak.irrefl a first] at loop
  cases loop

/-- Not to come before another item goes on through a third one. -/
theorem not_trans (weak : StrictWeak before items) (first : a ∈ items) (second : b ∈ items)
    (third : c ∈ items) (low : before a b = false) (high : before b c = false) :
    before a c = false := by
  by_contra ahead
  rw [Bool.not_eq_false] at ahead
  -- The item in the middle would be tied with both ends, and so would these be with each other.
  have tied : before b a = false := by
    by_contra later
    rw [Bool.not_eq_false] at later
    simp [weak.trans b second a first c third later ahead] at high
  have tied' : before c b = false := by
    by_contra later
    rw [Bool.not_eq_false] at later
    simp [weak.trans a first c third b second ahead later] at low
  simp [weak.tied a first b second c third low tied high tied'] at ahead

end StrictWeak

namespace StablySorted

variable {left right merged : List α} {a b : α}

/-- An item of the first sequence goes first if the next one of the second does not come before
it. -/
theorem consLeft (weak : StrictWeak before (a :: left ++ b :: right))
    (low : (a :: left).Pairwise fun earlier later => before later earlier = false)
    (high : (b :: right).Pairwise fun earlier later => before later earlier = false)
    (next : before b a = false) (sorted : StablySorted before (left ++ b :: right) merged) :
    StablySorted before (a :: left ++ b :: right) (a :: merged) where
  perm := sorted.perm.cons a
  ascending := by
    refine List.pairwise_cons.2 ⟨fun item member => ?_, sorted.ascending⟩
    -- The second sequence begins with the least of its items, and that one is no less.
    rcases List.mem_append.1 (sorted.perm.subset member) with member | member
    · exact List.rel_of_pairwise_cons low member
    · rcases List.mem_cons.1 member with rfl | member
      · exact next
      · exact weak.not_trans (b := b) (by simp [member]) (by simp) (by simp)
          (List.rel_of_pairwise_cons high member) next
  stable tied apart := by
    have rest := sorted.stable tied fun item first item' second =>
      apart item (.tail _ first) item' (.tail _ second)
    rw [List.filter_cons, rest, List.cons_append, List.filter_cons]

/-- An item of the second sequence goes first if it comes before the next one of the first: then it
comes before all of the first, so that it is tied with none that it overtakes. -/
theorem consRight (weak : StrictWeak before (a :: left ++ b :: right))
    (low : (a :: left).Pairwise fun earlier later => before later earlier = false)
    (high : (b :: right).Pairwise fun earlier later => before later earlier = false)
    (next : before b a = true) (sorted : StablySorted before (a :: left ++ right) merged) :
    StablySorted before (a :: left ++ b :: right) (b :: merged) := by
  -- What precedes the least item of the first sequence precedes all of them.
  have ahead (item : α) (member : item ∈ a :: left) : before b item = true := by
    rcases List.mem_cons.1 member with rfl | later
    · exact next
    · by_contra other
      rw [Bool.not_eq_true] at other
      have least := weak.not_trans (b := item) (by simp) (by simp [later]) (by simp) other
        (List.rel_of_pairwise_cons low later)
      rw [least] at next
      cases next
  refine ⟨?_, ?_, fun tied apart => ?_⟩
  · exact (sorted.perm.cons b).trans List.perm_middle.symm
  · refine List.pairwise_cons.2 ⟨fun item member => ?_, sorted.ascending⟩
    rcases List.mem_append.1 (sorted.perm.subset member) with member | member
    · exact weak.asymm (by simp) (List.mem_append_left _ member) (ahead item member)
    · exact List.rel_of_pairwise_cons high member
  · have rest := sorted.stable tied fun item first item' second =>
      apart item (by grind) item' (by grind)
    rw [List.filter_append] at rest
    rw [List.filter_append]
    by_cases held : tied b = true
    · -- An overtaken item that is tied would not come after this one.
      have none : (a :: left).filter tied = [] := by
        rw [List.filter_eq_nil_iff]
        intro item member held'
        have same := apart b (by simp) item (List.mem_append_left _ member) held held'
        rw [ahead item member] at same
        cases same
      rw [List.filter_cons_of_pos held, List.filter_cons_of_pos held, rest, none, List.nil_append,
        List.nil_append]
    · rw [List.filter_cons_of_neg held, List.filter_cons_of_neg held, rest]

/-- Sequences that are in order each are in order with the items of both. -/
theorem ofParts {left' right' : List α} (first : StablySorted before left left')
    (second : StablySorted before right right')
    (sorted : StablySorted before (left' ++ right') merged) :
    StablySorted before (left ++ right) merged where
  -- The items are the same, and the order of those that tie is the order in each of the halves.
  perm := sorted.perm.trans (first.perm.append second.perm)
  ascending := sorted.ascending
  stable tied apart := by
    have low := first.stable tied fun a member b member' =>
      apart a (List.mem_append_left _ member) b (List.mem_append_left _ member')
    have high := second.stable tied fun a member b member' =>
      apart a (List.mem_append_right _ member) b (List.mem_append_right _ member')
    have inside := (first.perm.append second.perm).subset
    rw [sorted.stable tied fun a member b member' => apart a (inside member) b (inside member'),
      List.filter_append, low, high, List.filter_append]

end StablySorted

namespace Assertion

variable {m : Type → Type} [Monad m] (assertion : Assertion m) {less : α → α → m Bool}

/-- Merging two sequences loses and adds no item. -/
theorem mergeSorted_perm (answers : ∀ a b, assertion.Holds (fun _ => True) (less a b))
    (left right : List α) :
    assertion.Holds (fun merged => merged.Perm (left ++ right))
      (Collection.mergeSorted less left right) := by
  -- One item of either sequence is taken at a time, whatever the comparison answers.
  induction left, right using Collection.mergeSorted.induct with
  | case1 right => simpa only [Collection.mergeSorted] using assertion.pure (.refl _)
  | case2 left nonempty =>
    rw [Collection.mergeSorted]
    · exact assertion.pure (by rw [List.append_nil])
    · exact nonempty
  | case3 a left b right second first =>
    rw [Collection.mergeSorted]
    refine assertion.bind (answers b a) fun next _ => ?_
    cases next with
    | true =>
      refine assertion.bind second fun merged perm => ?_
      exact assertion.pure ((perm.cons b).trans List.perm_middle.symm)
    | false => exact assertion.bind first fun merged perm => assertion.pure (perm.cons a)

/-- Sorting a sequence loses and adds no item. -/
theorem sortItems_perm [LawfulMonad m]
    (answers : ∀ a b, assertion.Holds (fun _ => True) (less a b)) (items : List α) :
    assertion.Holds (fun sorted => sorted.Perm items) (Collection.sortItems less items) := by
  induction items using Collection.sortItems.induct with
  | case1 items short =>
    rw [Collection.sortItems.eq_def, dif_pos short]
    exact assertion.pure (.refl _)
  | case2 items long left right =>
    rw [Collection.sortItems.eq_def, dif_neg long]
    refine assertion.bind left fun low first => ?_
    refine assertion.bind right fun high second => ?_
    -- The sorted halves have the items of the halves, and these those of the whole.
    have halves := first.append second
    rw [List.take_append_drop] at halves
    exact assertion.mono (fun _ perm => perm.trans halves)
      (assertion.mergeSorted_perm answers low high)

/-- Two sequences that are in order are merged into one that is in order. -/
theorem mergeSorted_stable (left right : List α) (weak : StrictWeak before (left ++ right))
    (low : left.Pairwise fun earlier later => before later earlier = false)
    (high : right.Pairwise fun earlier later => before later earlier = false)
    (answers : ∀ a ∈ left ++ right, ∀ b ∈ left ++ right,
      assertion.Holds (fun answer => answer = before a b) (less a b)) :
    assertion.Holds (StablySorted before (left ++ right))
      (Collection.mergeSorted less left right) := by
  induction left, right using Collection.mergeSorted.induct with
  | case1 right =>
    simpa only [Collection.mergeSorted] using assertion.pure ⟨.refl _, high, fun _ _ => rfl⟩
  | case2 left nonempty =>
    rw [Collection.mergeSorted]
    · rw [List.append_nil]
      exact assertion.pure ⟨.refl _, low, fun _ _ => rfl⟩
    · exact nonempty
  | case3 a left b right second first =>
    rw [Collection.mergeSorted]
    refine assertion.bind (answers b (by simp) a (by simp)) fun next given => ?_
    -- The items that are left are still in order, and so are the answers about them, so that they
    -- are merged in order behind the one that goes first.
    cases next with
    | true =>
      have inside : a :: left ++ right ⊆ a :: left ++ b :: right :=
        List.append_subset.2 ⟨List.subset_append_left _ _,
          List.subset_append_of_subset_right _ (List.subset_cons_self b right)⟩
      refine assertion.bind (second (weak.mono inside) low high.of_cons
        fun x member y member' => answers x (inside member) y (inside member'))
          fun merged sorted => ?_
      exact assertion.pure (sorted.consRight weak low high given.symm)
    | false =>
      have inside : left ++ b :: right ⊆ a :: left ++ b :: right := List.subset_cons_self _ _
      refine assertion.bind (first (weak.mono inside) low.of_cons high
        fun x member y member' => answers x (inside member) y (inside member'))
          fun merged sorted => ?_
      exact assertion.pure (sorted.consLeft weak low high given.symm)

/-- A comparison that is a strict weak order on the items sorts them, and keeps those that are tied
as they stood. -/
theorem sortItems_stable [LawfulMonad m] (items : List α) (weak : StrictWeak before items)
    (answers : ∀ a ∈ items, ∀ b ∈ items,
      assertion.Holds (fun answer => answer = before a b) (less a b)) :
    assertion.Holds (StablySorted before items) (Collection.sortItems less items) := by
  induction items using Collection.sortItems.induct with
  | case1 items short =>
    rw [Collection.sortItems.eq_def, dif_pos short]
    -- A sequence of at most one item is in order.
    have ascending : items.Pairwise fun earlier later => before later earlier = false := by
      cases items with
      | nil => exact .nil
      | cons item rest =>
        obtain rfl : rest = [] := List.length_eq_zero_iff.1 (by simpa using short)
        exact List.pairwise_singleton _ _
    exact assertion.pure ⟨.refl _, ascending, fun _ _ => rfl⟩
  | case2 items long left right =>
    rw [Collection.sortItems.eq_def, dif_neg long]
    have front : items.take (items.length / 2) ⊆ items := List.take_subset _ _
    have back : items.drop (items.length / 2) ⊆ items := List.drop_subset _ _
    refine assertion.bind (left (weak.mono front)
      fun a member b member' => answers a (front member) b (front member')) fun low first => ?_
    refine assertion.bind (right (weak.mono back)
      fun a member b member' => answers a (back member) b (back member')) fun high second => ?_
    -- The halves in order have the same items as the halves.
    have halves := first.perm.append second.perm
    rw [List.take_append_drop] at halves
    have merged := assertion.mergeSorted_stable low high (weak.mono halves.subset) first.ascending
      second.ascending fun a member b member' =>
        answers a (halves.subset member) b (halves.subset member')
    refine assertion.mono (fun sorted arranged => ?_) merged
    simpa only [List.take_append_drop] using first.ofParts second arranged

end Assertion

namespace StrictWeak

/-- An order on keys is one on what stands under them. -/
theorem zip {β : Type} {keys : List α} (weak : StrictWeak before keys) (items : List β) :
    StrictWeak (fun a b : α × β => before a.1 b.1) (keys.zip items) where
  irrefl a member := weak.irrefl a.1 (List.of_mem_zip member).1
  trans a first b second c third := weak.trans a.1 (List.of_mem_zip first).1 b.1
    (List.of_mem_zip second).1 c.1 (List.of_mem_zip third).1
  tied a first b second c third := weak.tied a.1 (List.of_mem_zip first).1 b.1
    (List.of_mem_zip second).1 c.1 (List.of_mem_zip third).1

end StrictWeak

/-- Every outcome is a value or an error. -/
theorem Outcome.Ensures.any {ε : Type} (outcome : Except ε α) :
    Outcome.Ensures (fun _ => True) (fun _ => True) outcome := by
  cases outcome with
  | ok value => exact .value trivial
  | error error => exact .failure trivial

/-- An outcome that ensures a property and reports no error is a value. -/
theorem Outcome.Ensures.exists_ok {ε : Type} {values : α → Prop} {outcome : Except ε α}
    (ensures : Outcome.Ensures values (fun _ => False) outcome) :
    ∃ value, outcome = .ok value ∧ values value := by
  cases ensures with
  | value holds => exact ⟨_, rfl, holds⟩
  | failure reported => exact reported.elim

namespace Collection

variable {less : α → α → Except Error Bool} {items : List α}

/-- What a comparison that may fail sorts has the same items. -/
theorem perm_of_sortItems {sorted : List α} (given : sortItems less items = .ok sorted) :
    sorted.Perm items :=
  ((Assertion.outcome fun _ => True).sortItems_perm (fun a b => .any (less a b)) items).of_ok given

/-- A comparison that does not fail on the items and is a strict weak order on them sorts them. -/
theorem exists_sortItems (weak : StrictWeak before items)
    (answers : ∀ a ∈ items, ∀ b ∈ items, less a b = .ok (before a b)) :
    ∃ sorted, sortItems less items = .ok sorted ∧ StablySorted before items sorted := by
  refine Outcome.Ensures.exists_ok
    ((Assertion.outcome fun _ => False).sortItems_stable items weak fun a first b second => ?_)
  rw [answers a first b second]
  exact .value rfl

/-- What is sorted by keys has the items that the keys were given to. -/
theorem perm_sortKeyed {keys items : List Value} (enough : items.length ≤ keys.length) :
    Outcome.Ensures (fun result => ∃ sorted, result = .array sorted ∧ sorted.Perm items)
      (fun _ => True) (sortKeyed (keys.zip items)) := by
  have compared (a b : Value × Value) :
      (Assertion.outcome fun _ => True).Holds (fun _ => True) (comesBefore a.1 b.1) :=
    .any (comesBefore a.1 b.1)
  -- Pairs keep their keys when they are sorted, so that the items are the same as before.
  have same := (Assertion.outcome fun _ => True).sortItems_perm compared (keys.zip items)
  refine same.bind fun sorted perm => .value ⟨_, rfl, ?_⟩
  have whole : (keys.zip items).map Prod.snd = items := List.map_snd_zip enough
  exact whole ▸ perm.map Prod.snd

end Collection

namespace MethodCall

open Collection (compared sortItems sortKeyed)

variable {query : Query} {context : Context} {items : List Value} {memory : Memory}

/-- A comparison by a query sorts the items of an array. -/
theorem run_sort (query : Query) (items : List Value) (context : Context) :
    (MethodCall.sort query).run (.ok (.array items)) context =
      sortItems (fun a b => accepts query context (compared a b)) items >>=
        fun sorted => pure (.array sorted) :=
  rfl

/-- What sorting the items of an array ensures holds of what the method gives. -/
theorem ensures_sort {values : List Value → Prop} {errors : Error → Prop}
    (sorts : Eval.Ensures values errors
      (sortItems (fun a b => accepts query context (compared a b)) items)) :
    Eval.Ensures (fun result => ∃ sorted, result = .array sorted ∧ values sorted) errors
      ((MethodCall.sort query).run (.ok (.array items)) context) := by
  rw [run_sort]
  exact sorts.bind fun sorted holds => .pure ⟨sorted, rfl, holds⟩

/-- What a query sorts has the same items. -/
theorem perm_of_sort {result : Value}
    (given : (((MethodCall.sort query).run (.ok (.array items)) context).outcome memory).1 =
      .ok result) :
    ∃ sorted, result = .array sorted ∧ sorted.Perm items := by
  have same := (Assertion.eval fun _ => True).sortItems_perm
    (fun a b memory => .any ((accepts query context (compared a b)).outcome memory).1) items
  exact (ensures_sort same memory).of_ok given

/-- A query that answers for the items from every memory and is a strict weak order on them sorts
them. -/
theorem exists_sort {before : Value → Value → Bool} (weak : StrictWeak before items)
    (answers : ∀ a ∈ items, ∀ b ∈ items, ∀ memory,
      ((accepts query context (compared a b)).outcome memory).1 = .ok (before a b))
    (memory : Memory) :
    ∃ sorted, (((MethodCall.sort query).run (.ok (.array items)) context).outcome memory).1 =
      .ok (.array sorted) ∧ StablySorted before items sorted := by
  -- Every comparison is answered, so that the sorting does not fail.
  have arranged : Eval.Ensures (StablySorted before items) (fun _ => False)
      (sortItems (fun a b => accepts query context (compared a b)) items) := by
    refine (Assertion.eval fun _ => False).sortItems_stable items weak
      fun a first b second memory => ?_
    rw [answers a first b second memory]
    exact .value rfl
  obtain ⟨_, given, sorted, rfl, stable⟩ := (ensures_sort arranged memory).exists_ok
  exact ⟨sorted, given, stable⟩

/-- Items get their keys in order. -/
theorem mapM_keyed (query : Query) (context : Context) (items : List Value) :
    items.mapM (keyed query context) =
      items.mapM (element query context) >>= fun keys => pure (keys.zip items) := by
  induction items with
  | nil => rfl
  | cons item rest ih => simp [List.mapM_cons, ih, keyed]

/-- Items are sorted by their keys once the keys are known. -/
theorem run_sortBy (query : Query) (items : List Value) (context : Context) :
    (MethodCall.sortBy query).run (.ok (.array items)) context =
      items.mapM (element query context) >>=
        fun keys => Eval.ofExcept (sortKeyed (keys.zip items)) := by
  have keyed : (MethodCall.sortBy query).run (.ok (.array items)) context =
      items.mapM (MethodCall.keyed query context) >>=
        fun keyed => Eval.ofExcept (sortKeyed keyed) := rfl
  rw [keyed, mapM_keyed, bind_assoc]
  simp only [pure_bind]

/-- What is sorted by keys has the same items. -/
theorem perm_of_sortBy {result : Value}
    (given : (((MethodCall.sortBy query).run (.ok (.array items)) context).outcome memory).1 =
      .ok result) :
    ∃ sorted, result = .array sorted ∧ sorted.Perm items := by
  -- All keys are extracted first, one for each item.
  have run : Eval.Ensures (fun result => ∃ sorted, result = .array sorted ∧ sorted.Perm items)
      (fun _ => True) ((MethodCall.sortBy query).run (.ok (.array items)) context) := by
    have extracted : Eval.Ensures (List.Forall₂ (fun _ _ => True) items) (fun _ => True)
        (items.mapM (element query context)) :=
      (Assertion.eval fun _ => True).mapM items
        fun item _ memory => .any ((element query context item).outcome memory).1
    rw [run_sortBy]
    exact extracted.bind fun keys each =>
      .ofExcept (Collection.perm_sortKeyed (Nat.le_of_eq each.length_eq))
  exact (run memory).of_ok given

/-- Keys that can be compared with each other and are in a strict weak order sort the items. -/
theorem exists_sortBy {keys : List Value} {before : Value → Value → Bool} {after : Memory}
    (extracted : (items.mapM (element query context)).outcome memory = (.ok keys, after))
    (weak : StrictWeak before keys)
    (answers : ∀ a ∈ keys, ∀ b ∈ keys, Collection.comesBefore a b = .ok (before a b)) :
    ∃ sorted, ((MethodCall.sortBy query).run (.ok (.array items)) context).outcome memory =
        (.ok (.array (sorted.map Prod.snd)), after) ∧
      StablySorted (fun a b => before a.1 b.1) (keys.zip items) sorted := by
  have paired : ∀ a ∈ keys.zip items, ∀ b ∈ keys.zip items,
      Collection.comesBefore a.1 b.1 = .ok (before a.1 b.1) := fun a first b second =>
    answers a.1 (List.of_mem_zip first).1 b.1 (List.of_mem_zip second).1
  -- The items go along with their keys, so that keys are compared where pairs are.
  obtain ⟨sorted, given, stable⟩ := Collection.exists_sortItems (weak.zip items) paired
  refine ⟨sorted, ?_, stable⟩
  have keyed : sortKeyed (keys.zip items) = .ok (.array (sorted.map Prod.snd)) := by
    rw [sortKeyed, given]
    rfl
  rw [run_sortBy, Eval.outcome_bind, extracted]
  simp only [keyed]
  rfl

end MethodCall

namespace Collection

/-- Sorting is stable. For every comparison that may fail, what is sorted has the same items; and if
it does not fail on the items and is a strict weak order on them, they are sorted, and those that
are tied stay as they stood. So it is for arrays whose items a query compares, and for those that
are sorted by the natural order of keys that a query gives. -/
theorem sorts_stably :
    (∀ (α : Type) (less : α → α → Except Error Bool) (items : List α),
      (∀ sorted, sortItems less items = .ok sorted → sorted.Perm items) ∧
      ∀ before, StrictWeak before items →
        (∀ a ∈ items, ∀ b ∈ items, less a b = .ok (before a b)) →
        ∃ sorted, sortItems less items = .ok sorted ∧
          StablySorted before items sorted) ∧
    (∀ (query : Query) (context : Context) (items : List Value) (memory : Memory),
      (∀ result,
        (((MethodCall.sort query).run (.ok (.array items)) context).outcome memory).1 =
          .ok result → ∃ sorted, result = .array sorted ∧ sorted.Perm items) ∧
      ∀ before, StrictWeak before items →
        (∀ a ∈ items, ∀ b ∈ items, ∀ memory,
          ((MethodCall.accepts query context (compared a b)).outcome memory).1 =
            .ok (before a b)) →
        ∃ sorted,
          (((MethodCall.sort query).run (.ok (.array items)) context).outcome memory).1 =
            .ok (.array sorted) ∧ StablySorted before items sorted) ∧
    ∀ (query : Query) (context : Context) (items : List Value) (memory : Memory),
      (∀ result,
        (((MethodCall.sortBy query).run (.ok (.array items)) context).outcome memory).1 =
          .ok result → ∃ sorted, result = .array sorted ∧ sorted.Perm items) ∧
      ∀ keys after before,
        (items.mapM (MethodCall.element query context)).outcome memory = (.ok keys, after) →
        StrictWeak before keys →
        (∀ a ∈ keys, ∀ b ∈ keys, comesBefore a b = .ok (before a b)) →
        ∃ sorted,
          ((MethodCall.sortBy query).run (.ok (.array items)) context).outcome memory =
            (.ok (.array (sorted.map Prod.snd)), after) ∧
          StablySorted (fun a b => before a.1 b.1) (keys.zip items) sorted := by
  -- Each of the three is its two lemmas, on the items that are kept and on the order.
  refine ⟨fun α less items => ⟨fun sorted => perm_of_sortItems, fun before weak answers =>
    exists_sortItems weak answers⟩, fun query context items memory => ?_,
    fun query context items memory => ?_⟩
  · exact ⟨fun result => MethodCall.perm_of_sort, fun before weak answers =>
      MethodCall.exists_sort weak answers memory⟩
  · exact ⟨fun result => MethodCall.perm_of_sortBy, fun keys after before extracted weak answers =>
      MethodCall.exists_sortBy extracted weak answers⟩

section Sample

/-- A person with an age. -/
def person (name : String) (age : Int64) : Value :=
  .object [("age", .int age), ("name", .string name)]

/-- Three persons, two of them of the same age. -/
def people : List Value :=
  [person "ada" 36, person "bob" 20, person "cid" 36]

/-- Whether an age is less than another one. -/
def isLess (age other : Value) : Bool :=
  age.compare? other == some .lt

/-- Whether a person is younger than another one. -/
def isYounger (person other : Value) : Bool :=
  isLess (person.getOrNull ["age"]) (other.getOrNull ["age"])

/-- The query whether the left one of two persons is younger. -/
def younger : Query :=
  (Expr.binary .less (.field .current ["left", "age"]) (.field .current ["right", "age"])).denote []

/-- The query for the age of a person. -/
def age : Query :=
  (Expr.field .current ["age"]).denote []

/-- The ages are sorted in their natural order, and the persons with a query that compares two of
them and with one that gives the age. -/
theorem sorts_stably_people :
    StrictWeak isYounger people ∧ StrictWeak isLess [.int 36, .int 20, .int 36] ∧
    (∃ sorted, sortItems comesBefore [.int 36, .int 20, .int 36] = .ok sorted ∧
      StablySorted isLess [.int 36, .int 20, .int 36] sorted) ∧
    (∃ sorted,
      (((MethodCall.sort younger).run (.ok (.array people)) (.bare ⟨[], ⟨0, 0⟩⟩)).outcome
        (.fresh (.seeded 0))).1 = .ok (.array sorted) ∧ StablySorted isYounger people sorted) ∧
    ∃ sorted,
      ((MethodCall.sortBy age).run (.ok (.array people)) (.bare ⟨[], ⟨0, 0⟩⟩)).outcome
          (.fresh (.seeded 0)) =
        (.ok (.array (sorted.map Prod.snd)), .fresh (.seeded 0)) ∧
      StablySorted (fun a b => isLess a.1 b.1) ([.int 36, .int 20, .int 36].zip people) sorted := by
  -- The order of three persons is decided, and the queries are answered by evaluation.
  have weak : StrictWeak isYounger people := by constructor <;> decide
  have weak' : StrictWeak isLess [.int 36, .int 20, .int 36] := by constructor <;> decide
  have natural : ∀ a ∈ [Value.int 36, .int 20, .int 36], ∀ b ∈ [Value.int 36, .int 20, .int 36],
      comesBefore a b = .ok (isLess a b) := by
    simp only [List.forall_mem_cons, List.not_mem_nil, false_implies, implies_true, and_true]
    exact ⟨⟨rfl, rfl, rfl⟩, ⟨rfl, rfl, rfl⟩, rfl, rfl, rfl⟩
  obtain ⟨sorts, compares, extracts⟩ := sorts_stably
  refine ⟨weak, weak', ?_, ?_, ?_⟩
  · exact (sorts Value comesBefore _).2 isLess weak' natural
  · refine (compares younger _ people _).2 isYounger weak ?_
    simp only [people, List.forall_mem_cons, List.not_mem_nil, false_implies, implies_true, and_true]
    exact ⟨⟨fun _ => rfl, fun _ => rfl, fun _ => rfl⟩, ⟨fun _ => rfl, fun _ => rfl, fun _ => rfl⟩,
      fun _ => rfl, fun _ => rfl, fun _ => rfl⟩
  · exact (extracts age _ people _).2 _ _ isLess rfl weak' natural

end Sample

end Collection

end Reshape
