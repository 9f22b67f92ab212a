import Reshape.Proofs.Builtin.Sort
import Reshape.Proofs.Value.Equality

/-!
Sorting in the natural order. A merge sort compares some of the pairs of items only, but each merge
compares an item of one half with one of the other: a comparison that only succeeds for items of one
kind is asked about two items of different kinds if there are any. So an array is sorted just if all
its items are of one kind, and numbers are sorted into their order as long as that is one.
-/

namespace Reshape.Collection

section Asked

variable {α κ : Type} {less : α → α → Except Error Bool} {items : List α}

/-- A sequence of two items or more is sorted by merging its halves, which are sorted before. -/
theorem halves_of_sortItems (long : 1 < items.length) {sorted : List α}
    (given : sortItems less items = .ok sorted) :
    ∃ low high, sortItems less (items.take (items.length / 2)) = .ok low ∧
      sortItems less (items.drop (items.length / 2)) = .ok high ∧
      mergeSorted less low high = .ok sorted := by
  rw [sortItems.eq_def, dif_neg (by omega)] at given
  obtain ⟨low, first, given⟩ := Outcome.of_bind_eq_ok given
  obtain ⟨high, second, given⟩ := Outcome.of_bind_eq_ok given
  exact ⟨low, high, first, second, given⟩

/-- Two items or more are sorted by merging their sorted halves. -/
theorem sortItems_of_halves (long : 1 < items.length) {low high : List α}
    (first : sortItems less (items.take (items.length / 2)) = .ok low)
    (second : sortItems less (items.drop (items.length / 2)) = .ok high) :
    sortItems less items = mergeSorted less low high := by
  rw [sortItems.eq_def, dif_neg (by omega), first, second]
  rfl

/-- To merge two sequences with items the first ones of both are compared. -/
theorem asked_of_mergeSorted {a b : α} {left right merged : List α}
    (given : mergeSorted less (a :: left) (b :: right) = .ok merged) :
    ∃ answer, less b a = .ok answer := by
  rw [mergeSorted] at given
  obtain ⟨answer, asked, _⟩ := Outcome.of_bind_eq_ok given
  exact ⟨answer, asked⟩

/-- To sort two items or more one of the first half is compared with one of the second. -/
theorem asked_of_sortItems (long : 1 < items.length) {sorted : List α}
    (given : sortItems less items = .ok sorted) :
    ∃ a ∈ items.take (items.length / 2), ∃ b ∈ items.drop (items.length / 2), ∃ answer,
      less b a = .ok answer := by
  obtain ⟨low, high, first, second, merged⟩ := halves_of_sortItems long given
  have front := perm_of_sortItems first
  have back := perm_of_sortItems second
  have size := front.length_eq
  have size' := back.length_eq
  rw [List.length_take] at size
  rw [List.length_drop] at size'
  -- Both halves have items.
  cases low with
  | nil => simp only [List.length_nil] at size; omega
  | cons a left =>
    cases high with
    | nil => simp only [List.length_nil] at size'; omega
    | cons b right =>
      exact ⟨a, front.subset (.head _), b, back.subset (.head _), asked_of_mergeSorted merged⟩

/-- Items that are sorted by a comparison within kinds are all of one kind. -/
theorem alike_of_sortItems {kind : α → κ}
    (within : ∀ a b answer, less a b = .ok answer → kind a = kind b) {sorted : List α}
    (given : sortItems less items = .ok sorted) : ∀ a ∈ items, ∀ b ∈ items, kind a = kind b := by
  induction items using sortItems.induct generalizing sorted with
  | case1 items short =>
    -- A single item is of one kind with itself.
    intro a member b member'
    cases items with
    | nil => cases member
    | cons item rest =>
      obtain rfl : rest = [] := List.length_eq_zero_iff.1 (by simpa using short)
      rw [List.mem_singleton.1 member, List.mem_singleton.1 member']
  | case2 items long left right =>
    obtain ⟨low, high, first, second, _⟩ := halves_of_sortItems (by omega) given
    obtain ⟨a, front, b, back, answer, asked⟩ := asked_of_sortItems (by omega) given
    -- Each half is of one kind, and the items that were compared make that the same one.
    have same : kind b = kind a := within b a answer asked
    have each (item : α) (member : item ∈ items) : kind item = kind a := by
      rw [← List.take_append_drop (items.length / 2) items] at member
      rcases List.mem_append.1 member with member | member
      · exact left first item member a front
      · exact (right second item member b back).trans same
    exact fun item member item' member' => (each item member).trans (each item' member').symm

end Asked

open Value

variable {items : List Value} {a b : Value}

/-- Values come before each other or not just if they have an order. -/
theorem comesBefore_eq_ok {answer : Bool} :
    comesBefore a b = .ok answer ↔
      ∃ order, a.compare? b = some order ∧ (order == .lt) = answer := by
  unfold comesBefore
  cases a.compare? b <;> simp

/-- Sorting an array sorts its items. -/
theorem sort_array (items : List Value) :
    sort (.array items) = (sortItems comesBefore items).map .array := by
  have sorts : sort (.array items) =
      sortItems comesBefore items >>= fun sorted => pure (.array sorted) := rfl
  rw [sorts]
  cases sortItems comesBefore items <;> rfl

/-- At most one item is sorted as it is. -/
theorem sort_of_short (short : items.length ≤ 1) : sort (.array items) = .ok (.array items) := by
  rw [sort_array, sortItems.eq_def, dif_pos short]
  rfl

/-- Items of one kind are sorted. -/
theorem exists_sort_of_kind {kind : OrderKind} (each : ∀ a ∈ items, a.orderKind? = some kind) :
    ∃ sorted, sort (.array items) = .ok (.array sorted) := by
  -- Items of one kind have an order, so no comparison fails.
  have answered (a b : Value) (first : a.orderKind? = some kind)
      (second : b.orderKind? = some kind) :
      Outcome.Ensures (fun _ => True) (fun _ => False) (comesBefore a b) := by
    obtain ⟨order, known⟩ := Option.isSome_iff_exists.1 (isSome_compare?.2 ⟨kind, first, second⟩)
    rw [comesBefore_eq_ok.2 ⟨order, known, rfl⟩]
    exact .value trivial
  obtain ⟨sorted, given, -⟩ :=
    ((Assertion.outcome fun _ => False).sortItems answered items each).exists_ok
  exact ⟨sorted, by rw [sort_array, given]; rfl⟩

/-- Two items or more that are sorted are of one kind. -/
theorem kind_of_sort (long : 2 ≤ items.length) {result : Value}
    (given : sort (.array items) = .ok result) :
    ∃ kind, ∀ a ∈ items, a.orderKind? = some kind := by
  -- Sorting compares along a chain through all items, and compared items are of one kind.
  rw [sort_array] at given
  cases sorts : sortItems comesBefore items with
  | error error =>
    rw [sorts] at given
    cases given
  | ok sorted =>
    have compared (a b : Value) (answer : Bool) (asked : comesBefore a b = .ok answer) :
        ∃ kind, a.orderKind? = some kind ∧ b.orderKind? = some kind := by
      obtain ⟨order, known, _⟩ := comesBefore_eq_ok.1 asked
      exact isSome_compare?.1 (by rw [known]; rfl)
    obtain ⟨a, front, b, back, answer, asked⟩ := asked_of_sortItems long sorts
    obtain ⟨kind, -, known⟩ := compared b a answer asked
    have alike : ∀ a ∈ items, ∀ b ∈ items, a.orderKind? = b.orderKind? := by
      refine alike_of_sortItems (fun a b answer asked => ?_) sorts
      obtain ⟨kind, first, second⟩ := compared a b answer asked
      rw [first, second]
    exact ⟨kind, fun item member => (alike item member a (List.mem_of_mem_take front)).trans known⟩

/-- An array that is not sorted has two items without an order, which the error tells the types
of. -/
theorem unordered_of_sort {error : Error} (failed : sort (.array items) = .error error) :
    ∃ a ∈ items, ∃ b ∈ items, a.compare? b = none ∧
      error = .general (.incomparable a.typeName b.typeName) := by
  -- A comparison fails only for two items without an order, and tells their types.
  have reported (a b : Value) (first : a ∈ items) (second : b ∈ items) :
      Outcome.Ensures (fun _ => True) (fun error => ∃ a ∈ items, ∃ b ∈ items, a.compare? b = none ∧
        error = .general (.incomparable a.typeName b.typeName)) (comesBefore a b) := by
    unfold comesBefore
    cases unordered : a.compare? b with
    | none => exact .failure ⟨a, first, b, second, unordered, rfl⟩
    | some order => exact .value trivial
  have sorts := (Assertion.outcome _).sortItems reported items fun _ member => member
  rw [sort_array] at failed
  cases outcome : sortItems comesBefore items with
  | ok sorted =>
    rw [outcome] at failed
    cases failed
  | error error' =>
    rw [outcome] at failed
    obtain rfl := Except.error.inj failed
    exact sorts.of_error outcome

/-- Sorting in the natural order refuses just the arrays that have none. At most one item is sorted
as it is. Two items or more are sorted just if every two of them have an order, wherever they stand,
and that is if all are definite numbers, all are strings or all are octets; otherwise the error
names the types of two items that have no order. -/
theorem sort_succeeds_iff (items : List Value) :
    (items.length ≤ 1 → sort (.array items) = .ok (.array items)) ∧
    (2 ≤ items.length →
      ((∃ sorted, sort (.array items) = .ok sorted) ↔
        items.Pairwise fun a b => (a.compare? b).isSome = true) ∧
      ((∃ sorted, sort (.array items) = .ok sorted) ↔
        ∃ kind, ∀ a ∈ items, a.orderKind? = some kind)) ∧
    ∀ error, sort (.array items) = .error error →
      ∃ a ∈ items, ∃ b ∈ items, a.compare? b = none ∧
        error = .general (.incomparable a.typeName b.typeName) := by
  refine ⟨sort_of_short, fun long => ?_, fun error => unordered_of_sort⟩
  have kinds : (∃ sorted, sort (.array items) = .ok sorted) ↔
      ∃ kind, ∀ a ∈ items, a.orderKind? = some kind := by
    constructor
    · rintro ⟨sorted, given⟩
      exact kind_of_sort long given
    · rintro ⟨kind, each⟩
      obtain ⟨sorted, given⟩ := exists_sort_of_kind each
      exact ⟨_, given⟩
  refine ⟨kinds.trans ⟨?_, fun ordered => ?_⟩, kinds⟩
  · rintro ⟨kind, each⟩
    exact List.pairwise_of_forall_mem_list fun a member b member' =>
      isSome_compare?.2 ⟨kind, each a member, each b member'⟩
  · -- The first item has an order with each other one, and so is of their kind.
    match items, long, ordered with
    | first :: second :: rest, _, ordered =>
      have above := (List.pairwise_cons.1 ordered).1
      obtain ⟨kind, known, -⟩ := isSome_compare?.1 (above second (.head _))
      refine ⟨kind, List.forall_mem_cons.2 ⟨known, fun item member => ?_⟩⟩
      obtain ⟨kind', known', other⟩ := isSome_compare?.1 (above item member)
      obtain rfl : kind = kind' := Option.some.inj (known.symm.trans known')
      exact other

/-- Four numbers, the last of which is none. -/
def readings : List Value :=
  [.int 3, .float ⟨0x3FE0000000000000⟩, .uint 2, .float .nan]

/-- A null alone is sorted as it is; the first three numbers are sorted; and all four are not, for
two of them have no order. -/
theorem sort_succeeds_iff_readings :
    sort (.array [.null]) = .ok (.array [.null]) ∧
    2 ≤ readings.length ∧
    (∃ sorted, sort (.array (readings.take 3)) = .ok sorted) ∧
    ∃ error, sort (.array readings) = .error error ∧
      ∃ a ∈ readings, ∃ b ∈ readings, a.compare? b = none ∧
        error = .general (.incomparable a.typeName b.typeName) := by
  refine ⟨(sort_succeeds_iff [.null]).1 (by decide), by decide,
    ((sort_succeeds_iff (readings.take 3)).2.1 (by decide)).2.2 ⟨.number, by decide⟩, ?_⟩
  -- A number that is not definite has no kind.
  have mixed : ¬∃ kind, ∀ a ∈ readings, a.orderKind? = some kind := by
    rintro ⟨kind, each⟩
    cases each (.float .nan) (by simp [readings])
  have refused := (((sort_succeeds_iff readings).2.1 (by decide)).2.not).2 mixed
  cases outcome : sort (.array readings) with
  | ok sorted => exact absurd ⟨sorted, outcome⟩ refused
  | error error => exact ⟨error, rfl, (sort_succeeds_iff readings).2.2 error outcome⟩

section Numbers

variable {numbers : Set Value} {c : Value}

/-- Definite numbers come before each other as they compare. -/
theorem comesBefore_of_isDefinite (definite : a.isDefinite = true)
    (definite' : b.isDefinite = true) :
    comesBefore a b = .ok (compareNumbers a b == some .lt) := by
  obtain ⟨order, compared⟩ := Option.isSome_iff_exists.1
    (isSome_compareNumbers.2 ⟨definite, definite'⟩)
  refine comesBefore_eq_ok.2 ⟨order, by rw [compare?_of_isDefinite definite, compared], ?_⟩
  rw [compared]
  rfl

/-- A number does not compare as less than another one just if that is at most it. -/
theorem not_less_iff (definite : a.isDefinite = true) (definite' : b.isDefinite = true) :
    (compareNumbers a b == some .lt) = false ↔ AtMost b a := by
  rw [atMost_iff definite' definite, ← compareNumbers_eq_lt definite definite']
  exact beq_eq_false_iff_ne

/-- Numbers are in a strict weak order if they are sharp. -/
theorem strictWeak_of_sharp (sharp : Sharp numbers) (definite : ∀ a ∈ numbers, a.isDefinite = true)
    (inside : ∀ a ∈ items, a ∈ numbers) :
    StrictWeak (fun a b => compareNumbers a b == some .lt) items where
  -- Less is read as less by value, which among sharp numbers goes on from one to the next.
  irrefl a member := by
    rw [compareNumbers_self.2 (definite a (inside a member))]
    rfl
  trans a first b second c third low high := by
    have definite (a : Value) (member : a ∈ items) := definite a (inside a member)
    rw [beq_iff_eq, compareNumbers_eq_lt (definite a first) (definite b second)] at low
    rw [beq_iff_eq, compareNumbers_eq_lt (definite b second) (definite c third)] at high
    rw [beq_iff_eq, compareNumbers_eq_lt (definite a first) (definite c third)]
    exact low.trans high
  tied a first b second c third low _ high _ := by
    have definite' (a : Value) (member : a ∈ items) := definite a (inside a member)
    rw [not_less_iff (definite' a first) (definite' b second)] at low
    rw [not_less_iff (definite' b second) (definite' c third)] at high
    rw [not_less_iff (definite' a first) (definite' c third)]
    exact sharp.atMost_trans definite (inside c third) (inside b second) (inside a first) high low

/-- Definite numbers are sorted, none being lost. -/
theorem exists_sort_of_isDefinite (definite : ∀ a ∈ items, a.isDefinite = true) :
    ∃ sorted, sort (.array items) = .ok (.array sorted) ∧ sorted.Perm items := by
  -- Definite numbers are of the kind of numbers, which is sorted, and sorting permutes.
  have kinds : ∀ a ∈ items, a.orderKind? = some .number := by
    intro a member
    have known := definite a member
    cases a with
    | int value | uint value => rfl
    | float x => exact if_pos known
    | _ => cases known
  obtain ⟨sorted, given⟩ := exists_sort_of_kind kinds
  refine ⟨sorted, given, ?_⟩
  rw [sort_array] at given
  cases sorts : sortItems comesBefore items with
  | error error =>
    rw [sorts] at given
    cases given
  | ok found =>
    rw [sorts] at given
    obtain rfl : found = sorted := by simpa [Except.map] using given
    exact perm_of_sortItems sorts

/-- Sharp numbers are sorted into their order. -/
theorem ascending_of_sharp (sharp : Sharp numbers) (definite : ∀ a ∈ numbers, a.isDefinite = true)
    (inside : ∀ a ∈ items, a ∈ numbers) {sorted : List Value}
    (given : sort (.array items) = .ok (.array sorted)) : sorted.Pairwise AtMost := by
  -- The sorted array is ascending by the order that sorting asks, and this is the order by value.
  obtain ⟨sorted', sorts, stable⟩ := exists_sortItems (strictWeak_of_sharp sharp definite inside)
    fun a first b second => comesBefore_of_isDefinite (definite a (inside a first))
      (definite b (inside b second))
  rw [sort_array, sorts] at given
  obtain rfl : sorted' = sorted := by simpa [Except.map] using given
  refine stable.ascending.imp_of_mem fun {a b} first second least => ?_
  have member (a : Value) (found : a ∈ sorted') := inside a (stable.perm.subset found)
  exact (not_less_iff (definite b (member b second)) (definite a (member a first))).1 least

/-- Three items none of which comes before the one ahead of it are left as they stand. -/
theorem sort_of_tied (first : comesBefore b a = .ok false) (second : comesBefore c b = .ok false) :
    sort (.array [a, b, c]) = .ok (.array [a, b, c]) := by
  -- The halves of one and two items are sorted first; then each merge takes the left item.
  have single (v : Value) : sortItems comesBefore [v] = .ok [v] := by
    rw [sortItems.eq_def, dif_pos (by simp)]
    rfl
  have behind (v : Value) (rest : List Value) : mergeSorted comesBefore [] (v :: rest) =
      .ok (v :: rest) := by
    rw [mergeSorted]
    rfl
  have pair : sortItems comesBefore [b, c] = .ok [b, c] := by
    have halves : sortItems comesBefore [b, c] = mergeSorted comesBefore [b] [c] :=
      sortItems_of_halves (by simp) (by simp [single]) (by simp [single])
    rw [halves, mergeSorted, second]
    exact congrArg (· >>= fun rest => pure (b :: rest)) (behind c [])
  have sorts : sortItems comesBefore [a, b, c] = .ok [a, b, c] := by
    have halves : sortItems comesBefore [a, b, c] = mergeSorted comesBefore [a] [b, c] :=
      sortItems_of_halves (by simp) (by simp [single]) (by simp [pair])
    rw [halves, mergeSorted, first]
    exact congrArg (· >>= fun rest => pure (a :: rest)) (behind b [c])
  rw [sort_array, sorts]
  rfl

/-- Where to be at most another number goes on from one number to the next, so does to equal it. -/
theorem equal_trans_of_atMost_trans (definite : ∀ a ∈ numbers, a.isDefinite = true)
    (trans : ∀ a ∈ numbers, ∀ b ∈ numbers, ∀ c ∈ numbers,
      AtMost a b → AtMost b c → AtMost a c) :
    ∀ a ∈ numbers, ∀ b ∈ numbers, ∀ c ∈ numbers, compareNumbers a b = some .eq →
      compareNumbers b c = some .eq → compareNumbers a c = some .eq := by
  intro a first b second c third low high
  rw [compareNumbers_eq_eq (definite a first) (definite b second)] at low
  rw [compareNumbers_eq_eq (definite b second) (definite c third)] at high
  rw [compareNumbers_eq_eq (definite a first) (definite c third)]
  -- Two numbers are equal if each is at most the other one.
  exact ⟨trans a first b second c third low.1 high.1,
    trans c third b second a first high.2 low.2⟩

/-- Where the equality of values goes on, so does that of the numbers that they are made of. -/
theorem equal_trans_of_equals_trans (definite : ∀ a ∈ numbers, a.isDefinite = true)
    (trans : ∀ u v w, MadeOf numbers u → MadeOf numbers v → MadeOf numbers w →
      (u == v) = true → (v == w) = true → (u == w) = true) :
    ∀ a ∈ numbers, ∀ b ∈ numbers, ∀ c ∈ numbers, compareNumbers a b = some .eq →
      compareNumbers b c = some .eq → compareNumbers a c = some .eq := by
  intro a first b second c third low high
  have number (v : Value) (member : v ∈ numbers) := isNumber_of_isDefinite (definite v member)
  -- Numbers are values made of themselves, and equal as they compare.
  have same := trans a b c (.number first) (.number second) (.number third)
    ((equals_iff_compareNumbers (number a first)).2 low)
    ((equals_iff_compareNumbers (number b second)).2 high)
  exact (equals_iff_compareNumbers (number a first)).1 same

/-- Where the equality of numbers goes on from one to the next they are sharp. -/
theorem sharp_of_equal_trans (trans : ∀ a ∈ numbers, ∀ b ∈ numbers, ∀ c ∈ numbers,
    compareNumbers a b = some .eq → compareNumbers b c = some .eq → compareNumbers a c = some .eq) :
    Sharp numbers := by
  intro a first b second m n known known' among same
  -- Both integers equal the floating-point number, and so each other.
  have left := compareNumbers_ofInt known rfl
  have right : compareNumbers (.float (.ofInt m)) b = some .eq := by
    rw [compareNumbers_swap b, compareNumbers_ofInt known' same.symm]
    rfl
  have equal := trans a first _ among b second left right
  rw [compareNumbers_of_integers known known'] at equal
  exact compare_eq_iff_eq.1 (Option.some.inj equal)

/-- Where all arrays are sorted into their order the numbers are sharp. -/
theorem sharp_of_ascending (definite : ∀ a ∈ numbers, a.isDefinite = true)
    (ascending : ∀ items sorted, (∀ a ∈ items, a ∈ numbers) →
      sort (.array items) = .ok (.array sorted) → sorted.Pairwise AtMost) : Sharp numbers := by
  -- The greater integer stays ahead of the lesser one if the number that equals both is between.
  have bridge (a b : Value) (first : a ∈ numbers) (second : b ∈ numbers) (m n : Int)
      (known : a.integer? = some m) (known' : b.integer? = some n)
      (among : .float (.ofInt m) ∈ numbers) (same : Binary64.ofInt m = .ofInt n) : m ≤ n := by
    have left : comesBefore (.float (.ofInt m)) a = .ok false := by
      rw [comesBefore_of_isDefinite (definite _ among) (definite a first), compareNumbers_swap a,
        compareNumbers_ofInt known rfl]
      rfl
    have right : comesBefore b (.float (.ofInt m)) = .ok false := by
      rw [comesBefore_of_isDefinite (definite b second) (definite _ among),
        compareNumbers_ofInt known' same.symm]
      rfl
    have inside : ∀ v ∈ [a, .float (.ofInt m), b], v ∈ numbers := by
      simpa using ⟨first, among, second⟩
    have order := ascending _ _ inside (sort_of_tied left right)
    have outer : AtMost a b := List.rel_of_pairwise_cons order (by simp)
    rw [atMost_iff (definite a first) (definite b second), before_of_integers known' known] at outer
    omega
  intro a first b second m n known known' among same
  exact le_antisymm (bridge a b first second m n known known' among same)
    (bridge b a second first n m known' known (same ▸ among) same.symm)

end Numbers

/-- Numbers are in order by their values. Every two definite numbers compare, and compare the other
way round when they are exchanged; a value equals itself if all numbers in it are definite, and
equality goes both ways; an array of definite numbers is sorted. What goes on from one number to the
next does so just among sharp numbers: to be at most another number, to equal it, the equality of
values made of the numbers, and the order of the items of sorted arrays. -/
theorem preordered_iff_sharp (numbers : Set Value) (definite : ∀ a ∈ numbers, a.isDefinite = true) :
    (∀ a b : Value, a.isDefinite = true → b.isDefinite = true →
      ∃ order, compareNumbers a b = some order) ∧
    (∀ a b : Value, compareNumbers b a = (compareNumbers a b).map Ordering.swap) ∧
    (∀ value : Value, MadeOf {a | a.isDefinite = true} value → (value == value) = true) ∧
    (∀ v w : Value, (v == w) = (w == v)) ∧
    (∀ items : List Value, (∀ a ∈ items, a.isDefinite = true) →
      ∃ sorted, sort (.array items) = .ok (.array sorted) ∧ sorted.Perm items) ∧
    (Sharp numbers ↔ ∀ a ∈ numbers, ∀ b ∈ numbers, ∀ c ∈ numbers,
      AtMost a b → AtMost b c → AtMost a c) ∧
    (Sharp numbers ↔ ∀ a ∈ numbers, ∀ b ∈ numbers, ∀ c ∈ numbers,
      compareNumbers a b = some .eq → compareNumbers b c = some .eq →
        compareNumbers a c = some .eq) ∧
    (Sharp numbers ↔ ∀ u v w, MadeOf numbers u → MadeOf numbers v → MadeOf numbers w →
      (u == v) = true → (v == w) = true → (u == w) = true) ∧
    (Sharp numbers ↔ ∀ items sorted, (∀ a ∈ items, a ∈ numbers) →
      sort (.array items) = .ok (.array sorted) → sorted.Pairwise AtMost) := by
  refine ⟨fun a b first second => ?_, compareNumbers_swap, fun value => equals_self,
    equals_comm, fun items => exists_sort_of_isDefinite, ?_⟩
  · exact Option.isSome_iff_exists.1 (isSome_compareNumbers.2 ⟨first, second⟩)
  -- The laws imply each other: from the order by value to equality, and from that to sharpness.
  have equal (trans : ∀ a ∈ numbers, ∀ b ∈ numbers, ∀ c ∈ numbers,
      AtMost a b → AtMost b c → AtMost a c) := equal_trans_of_atMost_trans definite trans
  have atMost (sharp : Sharp numbers) : ∀ a ∈ numbers, ∀ b ∈ numbers, ∀ c ∈ numbers,
      AtMost a b → AtMost b c → AtMost a c :=
    fun a first b second c third => sharp.atMost_trans definite first second third
  refine ⟨⟨atMost, fun trans => sharp_of_equal_trans (equal trans)⟩,
    ⟨fun sharp => equal (atMost sharp), sharp_of_equal_trans⟩,
    ⟨fun sharp u v w => equals_trans definite (equal (atMost sharp)),
      fun trans => sharp_of_equal_trans (equal_trans_of_equals_trans definite trans)⟩,
    ⟨fun sharp items sorted inside => ascending_of_sharp sharp definite inside,
      sharp_of_ascending definite⟩⟩

section Sample

/-- The definite numbers without the integers beyond two to the 53. -/
def fineNumbers : Set Value :=
  {a | a.isDefinite = true ∧ ∀ m, a.integer? = some m → m.natAbs ≤ 2 ^ 53}

/-- Without the integers beyond two to the 53 all definite numbers are in one order. -/
theorem preordered_fineNumbers :
    (∀ a ∈ fineNumbers, ∀ b ∈ fineNumbers, ∀ c ∈ fineNumbers,
      AtMost a b → AtMost b c → AtMost a c) ∧
    (∀ u v w, MadeOf fineNumbers u → MadeOf fineNumbers v → MadeOf fineNumbers w →
      (u == v) = true → (v == w) = true → (u == w) = true) ∧
    ∀ items, (∀ a ∈ items, a ∈ fineNumbers) →
      ∃ sorted, sort (.array items) = .ok (.array sorted) ∧ sorted.Perm items ∧
        sorted.Pairwise AtMost := by
  -- Integers of this size are sharp, so that all laws of the order hold at once.
  have sharp : Sharp fineNumbers := sharp_of_natAbs_le fun a member => member.2
  obtain ⟨-, -, -, -, sorts, atMost, -, equality, ascending⟩ :=
    preordered_iff_sharp fineNumbers fun a member => member.1
  refine ⟨atMost.1 sharp, equality.1 sharp, fun items inside => ?_⟩
  obtain ⟨sorted, given, perm⟩ := sorts items fun a member => (inside a member).1
  exact ⟨sorted, given, perm, ascending.1 sharp items sorted inside given⟩

/-- Two to the 53 and one as an integer, two to the 53 as a floating-point number, and the same as
an integer. -/
def blurred : List Value :=
  [.int 9007199254740993, .float ⟨0x4340000000000000⟩, .int 9007199254740992]

/-- Not all definite numbers are in one order, and they are not sorted into one: the first of three
equals the second one and this the third one, but the first one is greater than the third. -/
theorem not_preordered :
    ¬((∀ a b c : Value, a.isDefinite = true → b.isDefinite = true → c.isDefinite = true →
        AtMost a b → AtMost b c → AtMost a c) ∨
      (∀ a b c : Value, a.isDefinite = true → b.isDefinite = true → c.isDefinite = true →
        (a == b) = true → (b == c) = true → (a == c) = true) ∨
      ∀ items sorted, (∀ a ∈ items, a.isDefinite = true) →
        sort (.array items) = .ok (.array sorted) → sorted.Pairwise AtMost) := by
  -- Both integers round to the float between them, but the first one is greater.
  have left : compareNumbers (.int 9007199254740993) (.float ⟨0x4340000000000000⟩) = some .eq := rfl
  have right : compareNumbers (.float ⟨0x4340000000000000⟩) (.int 9007199254740992) = some .eq :=
    rfl
  have outer : ¬AtMost (.int 9007199254740993) (.int 9007199254740992) := by
    rintro (less | equal)
    · cases less
    · cases equal
  rintro (atMost | equal | sorted)
  · exact outer (atMost _ _ _ rfl rfl rfl (.inr left) (.inr right))
  · cases equal (.int 9007199254740993) (.float ⟨0x4340000000000000⟩) (.int 9007199254740992) rfl
      rfl rfl rfl rfl
  · have order := sorted blurred blurred (by decide) (sort_of_tied rfl rfl)
    exact outer (List.rel_of_pairwise_cons order (by simp))

end Sample

end Reshape.Collection
