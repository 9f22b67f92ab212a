import Mathlib.Data.Set.Basic
import Reshape.Proofs.Number.Order
import Reshape.Proofs.Value.Fields
import Reshape.Value.Order

/-!
The order of values. Numbers are compared exactly if both are integers, and rounded to
floating-point numbers otherwise, so that three comparisons of three numbers may follow two rules.
Every two numbers have an order, which turned round is that of the numbers exchanged; but a
floating-point number that two different integers are rounded to equals both of them, and only among
numbers without such a one does the order go on from one to the next.
-/

namespace Reshape.Value

/-- The integer that a value of either kind of integers is. -/
def integer? : Value → Option Int
  | .int value => some value.toInt
  | .uint value => some value.toNat
  | _ => none

/-- Whether a value is a number other than the floating-point ones that are none. -/
def isDefinite : Value → Bool
  | .int _ | .uint _ => true
  | .float x => !x.isNan
  | _ => false

/-- The place of a number among the floating-point numbers, rounded if it has to be. -/
def level : Value → Int
  | .int value => (Binary64.ofInt value.toInt).place
  | .uint value => (Binary64.ofInt value.toNat).place
  | .float x => x.place
  | _ => 0

/-- A number comes before another one: as an integer before an integer, and otherwise in its
place. -/
def Before (a b : Value) : Prop :=
  match a.integer?, b.integer? with
  | some m, some n => m < n
  | _, _ => a.level < b.level

section Numbers

variable {a b c : Value} {m n : Int}

/-- An integer is a definite number in the place of what it is rounded to. -/
theorem level_of_integer? (known : a.integer? = some m) :
    a.isDefinite = true ∧ a.level = (Binary64.ofInt m).place := by
  cases a with
  | int value | uint value =>
    obtain rfl := Option.some.inj known
    exact ⟨rfl, rfl⟩
  | _ => cases known

/-- A definite number that is no integer is a floating-point number. -/
theorem eq_float_of_integer? (definite : a.isDefinite = true) (other : a.integer? = none) :
    ∃ x : Binary64, a = .float x ∧ x.isNan = false ∧ a.level = x.place := by
  cases a with
  | float x => exact ⟨x, rfl, by simpa [isDefinite] using definite, rfl⟩
  | int value | uint value => cases other
  | _ => cases definite

/-- Of two integers the greater one is rounded to no lesser number. -/
theorem level_mono (known : a.integer? = some m) (known' : b.integer? = some n) (le : m ≤ n) :
    a.level ≤ b.level := by
  rw [(level_of_integer? known).2, (level_of_integer? known').2]
  exact Binary64.place_ofInt_mono le

/-- Integers come before each other as they are. -/
theorem before_of_integers (known : a.integer? = some m) (known' : b.integer? = some n) :
    Before a b ↔ m < n := by
  simp only [Before, known, known']

/-- Values that are not both integers come before each other in their places. -/
theorem before_of_levels (other : a.integer? = none ∨ b.integer? = none) :
    Before a b ↔ a.level < b.level := by
  unfold Before
  rcases other with other | other
  · simp only [other]
  · cases a.integer? <;> simp only [other]

/-- Two integers compare exactly. -/
theorem compareNumbers_of_integers (known : a.integer? = some m) (known' : b.integer? = some n) :
    compareNumbers a b = some (compare m n) := by
  -- Only integers of the two kinds are integers, and both kinds compare by their values.
  cases a with
  | int value | uint value =>
    cases b with
    | int value' | uint value' =>
      obtain rfl := Option.some.inj known
      obtain rfl := Option.some.inj known'
      exact congrArg some (compare_congr (by simp) (by simp))
    | _ => cases known'
  | _ => cases known

/-- Two definite numbers that are not both integers compare as their places do. -/
theorem compareNumbers_of_levels (definite : a.isDefinite = true) (definite' : b.isDefinite = true)
    (other : a.integer? = none ∨ b.integer? = none) :
    compareNumbers a b = some (compare a.level b.level) := by
  -- An integer is rounded before it is compared with a floating-point number.
  have rounded (n : Int) : (Binary64.ofInt n).isNan = false := Binary64.isNan_ofInt n
  rcases other with other | other
  · obtain ⟨x, rfl, number, -⟩ := eq_float_of_integer? definite other
    cases b with
    | int value | uint value => exact Binary64.compare_eq number (rounded _)
    | float y => exact Binary64.compare_eq number (by simpa [isDefinite] using definite')
    | _ => cases definite'
  · obtain ⟨y, rfl, number, -⟩ := eq_float_of_integer? definite' other
    cases a with
    | int value | uint value => exact Binary64.compare_eq (rounded _) number
    | float x => exact Binary64.compare_eq (by simpa [isDefinite] using definite) number
    | _ => cases definite

/-- Of two definite numbers one comes before the other one, or they are equal, and that is how they
compare. -/
theorem compareNumbers_cases (definite : a.isDefinite = true) (definite' : b.isDefinite = true) :
    (Before a b ∧ ¬Before b a ∧ compareNumbers a b = some .lt) ∨
    (¬Before a b ∧ Before b a ∧ compareNumbers a b = some .gt) ∨
    (¬Before a b ∧ ¬Before b a ∧ compareNumbers a b = some .eq) := by
  -- By either rule it is integers that are compared.
  obtain ⟨x, y, before, after, rule⟩ : ∃ x y : Int, (Before a b ↔ x < y) ∧ (Before b a ↔ y < x) ∧
      compareNumbers a b = some (compare x y) := by
    by_cases other : a.integer? = none ∨ b.integer? = none
    · exact ⟨_, _, before_of_levels other, before_of_levels other.symm,
        compareNumbers_of_levels definite definite' other⟩
    · rw [not_or] at other
      obtain ⟨m, known⟩ := Option.ne_none_iff_exists'.1 other.1
      obtain ⟨n, known'⟩ := Option.ne_none_iff_exists'.1 other.2
      exact ⟨m, n, before_of_integers known known', before_of_integers known' known,
        compareNumbers_of_integers known known'⟩
  rw [rule, before, after, Option.some_inj, Option.some_inj, Option.some_inj, compare_lt_iff_lt,
    compare_gt_iff_gt, compare_eq_iff_eq]
  omega

/-- Two values are compared as numbers just if both are definite. -/
theorem isSome_compareNumbers :
    (compareNumbers a b).isSome = true ↔ a.isDefinite = true ∧ b.isDefinite = true := by
  constructor
  · intro compared
    -- If one of them is not definite, it is no number, or a float that is none.
    by_contra other
    have unordered : compareNumbers a b = none := by
      cases a with
      | float x =>
        cases b with
        | float y =>
          refine Binary64.compare_eq_none.2 ?_
          simp only [isDefinite] at other
          grind
        | int value | uint value =>
          refine Binary64.compare_eq_none.2 (.inl ?_)
          simpa [isDefinite] using other
        | _ => rfl
      | int value | uint value =>
        cases b with
        | float y =>
          refine Binary64.compare_eq_none.2 (.inr ?_)
          simpa [isDefinite] using other
        | int value' | uint value' => exact absurd ⟨rfl, rfl⟩ other
        | _ => rfl
      | _ => cases b <;> rfl
    rw [unordered] at compared
    cases compared
  · rintro ⟨definite, definite'⟩
    rcases compareNumbers_cases definite definite' with
      ⟨_, _, order⟩ | ⟨_, _, order⟩ | ⟨_, _, order⟩ <;>
    rw [order] <;> rfl

/-- The order of two values exchanged is their order turned round. -/
theorem compareNumbers_swap (a b : Value) :
    compareNumbers b a = (compareNumbers a b).map Ordering.swap := by
  by_cases both : a.isDefinite = true ∧ b.isDefinite = true
  · -- The two comparisons speak of the same two numbers.
    rcases compareNumbers_cases both.1 both.2 with
      ⟨before, after, order⟩ | ⟨before, after, order⟩ | ⟨before, after, order⟩ <;>
    rcases compareNumbers_cases both.2 both.1 with
      ⟨after', before', order'⟩ | ⟨after', before', order'⟩ | ⟨after', before', order'⟩ <;>
    first
    | contradiction
    | (rw [order, order']; rfl)
  · have unordered : compareNumbers a b = none := by
      rwa [← Option.not_isSome_iff_eq_none, isSome_compareNumbers]
    have unordered' : compareNumbers b a = none := by
      rwa [← Option.not_isSome_iff_eq_none, isSome_compareNumbers, and_comm]
    rw [unordered, unordered']
    rfl

end Numbers

/-- A number is less than another one or equals it. -/
def AtMost (a b : Value) : Prop :=
  compareNumbers a b = some .lt ∨ compareNumbers a b = some .eq

/-- No floating-point number among some numbers is what two integers among them are rounded to. -/
def Sharp (numbers : Set Value) : Prop :=
  ∀ a ∈ numbers, ∀ b ∈ numbers, ∀ m n, a.integer? = some m → b.integer? = some n →
    .float (.ofInt m) ∈ numbers → Binary64.ofInt m = .ofInt n → m = n

section Laws

variable {a b c : Value} {m n : Int} {numbers : Set Value}

/-- A number is at most another one just if that does not come before it. -/
theorem atMost_iff (definite : a.isDefinite = true) (definite' : b.isDefinite = true) :
    AtMost a b ↔ ¬Before b a := by
  unfold AtMost
  rcases compareNumbers_cases definite definite' with
    ⟨_, after, order⟩ | ⟨_, after, order⟩ | ⟨_, after, order⟩ <;> simp [order, after]

/-- A number compares as less than another one just if it comes before it. -/
theorem compareNumbers_eq_lt (definite : a.isDefinite = true) (definite' : b.isDefinite = true) :
    compareNumbers a b = some .lt ↔ Before a b := by
  rcases compareNumbers_cases definite definite' with
    ⟨before, _, order⟩ | ⟨before, _, order⟩ | ⟨before, _, order⟩ <;> simp [order, before]

/-- Two numbers are equal just if each is at most the other one. -/
theorem compareNumbers_eq_eq (definite : a.isDefinite = true) (definite' : b.isDefinite = true) :
    compareNumbers a b = some .eq ↔ AtMost a b ∧ AtMost b a := by
  rw [atMost_iff definite definite', atMost_iff definite' definite]
  rcases compareNumbers_cases definite definite' with
    ⟨before, after, order⟩ | ⟨before, after, order⟩ | ⟨before, after, order⟩ <;>
    simp [order, before, after]

/-- What comes before a number in its place comes before it by either rule. -/
theorem before_of_level_lt (lt : a.level < b.level) : Before a b := by
  -- Two integers are in order if their places are, as rounding keeps the order.
  cases known : a.integer? with
  | none => exact (before_of_levels (.inl known)).2 lt
  | some m =>
    cases known' : b.integer? with
    | none => exact (before_of_levels (.inr known')).2 lt
    | some n =>
      refine (before_of_integers known known').2 ?_
      by_contra other
      exact absurd lt (level_mono known' known (not_lt.1 other)).not_gt

/-- What comes before a number by either rule has no later place. -/
theorem Before.level_le (before : Before a b) : a.level ≤ b.level := by
  -- Rounding keeps the order, so that what comes before cannot have the later place.
  by_contra later
  cases known : a.integer? with
  | none => exact later ((before_of_levels (.inl known)).1 before).le
  | some m =>
    cases known' : b.integer? with
    | none => exact later ((before_of_levels (.inr known')).1 before).le
    | some n =>
      exact later (level_mono known known' ((before_of_integers known known').1 before).le)

/-- To come before another number goes on from one to the next. -/
theorem Before.trans (first : Before a b) (second : Before b c) : Before a c := by
  rcases (first.level_le.trans second.level_le).lt_or_eq with lt | same
  · exact before_of_level_lt lt
  -- In one place only integers come before each other.
  have low := first.level_le
  have high := second.level_le
  have integers {v w : Value} (before : Before v w) (level : v.level = w.level) :
      ∃ m n, v.integer? = some m ∧ w.integer? = some n ∧ m < n := by
    cases known : v.integer? with
    | none => exact absurd ((before_of_levels (.inl known)).1 before) (by omega)
    | some m =>
      cases known' : w.integer? with
      | none => exact absurd ((before_of_levels (.inr known')).1 before) (by omega)
      | some n => exact ⟨m, n, rfl, rfl, (before_of_integers known known').1 before⟩
  obtain ⟨m, n, known, middle, less⟩ := integers first (by omega)
  obtain ⟨n', k, middle', known', less'⟩ := integers second (by omega)
  obtain rfl : n = n' := Option.some.inj (middle.symm.trans middle')
  exact (before_of_integers known known').2 (less.trans less')

/-- An integer in the place of a floating-point number other than zero is rounded to that. -/
theorem ofInt_eq_of_level {x : Binary64} (known : a.integer? = some m) (same : a.level = x.place)
    (nonzero : a.level ≠ 0) : Binary64.ofInt m = x := by
  rw [(level_of_integer? known).2] at same nonzero
  exact Binary64.eq_of_place same nonzero

/-- Two different integers in one place are not rounded to zero. -/
theorem level_ne_zero (known : a.integer? = some m) (known' : b.integer? = some n)
    (different : m ≠ n) (same : a.level = b.level) : a.level ≠ 0 := by
  rw [(level_of_integer? known).2, (level_of_integer? known').2] at same
  rw [(level_of_integer? known).2]
  intro zero
  -- On level zero both would be zero, and so the same.
  have first : m = 0 := by_contra fun other => Binary64.place_ofInt_ne_zero other zero
  have second : n = 0 := by_contra fun other => Binary64.place_ofInt_ne_zero other (by omega)
  omega

/-- Among sharp numbers the order goes on from one to the next. -/
theorem Sharp.atMost_trans (sharp : Sharp numbers) (definite : ∀ a ∈ numbers, a.isDefinite = true)
    (first : a ∈ numbers) (second : b ∈ numbers) (third : c ∈ numbers) (low : AtMost a b)
    (high : AtMost b c) : AtMost a c := by
  rw [atMost_iff (definite a first) (definite b second)] at low
  rw [atMost_iff (definite b second) (definite c third)] at high
  rw [atMost_iff (definite a first) (definite c third)]
  intro back
  have lower : a.level ≤ b.level := not_lt.1 fun lt => low (before_of_level_lt lt)
  have upper : b.level ≤ c.level := not_lt.1 fun lt => high (before_of_level_lt lt)
  have around := back.level_le
  -- All three are in one place, so that the outer ones are different integers.
  cases known : c.integer? with
  | none => exact absurd ((before_of_levels (.inl known)).1 back) (by omega)
  | some n =>
    cases known' : a.integer? with
    | none => exact absurd ((before_of_levels (.inr known')).1 back) (by omega)
    | some m =>
      have less := (before_of_integers known known').1 back
      cases middle : b.integer? with
      | some k =>
        rw [before_of_integers middle known'] at low
        rw [before_of_integers known middle] at high
        omega
      | none =>
        -- The one in the middle is what both are rounded to.
        obtain ⟨x, rfl, -, place⟩ := eq_float_of_integer? (definite b second) middle
        have nonzero := level_ne_zero known' known less.ne' (by omega)
        have rounded : Binary64.ofInt m = x := ofInt_eq_of_level known' (by omega) nonzero
        have rounded' : Binary64.ofInt n = x := ofInt_eq_of_level known (by omega) (by omega)
        have equal := sharp a first c third m n known' known (rounded ▸ second)
          (rounded.trans rounded'.symm)
        omega

/-- A floating-point number that two integers are rounded to equals both. -/
theorem compareNumbers_ofInt (known : a.integer? = some m) (same : Binary64.ofInt m = .ofInt n) :
    compareNumbers a (.float (.ofInt n)) = some .eq := by
  have number : (Binary64.ofInt n).isNan = false := Binary64.isNan_ofInt n
  rw [compareNumbers_of_levels (level_of_integer? known).1 (by simpa [isDefinite] using number)
    (.inr rfl), (level_of_integer? known).2, same]
  exact congrArg some (compare_eq_iff_eq.2 rfl)

/-- Numbers whose integers are at most two to the 53 on either side of zero are sharp. -/
theorem sharp_of_natAbs_le
    (small : ∀ a ∈ numbers, ∀ m, a.integer? = some m → m.natAbs ≤ 2 ^ 53) : Sharp numbers :=
  fun a first b second m n known known' _ same =>
    Binary64.ofInt_injective (small a first m known) (small b second n known') same

end Laws

/-- The kinds of values that have an order among themselves. -/
inductive OrderKind where
  /-- The definite numbers. -/
  | number
  | string
  | bytes
  deriving DecidableEq, Repr

/-- The kind of a value that has an order. -/
def orderKind? (value : Value) : Option OrderKind :=
  match value with
  | .string _ => some .string
  | .bytes _ => some .bytes
  | value => if value.isDefinite then some .number else none

/-- Two values have an order just if they are of one kind. -/
theorem isSome_compare? {a b : Value} :
    (a.compare? b).isSome = true ↔
      ∃ kind, a.orderKind? = some kind ∧ b.orderKind? = some kind := by
  have numbers (other : a.orderKind? = if a.isDefinite then some .number else none)
      (other' : b.orderKind? = if b.isDefinite then some .number else none) :
      (compareNumbers a b).isSome = true ↔
        ∃ kind, a.orderKind? = some kind ∧ b.orderKind? = some kind := by
    rw [isSome_compareNumbers, other, other']
    cases a.isDefinite <;> cases b.isDefinite <;> simp
  -- Texts and octets have an order with their own kind only.
  cases a with
  | string text =>
    cases b <;> simp [compare?, orderKind?, compareNumbers, toFloat?]
  | bytes octets =>
    cases b <;> simp [compare?, orderKind?, compareNumbers, toFloat?]
  | _ =>
    cases b with
    | string text => simp [compare?, orderKind?, compareNumbers, toFloat?]
    | bytes octets => simp [compare?, orderKind?, compareNumbers, toFloat?]
    | _ => exact numbers rfl rfl

/-- Definite numbers are ordered as numbers. -/
theorem compare?_of_isDefinite {a : Value} (definite : a.isDefinite = true) (b : Value) :
    a.compare? b = compareNumbers a b := by
  cases a with
  | int value | uint value | float x => cases b <;> rfl
  | _ => cases definite

end Reshape.Value
