import Mathlib.Algebra.Order.Ring.Nat
import Mathlib.Data.List.Flatten
import Reshape.Eval.Memory
import Reshape.Proofs.Value.Fields

/-!
Named counters under concurrent callers. A caller counts in one step where it finds the counter, and
in two where it does not: the lookup that fails, and later the step that puts the counter in, if it
still is missing, and counts. However the steps of the callers interleave, the values given under a
name are one, two, three and so on, each given once.
-/

namespace Reshape

namespace Shared

/-- Adds one to a counter that is there; the new value, and what is shared after it. -/
def countFound? (shared : Shared) (name : String) : Option (Int64 × Shared) :=
  (shared.counters.get? name).map fun value =>
    (value + 1, { shared with counters := shared.counters.insert name (value + 1) })

/-- Counting with a counter that is there is counting. -/
theorem countFound?_eq {shared : Shared} {name : String} {counted : Int64 × Shared}
    (found : shared.countFound? name = some counted) : counted = shared.count name := by
  obtain ⟨value, stands, rfl⟩ := Option.map_eq_some_iff.1 found
  simp [count, stands]

end Shared

/-- A caller of named counters. -/
structure Caller where
  /-- The names that are still to be counted under. -/
  todo : List String
  /-- The counter of the first of them has been looked up and was not there. -/
  missed : Bool
  deriving DecidableEq

/-- The most steps that a caller may need until nothing is left to it. -/
def Caller.distance (caller : Caller) : Nat :=
  2 * caller.todo.length - caller.missed.toNat

/-- Callers of the same named counters. -/
structure Crowd where
  shared : Shared
  callers : List Caller
  /-- The values given so far, in order, each with its caller and its name. -/
  given : List (Nat × String × Int64)

namespace Crowd

/-- Callers with names to count under, before any of them has done so. -/
def start (shared : Shared) (programs : List (List String)) : Crowd :=
  ⟨shared, programs.map (⟨·, false⟩), []⟩

/-- The crowd after a caller has been given a value, with the names it is left with. -/
def giving (crowd : Crowd) (index : Nat) (name : String) (rest : List String)
    (counted : Int64 × Shared) : Crowd :=
  ⟨counted.2, crowd.callers.set index ⟨rest, false⟩, crowd.given ++ [(index, name, counted.1)]⟩

/-- The crowd after one step of a caller, if it has anything left to do. -/
def turn (crowd : Crowd) (index : Nat) : Crowd :=
  match crowd.callers[index]? with
  | some ⟨name :: rest, false⟩ =>
    match crowd.shared.countFound? name with
    | some counted => crowd.giving index name rest counted
    | none => { crowd with callers := crowd.callers.set index ⟨name :: rest, true⟩ }
  | some ⟨name :: rest, true⟩ => crowd.giving index name rest (crowd.shared.count name)
  | _ => crowd

/-- The crowd after steps of its callers. -/
def turns (crowd : Crowd) (schedule : List Nat) : Crowd :=
  schedule.foldl turn crowd

/-- The values given under a name, in order. -/
def values (crowd : Crowd) (name : String) : List Int64 :=
  (crowd.given.filter (·.2.1 = name)).map (·.2.2)

/-- The names that a caller has been given values under, in order. -/
def served (crowd : Crowd) (index : Nat) : List String :=
  (crowd.given.filter (·.1 = index)).map (·.2.1)

/-- The names that a caller is still to count under. -/
def awaited (crowd : Crowd) (index : Nat) : List String :=
  (crowd.callers.map Caller.todo)[index]?.getD []

/-- The names that are still to be counted under. -/
def left (crowd : Crowd) : List String :=
  (crowd.callers.map Caller.todo).flatten

section Steps

variable (crowd : Crowd) (index : Nat)

/-- A step gives a value and counts, or changes nothing but that a caller has missed the counter
that it has looked up. -/
theorem turn_cases :
    (∃ name rest missed, crowd.callers[index]? = some ⟨name :: rest, missed⟩ ∧
      crowd.turn index = crowd.giving index name rest (crowd.shared.count name)) ∨
    (∃ callers, crowd.turn index = { crowd with callers } ∧
      callers.map Caller.todo = crowd.callers.map Caller.todo) := by
  unfold turn
  split
  next name rest stands =>
    split
    next counted found =>
      exact .inl ⟨name, rest, false, stands, by rw [Shared.countFound?_eq found]⟩
    next =>
      obtain ⟨within, same⟩ := List.getElem?_eq_some_iff.1 stands
      refine .inr ⟨_, rfl, ?_⟩
      -- What is put into the list of names is what stands there already.
      have inside : index < (crowd.callers.map Caller.todo).length := by simpa using within
      have kept : (crowd.callers.map Caller.todo)[index] = name :: rest := by simp [same]
      rw [List.map_set, ← kept, List.set_getElem_self]
  next name rest stands => exact .inl ⟨name, rest, true, stands, rfl⟩
  next => exact .inr ⟨_, rfl, rfl⟩

variable {crowd index} {name : String} {rest : List String} {counted : Int64 × Shared}

/-- A value that is given is the last one of its name. -/
theorem values_giving_self :
    (crowd.giving index name rest counted).values name = crowd.values name ++ [counted.1] := by
  simp [giving, values]

/-- A value that is given changes nothing under other names. -/
theorem values_giving_of_ne {other : String} (different : name ≠ other) :
    (crowd.giving index name rest counted).values other = crowd.values other := by
  simp [giving, values, different]

end Steps

/-- The first values that a counter gives. -/
def ordinals (total : Nat) : List Int64 :=
  (List.range' 1 total).map .ofNat

/-- One more ordinal comes behind the others. -/
theorem ordinals_succ (total : Nat) :
    ordinals (total + 1) = ordinals total ++ [.ofNat (total + 1)] := by
  rw [ordinals, List.range'_concat, List.map_append, List.map_singleton, Nat.one_mul, Nat.add_comm,
    ordinals]

/-- What is kept for a counter that has given so many values. -/
def kept? (total : Nat) : Option Int64 :=
  if total = 0 then none else some (.ofNat total)

/-- Under each name the values are the first ones in order, and what is kept is the last of them. -/
def Numbered (crowd : Crowd) : Prop :=
  ∀ name, crowd.values name = ordinals (crowd.values name).length ∧
    crowd.shared.counters.get? name = kept? (crowd.values name).length

/-- Counting under a name whose counter has given so many values gives the next one. -/
theorem count_of_kept {shared : Shared} {name : String} {total : Nat}
    (keeps : shared.counters.get? name = kept? total) :
    (shared.count name).1 = .ofNat (total + 1) ∧
      (shared.count name).2.counters.get? name = kept? (total + 1) := by
  cases total with
  | zero => simp [Shared.count, keeps, kept?]
  | succ before => simp [Shared.count, keeps, kept?]

/-- Counting under a name leaves the counters of all others as they are. -/
theorem get?_count_of_ne {name other : String} (shared : Shared) (different : name ≠ other) :
    (shared.count name).2.counters.get? other = shared.counters.get? other :=
  Fields.get?_insert_of_ne different.symm ..

/-- A step of any caller keeps the values numbered. -/
theorem Numbered.turn {crowd : Crowd} (numbered : crowd.Numbered) (index : Nat) :
    (crowd.turn index).Numbered := by
  -- A turn gives a value under one name, or it changes nothing that is given or kept.
  obtain ⟨name, rest, missed, -, step⟩ | ⟨callers, step, -⟩ := turn_cases crowd index
  · rw [step]
    intro other
    by_cases same : name = other
    · subst same
      obtain ⟨first, keeps⟩ := count_of_kept (numbered name).2
      rw [values_giving_self, List.length_append, List.length_singleton, ordinals_succ, first,
        ← (numbered name).1]
      exact ⟨rfl, keeps⟩
    · rw [values_giving_of_ne same]
      exact ⟨(numbered other).1, (get?_count_of_ne _ same).trans (numbered other).2⟩
  · rw [step]
    exact numbered

/-- A step counts only under the name that its caller is to count under next. -/
theorem turn_of_head?_ne {crowd : Crowd} {index : Nat} {name : String}
    (different : (crowd.awaited index).head? ≠ some name) :
    (crowd.turn index).values name = crowd.values name ∧
      (crowd.turn index).shared.counters.get? name = crowd.shared.counters.get? name := by
  -- The turn counts under another name, or none at all.
  obtain ⟨other, rest, missed, stands, step⟩ | ⟨callers, step, -⟩ := turn_cases crowd index
  · have apart : other ≠ name := by simpa [awaited, stands] using different
    rw [step, values_giving_of_ne apart]
    exact ⟨rfl, get?_count_of_ne _ apart⟩
  · rw [step]
    exact ⟨rfl, rfl⟩

/-- What a caller has been served with and what it awaits stay what they are together. -/
theorem served_awaited_turn (crowd : Crowd) (index other : Nat) :
    (crowd.turn index).served other ++ (crowd.turn index).awaited other =
      crowd.served other ++ crowd.awaited other := by
  -- A value that is given moves its name from what is awaited to what is served.
  obtain ⟨name, rest, missed, stands, step⟩ | ⟨callers, step, same⟩ := turn_cases crowd index
  · obtain ⟨within, here⟩ := List.getElem?_eq_some_iff.1 stands
    rw [step]
    by_cases its : index = other
    · subst its
      simp [giving, served, awaited, here, within]
    · simp [giving, served, awaited, its]
  · rw [step]
    simp only [served, awaited, same]

/-- What has been given under a name and what is left of it stay as many together. -/
theorem length_values_turn (crowd : Crowd) (index : Nat) (name : String) :
    ((crowd.turn index).values name).length + (crowd.turn index).left.count name =
      (crowd.values name).length + crowd.left.count name := by
  -- A value that is given under a name is one fewer that is left of it.
  obtain ⟨other, rest, missed, stands, step⟩ | ⟨callers, step, same⟩ := turn_cases crowd index
  · obtain ⟨within, here⟩ := List.getElem?_eq_some_iff.1 stands
    obtain ⟨front, back, whole, -, after⟩ := @List.exists_of_set _ _ ⟨rest, false⟩ _ within
    have fewer : crowd.left.count name =
        (crowd.giving index other rest (crowd.shared.count other)).left.count name +
          [other].count name := by
      simp only [left, giving, after]
      rw [whole, here]
      simp only [List.map_append, List.map_cons, List.flatten_append, List.flatten_cons,
        List.count_append, List.count_cons, List.count_nil]
      omega
    rw [step, fewer]
    by_cases apart : other = name
    · subst apart
      rw [values_giving_self]
      simp
      omega
    · rw [values_giving_of_ne apart]
      simp [apart]
  · rw [step]
    simp only [left, values, same]

/-- Callers are closer to the end together where one of them is. -/
theorem distance_set_lt {callers : List Caller} {index : Nat} {before after : Caller}
    (stands : callers[index]? = some before) (closer : after.distance < before.distance) :
    ((callers.set index after).map Caller.distance).sum < (callers.map Caller.distance).sum := by
  -- Only one caller is replaced, and its distance gets smaller.
  obtain ⟨within, here⟩ := List.getElem?_eq_some_iff.1 stands
  obtain ⟨front, back, whole, -, changed⟩ := @List.exists_of_set _ _ after _ within
  rw [changed]
  rw [whole, here]
  simp only [List.map_append, List.map_cons, List.sum_append, List.sum_cons]
  omega

/-- A step of a caller with something left to do gets closer to the end. -/
theorem distance_turn_lt {crowd : Crowd} {index : Nat} (busy : crowd.awaited index ≠ []) :
    ((crowd.turn index).callers.map Caller.distance).sum <
      (crowd.callers.map Caller.distance).sum := by
  unfold turn
  split
  next name rest stands =>
    split
    next => exact distance_set_lt stands (by simp [Caller.distance])
    next =>
      refine distance_set_lt stands ?_
      simp only [Caller.distance, List.length_cons, Bool.toNat_true, Bool.toNat_false]
      omega
  next name rest stands =>
    refine distance_set_lt stands ?_
    simp only [Caller.distance, List.length_cons, Bool.toNat_true, Bool.toNat_false]
    omega
  next other unmissed =>
    -- Only a caller without anything left to do makes no step.
    refine absurd ?_ busy
    cases stands : crowd.callers[index]? with
    | none => simp [awaited, stands]
    | some caller =>
      obtain ⟨_ | ⟨name, rest⟩, _ | _⟩ := caller
      all_goals simp_all [awaited]

/-- Something is left for the crowd only where it is left for one of its callers. -/
theorem exists_awaited {crowd : Crowd} (unfinished : crowd.left ≠ []) :
    ∃ index, crowd.awaited index ≠ [] := by
  obtain ⟨names, among, some_left⟩ := List.flatten_ne_nil_iff.1 unfinished
  obtain ⟨index, stands⟩ := List.mem_iff_getElem?.1 among
  exact ⟨index, by simpa [awaited, stands] using some_left⟩

/-- Whatever has happened, no caller keeps another one from getting to its end. -/
theorem exists_left_turns (crowd : Crowd) : ∃ schedule, (crowd.turns schedule).left = [] := by
  -- Whoever has something left comes closer to its end with a turn, so the distances shrink.
  induction distance : (crowd.callers.map Caller.distance).sum using Nat.strongRecOn
    generalizing crowd with
  | _ distance closer =>
    by_cases done : crowd.left = []
    · exact ⟨[], done⟩
    · obtain ⟨index, busy⟩ := exists_awaited done
      obtain ⟨schedule, finished⟩ := closer _ (distance ▸ distance_turn_lt busy) _ rfl
      exact ⟨index :: schedule, finished⟩

/-- What every step preserves is preserved by all of them. -/
theorem turns_induction (holds : Crowd → Prop) {crowd : Crowd} (first : holds crowd)
    (turn : ∀ crowd index, holds crowd → holds (crowd.turn index)) (schedule : List Nat) :
    holds (crowd.turns schedule) := by
  induction schedule generalizing crowd with
  | nil => exact first
  | cons index rest ih => exact ih (turn crowd index first)

section Start

variable (seed : UInt64) (programs : List (List String))

/-- At the start no values have been given. -/
theorem numbered_start : (start (.seeded seed) programs).Numbered := by
  intro name
  simp [start, values, ordinals, kept?, Shared.seeded, Fields.get?]

/-- At the start every caller has its whole program to do. -/
@[simp] theorem map_todo_start :
    (start (.seeded seed) programs).callers.map Caller.todo = programs := by
  simp [start, Function.comp_def]

/-- Named counters lose and duplicate nothing. However the steps of callers interleave, the values
given under a name are one, two, three and so on, and what is kept is the last of them; there is one
for each time that the name is counted under, and each caller is served in its order. A step counts
under no name but the next one of its caller, and all callers can get to their ends. -/
theorem numbers (schedule : List Nat) (name : String)
    (fits : programs.flatten.count name < 2 ^ 63) :
    let crowd := (start (.seeded seed) programs).turns schedule
    let total := (crowd.values name).length
    (crowd.values name).map Int64.toInt = (List.range' 1 total).map Nat.cast ∧
      (crowd.shared.counters.get? name).map Int64.toInt =
        (if total = 0 then none else some (total : Int)) ∧
      total + crowd.left.count name = programs.flatten.count name ∧
      (∀ index, crowd.served index ++ crowd.awaited index = programs[index]?.getD []) ∧
      (∀ index, (crowd.awaited index).head? ≠ some name →
        (crowd.turn index).values name = crowd.values name ∧
          (crowd.turn index).shared.counters.get? name = crowd.shared.counters.get? name) ∧
      ∃ more, (crowd.turns more).left = [] := by
  intro crowd total
  -- Each part is kept by every turn, and so by the schedule.
  obtain ⟨first, keeps⟩ : crowd.values name = ordinals total ∧
      crowd.shared.counters.get? name = kept? total :=
    turns_induction Numbered (numbered_start seed programs) (fun _ index held => held.turn index)
      schedule name
  have conserved : total + crowd.left.count name = programs.flatten.count name :=
    turns_induction
      (fun crowd =>
        (crowd.values name).length + crowd.left.count name = programs.flatten.count name)
      (by simp [left]; rfl)
      (fun crowd index held => (length_values_turn crowd index name).trans held) schedule
  have served (index : Nat) :
      crowd.served index ++ crowd.awaited index = programs[index]?.getD [] :=
    turns_induction
      (fun crowd =>
        crowd.served index ++ crowd.awaited index = programs[index]?.getD [])
      (by simp [awaited]; rfl)
      (fun crowd turned held => (served_awaited_turn crowd turned index).trans held) schedule
  refine ⟨?_, ?_, conserved, served, fun index => turn_of_head?_ne, exists_left_turns crowd⟩
  · rw [first, ordinals, List.map_map]
    refine List.map_congr_left fun value among => ?_
    have upTo := (List.mem_range'_1.1 among).2
    exact Int64.toInt_ofNat_of_lt (by omega)
  · rw [keeps, kept?]
    split
    · rfl
    · rw [Option.map_some, Int64.toInt_ofNat_of_lt (by omega)]

end Start

/-- Two callers that both miss the counter which they count under first are given different values. -/
theorem numbers_of_race :
    let crowd := (start (.seeded 0) [["hits"], ["hits", "other"]]).turns [0, 1, 1, 0, 1, 1]
    crowd.left = [] ∧ crowd.given = [(1, "hits", 1), (0, "hits", 2), (1, "other", 1)] ∧
      (crowd.shared.counters.get? "hits").map Int64.toInt = some 2 := by
  intro crowd
  -- The steps are run, and what is kept under the name follows by the theorem.
  have given : crowd.given = [(1, "hits", 1), (0, "hits", 2), (1, "other", 1)] := by decide +kernel
  have two : (crowd.values "hits").length = 2 := by rw [values, given]; decide
  obtain ⟨-, keeps, -⟩ :=
    numbers 0 [["hits"], ["hits", "other"]] [0, 1, 1, 0, 1, 1] "hits" (by decide)
  exact ⟨by decide +kernel, given, by rwa [two] at keeps⟩

end Crowd

end Reshape
