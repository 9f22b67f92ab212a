import Mathlib.Data.List.Forall2
import Mathlib.Data.List.Nodup
import Reshape.Proofs.Call.Argument

/-!
Which calls are bound. The arguments of a call have to be arranged: those without names first and no
more than there are parameters, and each name that of a parameter which has no argument yet. Then
every parameter has its argument, or none, whatever the order of the names, and the call is bound
just if each parameter permits what it has.
-/

namespace Reshape

variable {ε : Type}

namespace Argument

/-- The names of the arguments of a call. -/
def names (arguments : List (Argument ε)) : List String :=
  arguments.filterMap Argument.name

/-- The number of arguments without names. -/
def positions (arguments : List (Argument ε)) : Nat :=
  arguments.countP fun argument => argument.name.isNone

/-- The argument of a name. -/
def named? (arguments : List (Argument ε)) (name : String) : Option ε :=
  (arguments.find? fun argument => argument.name == some name).map Argument.expr

/-- The argument that a call gives for a parameter: the one at the position of the parameter if that
has no name, and otherwise the one with the name of the parameter. -/
def given? (arguments : List (Argument ε)) (index : Nat) (parameter : Parameter) : Option ε :=
  match arguments[index]? with
  | some ⟨none, expr⟩ => some expr
  | _ => named? arguments parameter.name

/-- An argument with a name adds its name. -/
@[simp]
theorem names_cons_some (name : String) (expr : ε) (rest : List (Argument ε)) :
    names (⟨some name, expr⟩ :: rest) = name :: names rest := rfl

/-- The first argument of a name is the one that is found. -/
@[simp]
theorem named?_cons_self (name : String) (expr : ε) (rest : List (Argument ε)) :
    named? (⟨some name, expr⟩ :: rest) name = some expr := by
  simp [named?]

/-- An argument of another name is passed over. -/
theorem named?_cons_of_ne {name other : String} (different : name ≠ other) (expr : ε)
    (rest : List (Argument ε)) :
    named? (⟨some name, expr⟩ :: rest) other = named? rest other := by
  simp [named?, different]

/-- An argument at a position. -/
def ofPosition (expr : ε) : Argument ε := ⟨none, expr⟩

end Argument

namespace Signature

open Argument

/-- The arguments of a call are arranged for parameters. -/
structure Arranges (parameters : List Parameter) (arguments : List (Argument ε)) : Prop where
  /-- No argument without a name follows one with a name. -/
  positionsFirst : arguments.Pairwise fun earlier later => later.name = none → earlier.name = none
  /-- There are no more arguments without names than parameters. -/
  enough : positions arguments ≤ parameters.length
  /-- A name is that of a parameter which has no argument by its position. -/
  declared : ∀ name ∈ names arguments, ∃ index parameter, parameters[index]? = some parameter ∧
    parameter.name = name ∧ positions arguments ≤ index
  /-- No parameter is named twice. -/
  once : (names arguments).Nodup

variable {parameters : List Parameter} {arguments named : List (Argument ε)} {given : Nat}
  {next : Option Nat} {placed result : List (Option ε)}

/-- Arguments without names come first just if the others are all that is behind them. -/
theorem positionsFirst_iff :
    (arguments.Pairwise fun earlier later => later.name = none → earlier.name = none) ↔
      ∃ (exprs : List ε) (named : List (Argument ε)),
        arguments = exprs.map ofPosition ++ named ∧
          ∀ argument ∈ named, argument.name ≠ none := by
  -- The list is cut before its first argument with a name.
  constructor
  · intro first
    induction first with
    | nil => exact ⟨[], [], rfl, by simp⟩
    | @cons argument rest later _ ih =>
      obtain ⟨_ | name, expr⟩ := argument
      · obtain ⟨exprs, named, rfl, all⟩ := ih
        exact ⟨expr :: exprs, named, rfl, all⟩
      · refine ⟨[], ⟨some name, expr⟩ :: rest, rfl, ?_⟩
        rw [List.forall_mem_cons]
        exact ⟨Option.some_ne_none name, fun argument among missing =>
          Option.some_ne_none name (later argument among missing)⟩
  · rintro ⟨exprs, named, rfl, all⟩
    rw [List.pairwise_append]
    refine ⟨?_, ?_, fun earlier _ later among none => absurd none (all later among)⟩
    · exact List.pairwise_map.2 (List.pairwise_of_forall fun _ _ _ => rfl)
    · exact List.pairwise_of_forall_mem_list fun _ _ later among none =>
        absurd none (all later among)

/-- Arguments that are placed have those without names first. -/
theorem positionsFirst_of_place (made : place parameters given next placed arguments = .ok result) :
    (arguments.Pairwise fun earlier later => later.name = none → earlier.name = none) ∧
      (next = none → ∀ argument ∈ arguments, argument.name ≠ none) := by
  -- Behind a name there is no next position, and then all arguments have names.
  induction arguments generalizing next placed with
  | nil => exact ⟨.nil, by simp⟩
  | cons argument rest ih =>
    obtain ⟨_ | name, expr⟩ := argument
    · cases next with
      | none => cases made
      | some next =>
        simp only [place] at made
        split at made
        · exact ⟨.cons (fun _ _ _ => rfl) (ih made).1, fun absent => by cases absent⟩
        · cases made
    · simp only [place] at made
      split at made
      · cases made
      · split at made
        · obtain ⟨first, named⟩ := ih made
          have all := named rfl
          exact ⟨.cons (fun later among none => absurd none (all later among)) first,
            fun _ => List.forall_mem_cons.2 ⟨Option.some_ne_none name, all⟩⟩
        · cases made

/-- Arguments without names are placed in their order, as long as there are parameters. -/
theorem place_positions (exprs front : List ε) (room : Nat) (named : List (Argument ε))
    (places : parameters.length = front.length + room) :
    place parameters given (some front.length) (front.map some ++ List.replicate room none)
        (exprs.map ofPosition ++ named) =
      if exprs.length ≤ room then
        place parameters given (some (front ++ exprs).length)
          ((front ++ exprs).map some ++ List.replicate (room - exprs.length) none) named
      else .error (.tooMany parameters.length given) := by
  -- Each argument goes from those to be placed to the end of the front, and takes up some room.
  induction exprs generalizing front room with
  | nil => simp
  | cons expr exprs ih =>
    cases room with
    | zero => simp [ofPosition, place, places]
    | succ room =>
      have filled :
          (front.map some ++ List.replicate (room + 1) none).set front.length (some expr) =
            (front ++ [expr]).map some ++ List.replicate room none := by
        simp [List.set_append_right, List.replicate_succ]
      have onward := ih (front ++ [expr]) room (by simp [places]; omega)
      rw [List.length_append, List.length_singleton] at onward
      rw [List.map_cons, List.cons_append, ofPosition, place, if_pos (by omega), filled, onward]
      simp

/-- What is placed, and for every other parameter the argument with its name. -/
def completed (parameters : List Parameter) (named : List (Argument ε))
    (placed : List (Option ε)) : List (Option ε) :=
  List.zipWith (fun (parameter : Parameter) (old : Option ε) =>
    old.or (named? named parameter.name)) parameters placed

/-- A name is that of a parameter for which nothing is placed. -/
def Free (parameters : List Parameter) (placed : List (Option ε)) (name : String) : Prop :=
  ∃ (index : Nat) (parameter : Parameter), parameters[index]? = some parameter ∧
    parameter.name = name ∧ placed[index]? = some none

section Named

variable (distinct : (parameters.map Parameter.name).Nodup)

include distinct

/-- Different parameters have different names. -/
theorem eq_of_name {index other : Nat} {parameter parameter' : Parameter}
    (here : parameters[index]? = some parameter) (there : parameters[other]? = some parameter')
    (same : parameter'.name = parameter.name) : other = index := by
  -- Names are distinct, so that one name is found at one index only.
  have names :
      (parameters.map Parameter.name)[other]? = (parameters.map Parameter.name)[index]? := by
    rw [List.getElem?_map, List.getElem?_map, here, there, Option.map_some, Option.map_some, same]
  have inside : other < (parameters.map Parameter.name).length := by
    rw [List.length_map]
    exact (List.getElem?_eq_some_iff.1 there).1
  exact (List.getElem?_inj inside distinct).1 names

/-- Filling the place of a name first and those of the other names after it fills all of them. -/
theorem completed_set {index : Nat} {parameter : Parameter} {expr : ε} {rest : List (Argument ε)}
    (here : parameters[index]? = some parameter) (free : placed[index]? = some none) :
    completed parameters rest (placed.set index (some expr)) =
      completed parameters (⟨some parameter.name, expr⟩ :: rest) placed := by
  -- The places are compared one by one: the one that is filled, and any other one.
  refine List.ext_getElem? fun other => ?_
  simp only [completed, List.getElem?_zipWith]
  cases there : parameters[other]? with
  | none => rfl
  | some parameter' =>
    by_cases same : index = other
    · subst same
      obtain rfl := Option.some.inj (here.symm.trans there)
      have filled : (placed.set index (some expr))[index]? = some (some expr) := by
        rw [List.getElem?_set_self', free, Option.map_eq_map, Option.map_some, Function.const]
      simp [filled, free]
    · have apart : parameter.name ≠ parameter'.name := fun eq =>
        same (eq_of_name distinct there here eq)
      rw [List.getElem?_set_ne same]
      cases placed[other]? with
      | none => rfl
      | some old => simp only [named?_cons_of_ne apart]

/-- The places that are free after one of them is filled are those that were free before, but for
this one. -/
theorem free_set {index : Nat} {parameter : Parameter} {expr : ε} {name : String}
    (here : parameters[index]? = some parameter) :
    Free parameters (placed.set index (some expr)) name ↔
      Free parameters placed name ∧ name ≠ parameter.name := by
  -- A name is free at another place, as the names of the parameters are different.
  constructor
  · rintro ⟨other, parameter', there, rfl, free⟩
    have apart : index ≠ other := by
      rintro rfl
      rw [List.getElem?_set_self', Option.map_eq_map, Option.map_eq_some_iff] at free
      obtain ⟨_, _, filled⟩ := free
      cases filled
    rw [List.getElem?_set_ne apart] at free
    exact ⟨⟨other, parameter', there, rfl, free⟩, fun eq =>
      apart (eq_of_name distinct here there eq).symm⟩
  · rintro ⟨⟨other, parameter', there, rfl, free⟩, different⟩
    have apart : index ≠ other := by
      rintro rfl
      exact different (congrArg Parameter.name (Option.some.inj (there.symm.trans here)))
    exact ⟨other, parameter', there, rfl, by rwa [List.getElem?_set_ne apart]⟩

/-- All names are free after a place is filled if they were before, and none is that of the
place. -/
theorem forall_free_set {index : Nat} {parameter : Parameter} {expr : ε} {names : List String}
    (here : parameters[index]? = some parameter) :
    (∀ name ∈ names, Free parameters (placed.set index (some expr)) name) ↔
      (∀ name ∈ names, Free parameters placed name) ∧ parameter.name ∉ names := by
  simp only [free_set distinct here, forall_and]
  refine and_congr_right fun _ => ⟨fun apart among => apart _ among rfl, ?_⟩
  rintro apart name among rfl
  exact apart among

/-- Arguments with names are placed if these are the names of different parameters without
arguments, and each at the place of its name. -/
theorem place_named (all : ∀ argument ∈ named, argument.name ≠ none)
    (places : placed.length = parameters.length) :
    place parameters given next placed named = .ok result ↔
      ((∀ name ∈ names named, Free parameters placed name) ∧ (names named).Nodup) ∧
        result = completed parameters named placed := by
  -- Each argument fills one place, so the induction is over all places that are filled already.
  induction named generalizing next placed with
  | nil =>
    have same : completed parameters [] placed = placed := by
      refine List.ext_getElem (by simp [completed, places]) fun index _ _ => ?_
      simp [completed, named?]
    simp [place, names, same, eq_comm]
  | cons argument rest ih =>
    obtain ⟨_ | name, expr⟩ := argument
    · exact absurd rfl (all _ List.mem_cons_self)
    have onward : ∀ argument ∈ rest, argument.name ≠ none := (List.forall_mem_cons.1 all).2
    rw [names_cons_some, List.forall_mem_cons, List.nodup_cons, place]
    -- The name has to be that of a parameter, whose place has to be free.
    split
    next unknown =>
      rw [List.findIdx?_eq_none_iff] at unknown
      refine iff_of_false (fun made => by cases made) ?_
      rintro ⟨⟨⟨⟨_, parameter, there, same, _⟩, _⟩, _⟩, _⟩
      have other := unknown parameter (List.mem_of_getElem? there)
      rw [same, beq_self_eq_true] at other
      cases other
    next index found =>
      obtain ⟨inside, same, _⟩ := List.findIdx?_eq_some_iff_getElem.1 found
      have here : parameters[index]? = some parameters[index] := List.getElem?_eq_getElem inside
      obtain rfl := eq_of_beq same
      split
      next free =>
        rw [ih onward (by rwa [List.length_set]), completed_set distinct here free,
          forall_free_set distinct here]
        have itself : Free parameters placed parameters[index].name := ⟨index, _, here, rfl, free⟩
        tauto
      next taken =>
        refine iff_of_false (fun made => by cases made) ?_
        rintro ⟨⟨⟨⟨other, parameter, there, same, free⟩, _⟩, _⟩, _⟩
        obtain rfl := eq_of_name distinct here there same
        exact taken free

end Named

section Split

variable {exprs : List ε}

/-- The places that are filled by position, and those after them. -/
def front (parameters : List Parameter) (exprs : List ε) : List (Option ε) :=
  exprs.map some ++ List.replicate (parameters.length - exprs.length) none

/-- There is a place for each parameter. -/
theorem length_front (enough : exprs.length ≤ parameters.length) :
    (front parameters exprs).length = parameters.length := by
  simp [front, enough]

/-- The first places are those of the arguments without names. -/
theorem front_of_lt {index : Nat} (filled : index < exprs.length) :
    (front parameters exprs)[index]? = some (some exprs[index]) := by
  simp [front, List.getElem?_append_left, filled]

/-- The places behind them are free. -/
theorem front_of_le {index : Nat} (behind : exprs.length ≤ index)
    (inside : index < parameters.length) : (front parameters exprs)[index]? = some none := by
  rw [front, List.getElem?_append_right (by simpa using behind), List.getElem?_replicate,
    List.length_map, if_pos (by omega)]

/-- The names that are free are those of the parameters behind the arguments without names. -/
theorem free_front {name : String} :
    Free parameters (front parameters exprs) name ↔ ∃ (index : Nat) (parameter : Parameter),
      parameters[index]? = some parameter ∧ parameter.name = name ∧ exprs.length ≤ index := by
  -- A place in front is filled by an argument, and one behind is free.
  refine exists_congr fun index => exists_congr fun parameter => and_congr_right fun there =>
    and_congr_right fun _ => ?_
  have inside := (List.getElem?_eq_some_iff.1 there).1
  obtain filled | behind := Nat.lt_or_ge index exprs.length
  · rw [front_of_lt filled]
    simpa using filled
  · rw [front_of_le behind inside]
    exact iff_of_true rfl behind

/-- The arguments without names are those that come first. -/
theorem positions_split (all : ∀ argument ∈ named, argument.name ≠ none) :
    positions (exprs.map ofPosition ++ named) = exprs.length := by
  have none : named.countP (fun argument => argument.name.isNone) = 0 :=
    List.countP_eq_zero.2 fun argument among missing =>
      all argument among (Option.isNone_iff_eq_none.1 missing)
  rw [positions, List.countP_append, List.countP_map, none, Nat.add_zero]
  exact List.countP_eq_length.2 fun _ _ => rfl

/-- The names are those of the arguments that come last. -/
theorem names_split : names (exprs.map ofPosition ++ named) = names named := by
  simp [names, ofPosition]

/-- An argument is found by its name among those that come last. -/
theorem named?_split (name : String) :
    named? (exprs.map ofPosition ++ named) name = named? named name := by
  have none : (exprs.map ofPosition).find? (fun argument => argument.name == some name) = none := by
    simp [ofPosition]
  rw [named?, List.find?_append, none, Option.none_or, named?]

/-- With all arguments in their places, each parameter has the one that is given for it. -/
theorem completed_front (all : ∀ argument ∈ named, argument.name ≠ none) :
    completed parameters named (front parameters exprs) =
      parameters.mapIdx (given? (exprs.map ofPosition ++ named)) := by
  -- The places are compared one by one: in front an argument stands, behind it the name decides.
  refine List.ext_getElem? fun index => ?_
  simp only [completed, List.getElem?_zipWith, List.getElem?_mapIdx]
  cases there : parameters[index]? with
  | none => rfl
  | some parameter =>
    have inside := (List.getElem?_eq_some_iff.1 there).1
    obtain filled | behind := Nat.lt_or_ge index exprs.length
    · have here : (exprs.map ofPosition ++ named)[index]? = some ⟨none, exprs[index]⟩ := by
        simp [List.getElem?_append_left, filled, ofPosition]
      simp [front_of_lt filled, given?, here]
    · have here : (exprs.map ofPosition ++ named)[index]? = named[index - exprs.length]? := by
        simp [List.getElem?_append_right, behind]
      have given : given? (exprs.map ofPosition ++ named) index parameter =
          named? named parameter.name := by
        rw [given?, here]
        split
        next _ found => exact absurd rfl (all _ (List.mem_of_getElem? found))
        next => exact named?_split _
      simp [front_of_le behind inside, given]

/-- Arguments with those without names first are arranged just if these have places, and the names
are those of different parameters behind them. -/
theorem arranges_split (all : ∀ argument ∈ named, argument.name ≠ none) :
    Arranges parameters (exprs.map ofPosition ++ named) ↔
      exprs.length ≤ parameters.length ∧
        (∀ name ∈ names named, Free parameters (front parameters exprs) name) ∧
          (names named).Nodup := by
  -- The conditions are the same, read for the arguments in front and the names behind.
  simp only [free_front]
  constructor
  · rintro ⟨_, enough, declared, once⟩
    rw [positions_split all] at enough declared
    rw [names_split] at declared once
    exact ⟨enough, declared, once⟩
  · rintro ⟨enough, declared, once⟩
    refine ⟨positionsFirst_iff.2 ⟨exprs, named, rfl, all⟩, ?_, ?_, ?_⟩
    · rwa [positions_split all]
    · rwa [positions_split all, names_split]
    · rwa [names_split]

end Split

/-- Arguments are placed just if they are arranged, and then for every parameter the argument that
is given for it. -/
theorem place_eq_ok_iff (distinct : (parameters.map Parameter.name).Nodup) :
    place parameters given (some 0) (parameters.map fun _ => none) arguments = .ok result ↔
      Arranges parameters arguments ∧ result = parameters.mapIdx (given? arguments) := by
  -- If a name comes before an argument without one, both sides fail.
  by_cases first : arguments.Pairwise fun earlier later => later.name = none → earlier.name = none
  · obtain ⟨exprs, named, rfl, all⟩ := positionsFirst_iff.1 first
    have start : place parameters given (some 0) (parameters.map fun _ => none)
          (exprs.map ofPosition ++ named) =
        if exprs.length ≤ parameters.length then
          place parameters given (some exprs.length) (front parameters exprs) named
        else .error (.tooMany parameters.length given) := by
      simpa [front] using place_positions exprs [] parameters.length named (by simp)
    rw [start, arranges_split all]
    split
    next enough =>
      rw [place_named distinct all (length_front enough), completed_front all]
      tauto
    next many => exact iff_of_false (fun made => by cases made) fun both => many both.1.1
  · exact iff_of_false (fun made => first (positionsFirst_of_place made).1)
      fun arranged => first arranged.1.positionsFirst

/-- The parameters, each with the argument that is given for it. -/
def assigned (parameters : List Parameter) (arguments : List (Argument ε)) :
    List (Parameter × Option ε) :=
  parameters.mapIdx fun index parameter => (parameter, given? arguments index parameter)

/-- Each parameter stands beside the argument that is given for it. -/
theorem zip_given : parameters.zip (parameters.mapIdx (given? arguments)) =
    assigned parameters arguments := by
  refine List.ext_getElem (by simp [assigned]) fun index _ _ => ?_
  simp [assigned]

end Signature

namespace Argument

variable {arguments arguments' : List (Argument ε)}

/-- Arguments with names change their order, and those without names stay where they are. -/
structure Reordered (arguments arguments' : List (Argument ε)) : Prop where
  perm : arguments.Perm arguments'
  kept : List.Forall₂ (fun argument argument' => argument.name = none ∨ argument'.name = none →
    argument = argument') arguments arguments'

namespace Reordered

/-- Arguments can be put back in their order. -/
theorem symm (reordered : Reordered arguments arguments') : Reordered arguments' arguments where
  perm := reordered.perm.symm
  kept := reordered.kept.flip.imp fun _ _ same missing => (same missing.symm).symm

/-- As many arguments have no name. -/
theorem positions_eq (reordered : Reordered arguments arguments') :
    positions arguments = positions arguments' :=
  reordered.perm.countP_eq _

/-- The names are the same, perhaps in another order. -/
theorem names_perm (reordered : Reordered arguments arguments') :
    (names arguments).Perm (names arguments') :=
  reordered.perm.filterMap _

/-- Arguments without names are where they were. -/
theorem map_isNone (reordered : Reordered arguments arguments') :
    arguments.map (fun argument => argument.name.isNone) =
      arguments'.map fun argument => argument.name.isNone := by
  rw [← List.forall₂_eq_eq_eq, List.forall₂_map_left_iff, List.forall₂_map_right_iff]
  -- An argument stays where it is unless it has a name, and then so does the one in its place.
  refine reordered.kept.imp fun argument argument' same => ?_
  by_cases missing : argument.name = none ∨ argument'.name = none
  · rw [same missing]
  · rw [not_or] at missing
    simp [Option.isNone_eq_false_iff.2 (Option.isSome_iff_ne_none.2 missing.1),
      Option.isNone_eq_false_iff.2 (Option.isSome_iff_ne_none.2 missing.2)]

end Reordered

/-- Among different names the argument of a name is the only one. -/
theorem named?_eq_some_iff (once : (names arguments).Nodup) {name : String} {expr : ε} :
    named? arguments name = some expr ↔ ⟨some name, expr⟩ ∈ arguments := by
  -- The name is that of the first argument, or stands behind it.
  induction arguments with
  | nil => simp [named?]
  | cons argument rest ih =>
    obtain ⟨_ | other, here⟩ := argument
    · simpa [named?, names] using ih once
    · rw [names_cons_some, List.nodup_cons] at once
      by_cases same : other = name
      · subst same
        have apart : ⟨some other, expr⟩ ∉ rest := fun among =>
          once.1 (List.mem_filterMap.2 ⟨_, among, rfl⟩)
        simp [apart, eq_comm]
      · rw [named?_cons_of_ne same, ih once.2]
        simp [Ne.symm same]

/-- The order of different names does not matter for the argument that is given for a parameter. -/
theorem Reordered.given?_eq (reordered : Reordered arguments arguments')
    (once : (names arguments).Nodup) (index : Nat) (parameter : Parameter) :
    given? arguments index parameter = given? arguments' index parameter := by
  have named (name : String) : named? arguments name = named? arguments' name := by
    refine Option.ext fun expr => ?_
    rw [named?_eq_some_iff once, named?_eq_some_iff (reordered.names_perm.nodup_iff.1 once),
      reordered.perm.mem_iff]
  have kept := forall₂_getElem? reordered.kept index
  -- An argument without a name is on both sides or on neither, and all others are found by name.
  rw [given?, given?]
  generalize arguments[index]? = here at kept ⊢
  generalize arguments'[index]? = here' at kept ⊢
  cases kept with
  | none => exact named _
  | @some argument argument' same =>
    obtain ⟨_ | name, expr⟩ := argument
    · obtain rfl := same (.inl rfl)
      rfl
    · obtain ⟨_ | name', expr'⟩ := argument'
      · cases same (.inr rfl)
      · exact named _

end Argument

namespace Signature

open Argument

variable {parameters : List Parameter} {arguments arguments' : List (Argument ε)}

/-- The order of arguments with names does not matter for whether they are arranged. -/
theorem Arranges.reordered (arranged : Arranges parameters arguments)
    (reordered : Reordered arguments arguments') : Arranges parameters arguments' where
  -- Only where names stand matters here, and not which ones.
  positionsFirst := by
    have byMap (arguments : List (Argument ε)) :
        (arguments.Pairwise fun earlier later => later.name = none → earlier.name = none) ↔
          (arguments.map fun argument => argument.name.isNone).Pairwise fun earlier later =>
            later = true → earlier = true := by
      simp [List.pairwise_map]
    rw [byMap, ← reordered.map_isNone, ← byMap]
    exact arranged.positionsFirst
  enough := reordered.positions_eq ▸ arranged.enough
  declared name among := by
    rw [← reordered.positions_eq]
    exact arranged.declared name (reordered.names_perm.mem_iff.2 among)
  once := reordered.names_perm.nodup_iff.1 arranged.once

end Signature

end Reshape
