import Reshape.Proofs.Mapping.Run
import Reshape.Proofs.Value.Path

/-!
Deleted fields: what a mapping deletes from its document stays deleted. But a document that is given
no value by the end of the run is replaced by that of the input, with the field in it.
-/

namespace Reshape

namespace Draft

variable {path other : List String} {value root : Value}

/-- A value that is assigned leaves no document only where there was none, as a deletion does. -/
theorem assignRoot_eq_nothing_iff (given : value ≠ .nothing) :
    assignRoot path value root = .nothing ↔ root = .nothing ∧ value = .delete ∧ path ≠ [] := by
  cases path with
  | nil => simp [assignRoot, given]
  | cons segment rest =>
    by_cases deletion : value = .delete
    · subst deletion
      have kept : root.deletePath (segment :: rest) = .nothing ↔ root = .nothing := by
        constructor
        · intro nothing
          have same := Value.deletePath_eq_of_isMarker (congrArg Value.isMarker nothing)
          exact same.symm.trans nothing
        · rintro rfl
          cases rest <;> rfl
      simp [assignRoot, kept]
    · -- Anything else is written into an object or an array.
      have written (root : Value) : Value.set (segment :: rest) value root ≠ .nothing := by
        intro nothing
        have unmarked := Value.isMarker_set (List.cons_ne_nil segment rest) value root
        simp [nothing, Value.isMarker] at unmarked
      simp [assignRoot, written, deletion]

/-- Nothing is left at a path of the document that is deleted. -/
theorem field?_assignRoot_delete (nonempty : path ≠ []) (root : Value) :
    (assignRoot path .delete root).field? path = none := by
  cases path with
  | nil => exact absurd rfl nonempty
  | cons segment rest => exact Value.field?_deletePath_self nonempty root

/-- An assignment puts nothing at a path that parts from its own. -/
theorem field?_assignRoot (part : Value.Part path other) (absent : root.field? path = none) :
    (assignRoot other value root).field? path = none := by
  -- A deletion puts nothing anywhere, and a write puts something at its own path only.
  cases other with
  | nil => exact absurd List.nil_prefix part.2
  | cons segment rest =>
    by_cases deletion : value = .delete
    · subst deletion
      exact Value.field?_deletePath absent
    · have start : (if root.isMarker then .object [] else root : Value).field? path = none := by
        split
        · cases path with
          | nil => cases absent
          | cons _ _ => rfl
        · exact absent
      simpa [assignRoot, deletion] using Value.field?_set part value start

end Draft

namespace Mapping

/-- An executed statement gives the document a value: it assigns one to all of it or to a part of
it. The marker to delete is such a value only for all of it. -/
def Done.GivesRoot (entry : Done) : Prop :=
  ∃ path, entry.1.target = .root path ∧ entry.2 ≠ .nothing ∧ (entry.2 = .delete → path = [])

/-- The last thing that a run does to the document at a path, around it or inside it, is to delete
what stands at the path. -/
def Deletes (done : List Done) (path : List String) : Prop :=
  ∃ earlier statement later, done = earlier ++ (statement, .delete) :: later ∧
    statement.target = .root path ∧
    ∀ entry ∈ later, ∀ other, entry.1.target = .root other → entry.2 ≠ .nothing →
      Value.Part path other

variable {surroundings : Surroundings} {input : Input} {before after : Memory} {draft : Draft}
  {done : List Done} {mapping : Mapping} {path : List String}

namespace Runs

/-- There is no document exactly as long as no statement has given it a value. -/
theorem root_eq_nothing_iff (runs : Runs surroundings input before done draft after) :
    draft.root = .nothing ↔ ∀ entry ∈ done, ¬ entry.GivesRoot := by
  induction runs with
  | start => simp [Mapping.start]
  | @step done draft draft' memory after statement value _ _ assigned ih =>
    have last : (∀ entry ∈ done ++ [(statement, value)], ¬ entry.GivesRoot) ↔
        draft.root = .nothing ∧ ¬ Done.GivesRoot (statement, value) := by
      rw [ih, List.forall_mem_append]
      simp
    rw [last]
    have changes := Draft.assigned_of_assign assigned
    generalize aimed : statement.target = target at changes
    -- Only an assignment to the document changes it.
    cases changes with
    | left => simp [Done.GivesRoot]
    | root path given =>
      rw [Draft.assignRoot_eq_nothing_iff given]
      simp [Done.GivesRoot, aimed, given]
    | _ => simp [Done.GivesRoot, aimed]

/-- A deletion leaves nothing at its path, and later assignments elsewhere put nothing there. -/
theorem field?_of_deletes (runs : Runs surroundings input before done draft after)
    (nonempty : path ≠ []) (deletes : Deletes done path) : draft.root.field? path = none := by
  obtain ⟨earlier, statement, later, same, aimed, apart⟩ := deletes
  induction runs generalizing later with
  | start => simp at same
  | @step done draft draft' memory after last value _ _ assigned ih =>
    have changes := Draft.assigned_of_assign assigned
    rcases List.eq_nil_or_concat later with rfl | ⟨before, entry, rfl⟩
    · -- The deletion is the last statement so far.
      obtain ⟨rfl, same⟩ := List.append_inj' same rfl
      obtain ⟨rfl, rfl⟩ : last = statement ∧ value = .delete := by simpa using same
      rw [aimed] at changes
      cases changes with
      | root path _ => exact Draft.field?_assignRoot_delete nonempty draft.root
    · rw [List.concat_eq_append, ← List.cons_append, ← List.append_assoc] at same
      obtain ⟨rfl, same⟩ := List.append_inj' same rfl
      obtain rfl : (last, value) = entry := by simpa using same
      have absent := ih before rfl fun entry member => apart entry (by simp [member])
      have apart := apart (last, value) (by simp)
      generalize last.target = target at changes apart
      cases changes with
      | root other given => exact Draft.field?_assignRoot (apart other rfl given) absent
      | _ => exact absent

end Runs

/-- A field that a mapping deletes is absent from its output exactly if the document is given a
value at all, or the input has no such field. -/
theorem absent_iff (runs : Runs surroundings input before done draft after)
    (all : done.map Prod.fst = mapping.statements) (nonempty : path ≠ [])
    (deletes : Deletes done path)
    (clear : ∀ front items, front <+: path → front ≠ path →
      (output input draft).root.get? front ≠ some (.array items)) :
    (mapping.run surroundings input).outcome before = (.ok (output input draft), after) ∧
      ((output input draft).root.get? path = none ↔
        (∃ entry ∈ done, entry.GivesRoot) ∨ ∀ value ∈ input.value, value.get? path = none) := by
  refine ⟨run_eq_ok_iff.2 ⟨done, draft, runs, all, rfl⟩, ?_⟩
  have untouched := runs.root_eq_nothing_iff
  by_cases nothing : draft.root = .nothing
  · -- The document of the input is the output.
    have none : ¬ ∃ entry ∈ done, entry.GivesRoot := by simpa using untouched.1 nothing
    simp only [none, false_or, output, nothing]
    cases input.value with
    | some value => simp
    | none =>
      cases path with
      | nil => exact absurd rfl nonempty
      | cons segment rest => simp [Value.get?, Value.child?]
  · have some : ∃ entry ∈ done, entry.GivesRoot := by
      by_contra none
      exact nothing (untouched.2 fun entry member gives => none ⟨entry, member, gives⟩)
    have own : (output input draft).root = draft.root := by simp only [output]
    rw [Value.get?_eq_field? clear, own]
    simp [runs.field?_of_deletes nonempty deletes, some]

section Sample

/-- The statement `root.secret = deleted()`. -/
def Statement.dropsSecret : Statement := ⟨2, .root ["secret"], .call .deleted []⟩

/-- The statement `root = this`. -/
def Statement.copies : Statement := ⟨1, .root [], .field .current []⟩

/-- A document with a field that is to be dropped. -/
def withSecret : Value := .object [("a", .int 1), ("secret", .int 2)]

/-- A message of the document. -/
def secretInput : Input := ⟨some withSecret, [], none, 0⟩

/-- The run of a deletion by itself. -/
theorem Runs.ofDropsSecret : Runs ⟨[], ⟨0, 0⟩⟩ secretInput (.fresh (.seeded 0))
    [(Statement.dropsSecret, .delete)] (Mapping.start secretInput) (.fresh (.seeded 0)) :=
  .step .start rfl rfl

/-- A field is absent from a copy of the document that it is deleted from. -/
theorem absent_iff_of_copy :
    ((⟨[Statement.copies, Statement.dropsSecret]⟩ : Mapping).run ⟨[], ⟨0, 0⟩⟩
        secretInput).outcome (.fresh (.seeded 0)) =
      (.ok ⟨.object [("a", .int 1)], []⟩, .fresh (.seeded 0)) ∧
      ((Value.object [("a", .int 1)]).get? ["secret"] = none ↔
        (∃ entry ∈ [(Statement.copies, withSecret), (Statement.dropsSecret, .delete)],
          Done.GivesRoot entry) ∨
        ∀ value ∈ secretInput.value, value.get? ["secret"] = none) := by
  -- The document is copied by the first statement, and loses the field by the second one.
  have runs : Runs ⟨[], ⟨0, 0⟩⟩ secretInput (.fresh (.seeded 0))
      [(Statement.copies, withSecret), (Statement.dropsSecret, .delete)]
      ⟨.object [("a", .int 1)], [], []⟩ (.fresh (.seeded 0)) :=
    .step (.step .start rfl rfl) rfl rfl
  have deletes : Deletes [(Statement.copies, withSecret), (Statement.dropsSecret, .delete)]
      ["secret"] :=
    ⟨[(Statement.copies, withSecret)], Statement.dropsSecret, [], rfl, rfl, by simp⟩
  refine absent_iff runs rfl (by simp) deletes fun front items before shorter => ?_
  obtain rfl : front = [] := by
    rcases List.prefix_cons_iff.1 before with rfl | ⟨rest, rfl, inside⟩
    · rfl
    · obtain rfl := List.prefix_nil.1 inside
      exact absurd rfl shorter
  simp [Value.get?, output]

/-- A mapping that only deletes a field succeeds with the document of the input, with the field. -/
theorem not_absent :
    ∃ done draft after, Runs ⟨[], ⟨0, 0⟩⟩ secretInput (.fresh (.seeded 0)) done draft after ∧
      done.map Prod.fst = [Statement.dropsSecret] ∧ Deletes done ["secret"] ∧
      (output secretInput draft).root = withSecret ∧
      ((⟨[Statement.dropsSecret]⟩ : Mapping).run ⟨[], ⟨0, 0⟩⟩ secretInput).outcome
        (.fresh (.seeded 0)) = (.ok (output secretInput draft), after) ∧
      (output secretInput draft).root.get? ["secret"] = some (.int 2) :=
  ⟨_, _, _, Runs.ofDropsSecret, rfl, ⟨[], _, [], rfl, rfl, by simp⟩, rfl, rfl, rfl⟩

end Sample

end Mapping

end Reshape
