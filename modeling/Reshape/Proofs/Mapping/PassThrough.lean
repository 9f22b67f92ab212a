import Reshape.Environment
import Reshape.Proofs.Mapping.Contract
import Reshape.Proofs.Mapping.Deletion
import Reshape.Proofs.Value.Json

/-!
Mappings without statements about the document: they pass the value of a message on. Content that
the value was only read from is written anew, and then need not be JSON of it any more: a string is
written without its quotes, and the text of a floating-point number may be read as a neighbour.
-/

namespace Reshape

/-- A message that was written from a value has the octets of the value as its content. -/
def Message.Consistent (message : Message) : Prop :=
  ∀ value ∈ message.written, message.raw = value.octets

namespace Message

/-- The message with a text as its content and nothing else. -/
def ofText (text : String) : Message := ofOctets (Utf8.ofText text)

/-- A message of given content was not written from a value. -/
theorem consistent_ofOctets (raw : Bytes) : (ofOctets raw).Consistent := by
  simp [Consistent, ofOctets]

end Message

namespace Mapping

variable {surroundings : Surroundings} {input : Input} {before after : Memory}
  {mapping : Mapping} {batch : Batch} {index : Nat} {message : Message}
  {result : Option Message}

/-- No statement assigns to the document or to a part of it. -/
def SparesRoot (mapping : Mapping) : Prop :=
  ∀ statement ∈ mapping.statements, ∀ path, statement.target ≠ .root path

/-- The document of a mapping that does not assign to it is that of the input. -/
theorem SparesRoot.root_eq (spares : mapping.SparesRoot) {output : Output}
    (succeeds : (mapping.run surroundings input).outcome before = (.ok output, after)) :
    output.root = input.value.getD .nothing := by
  obtain ⟨done, draft, runs, all, rfl⟩ := run_eq_ok_iff.1 succeeds
  have untouched : draft.root = .nothing := by
    refine runs.root_eq_nothing_iff.2 fun entry member ⟨path, aimed, _⟩ => ?_
    exact spares entry.1 (all ▸ List.mem_map_of_mem member) path aimed
  simp [Mapping.output, untouched]

/-- The message that a mapping makes of one, given its output; none if it deletes the message. -/
def mapped (message : Message) (output : Output) : Option Message :=
  let message := { message with metadata := output.metadata }
  match output.root with
  | .delete => none
  | .nothing => some message
  | root => some (message.withValue root)

/-- A message is mapped exactly if a run on its value and metadata succeeds, to the message made
from the output of the run. -/
theorem map_eq_ok_iff (place : batch[index]? = some message) :
    (mapping.map surroundings batch index).outcome before = (.ok result, after) ↔
      ∃ output, (mapping.run surroundings
          ⟨message.value?, message.metadata, some batch, index⟩).outcome before =
            (.ok output, after) ∧ mapped message output = result := by
  unfold map
  rw [place, Eval.outcome_bind]
  -- Whether the message is left out is told by the root alone.
  rcases (mapping.run surroundings
    ⟨message.value?, message.metadata, some batch, index⟩).outcome before with
      ⟨error | ⟨root, metadata⟩, left⟩
  · simp
  · cases root <;> simp [mapped, and_comm]

/-- What is made of a message whose document is a value that is no marker has the value as its
content. -/
theorem mapped_of_root {output : Output} (data : output.root.isMarker = false) :
    mapped message output =
      some (Message.withValue { message with metadata := output.metadata } output.root) := by
  unfold mapped
  -- A root that is data is neither of the two markers.
  simp only
  split
  next deleted => simp [deleted, Value.isMarker] at data
  next nothing => simp [nothing, Value.isMarker] at data
  next => rfl

/-- What is made of a message that was written from a value has the value and the content as before
if the value stays the document and does not ask to delete the message. -/
theorem mapped_of_written {output : Output} {value : Value} (written : message.written = some value)
    (octets : message.raw = value.octets) (root : output.root = value) (kept : value ≠ .delete) :
    ∃ next, mapped message output = some next ∧ next.value? = some value ∧
      next.raw = message.raw := by
  by_cases nothing : value = .nothing
  · -- Nothing is written.
    exact ⟨{ message with metadata := output.metadata }, by simp [mapped, root, nothing],
      by simp [Message.value?, written], rfl⟩
  · have data : output.root.isMarker = false := by
      rw [root]
      cases value <;> first | rfl | contradiction
    exact ⟨_, mapped_of_root data, by simp [Message.value?, Message.withValue, root],
      by simp [Message.withValue, root, octets]⟩

/-- A mapping that does not assign to the document passes a message on with its value, unless the
value is the marker to delete. Let the content be JSON of a document. If it was written from a
value, it stays as it is; if not, it becomes the octets of the document. So it stays JSON of the
document exactly if the message was written from a value, or the document is no string and all its
numbers are read back from their own texts, as integers are and floating-point numbers with few
digits. -/
theorem passes_on (place : batch[index]? = some message) (consistent : message.Consistent)
    {document : Value} (read : Value.parseJsonOctets? message.raw = some document)
    (spares : mapping.SparesRoot)
    (succeeds : (mapping.map surroundings batch index).outcome before = (.ok result, after)) :
    (result = none ↔ message.written = some .delete) ∧
      ∀ next, result = some next →
        next.value? = message.value? ∧
        (message.written ≠ none → next.raw = message.raw) ∧
        (message.written = none → next.raw = document.octets) ∧
        (Value.parseJsonOctets? next.raw = some document ↔
          (message.written = none →
            (∀ text, document ≠ .string text) ∧ document.MadeOf Value.rereadable)) := by
  obtain ⟨output, run, rfl⟩ := (map_eq_ok_iff place).1 succeeds
  have root := spares.root_eq run
  have given := Value.document_of_parseJsonOctets? read
  cases written : message.written with
  | none =>
    -- The value was read from the content, and is written again.
    have value : message.value? = some document := by simp [Message.value?, written, read]
    simp only [value, Option.getD_some] at root
    rw [mapped_of_root (root ▸ given.not_isMarker), root]
    refine ⟨by simp, fun next made => ?_⟩
    obtain rfl := Option.some.inj made
    have content : Message.raw (Message.withValue
        { message with metadata := output.metadata } document) = document.octets := rfl
    refine ⟨by simp [Message.value?, Message.withValue, written, read], by simp, fun _ => rfl, ?_⟩
    rw [content, Value.parseJsonOctets?_octets_iff given]
    simp
  | some value =>
    have octets : message.raw = value.octets := consistent value written
    have known : message.value? = some value := by simp [Message.value?, written]
    simp only [known, Option.getD_some] at root
    by_cases deleted : value = .delete
    · simp [mapped, root, deleted]
    · obtain ⟨next, made, value, raw⟩ := mapped_of_written written octets root deleted
      rw [made]
      refine ⟨by simpa using deleted, fun other same => ?_⟩
      obtain rfl := Option.some.inj same
      exact ⟨value.trans known.symm, fun _ => raw, by simp, by simp [raw, read]⟩

section Sample

/-- The statement `let unused = 1`. -/
def setsUnused : Mapping := ⟨[⟨1, .variable "unused", .literal (.int 1)⟩]⟩

/-- Whether an outcome of compilation is the mapping `setsUnused`. -/
def isSetsUnused : Except Error Mapping → Bool
  | .ok ⟨[⟨1, .variable "unused", .literal (.int 1)⟩]⟩ => true
  | _ => false

/-- The mapping is what its source is compiled to. -/
theorem compiled_setsUnused : setsUnused.Compiled Environment.standard := by
  have accepted : isSetsUnused
      ((compile Environment.standard "let unused = 1").run.run []).1 = true := by
    decide +kernel
  refine .of_check isSetsUnused (fun outcome is => ?_) accepted
  unfold isSetsUnused at is
  split at is <;> first | rfl | cases is

/-- The mapping assigns to a variable only. -/
theorem setsUnused_sparesRoot : setsUnused.SparesRoot := by
  simp [SparesRoot, setsUnused]

/-- The mapping passes on what a message is read as. -/
theorem map_setsUnused {text : String} {document : Value}
    (read : Value.parseJsonOctets? (Utf8.ofText text) = some document) :
    (setsUnused.map ⟨[], ⟨0, 0⟩⟩ [.ofText text] 0).outcome (.fresh (.seeded 0)) =
      (.ok (mapped (.ofText text) ⟨document, []⟩), .fresh (.seeded 0)) := by
  -- The payload is read, and the mapping leaves it as the root.
  have value : (Message.ofText text).value? = some document := by
    simp [Message.value?, Message.ofText, Message.ofOctets, read]
  have place : [Message.ofText text][0]? = some (.ofText text) := rfl
  refine (map_eq_ok_iff place).2 ⟨⟨document, []⟩, ?_, rfl⟩
  rw [value]
  rfl

/-- The number 0.5. -/
def half : Binary64 := ⟨0x3FE0000000000000⟩

/-- The number is short. -/
theorem isShort_half : Json.IsShort half := by
  intro negative significand exponent reading _
  -- The half is read as a significand of all bits, and its shortest decimal is a single digit.
  have read : half.reading = .finite false 4503599627370496 (-53) := rfl
  rw [read] at reading
  obtain ⟨-, rfl, rfl⟩ := Binary64.Reading.finite.inj reading
  have shortest : Decimal.shortest 4503599627370496 (-53) = ⟨5, -1⟩ := rfl
  rw [shortest]
  exact ⟨by decide, by decide⟩

/-- The document `{"rate":0.5}`. -/
def halfRate : Value := .object [("rate", .float half)]

/-- The number of the document is read back from its text. -/
theorem madeOf_halfRate : halfRate.MadeOf Value.rereadable := by
  refine .object ?_
  simp only [List.forall_mem_cons]
  refine ⟨.number ⟨rfl, ?_⟩, by simp⟩
  rintro _ ⟨⟩
  exact Json.readsBack_of_isShort rfl isShort_half

/-- The text of an object is read as the object. -/
theorem parse_halfRate :
    Value.parseJsonOctets? (Utf8.ofText "\x7b\"rate\":0.5\x7d") = some halfRate := by
  -- The text is the compact rendering, which is read back where it is within the limits.
  have text : "\x7b\"rate\":0.5\x7d" = halfRate.compact := rfl
  have scalar : Json.Scalar (.float half) 0 := .float rfl 0
  have document : Value.Document (126 + 1) halfRate :=
    .object trivial (by simpa using .scalar scalar)
  rw [text, document.parseJsonOctets?_compact, document.reread_iff]
  exact madeOf_halfRate

/-- The text of a string is read as the string. -/
theorem parse_hello :
    Value.parseJsonOctets? (Utf8.ofText "\"hello\"") = some (.string "hello") := by
  have text : "\"hello\"" = (Value.string "hello").compact := rfl
  have quoted : Json.Scalar (.string "hello") 7 := .string (by decide)
  have document : Value.Document Json.nestingLimit (.string "hello") := .scalar quoted
  rw [text, document.parseJsonOctets?_compact, document.reread_iff]
  exact .other rfl rfl

/-- An object stays JSON of the object, with its number as it was. -/
theorem passes_on_halfRate :
    (mapped (.ofText "\x7b\"rate\":0.5\x7d") ⟨halfRate, []⟩ = none ↔
        (Message.ofText "\x7b\"rate\":0.5\x7d").written = some .delete) ∧
      ∀ next, mapped (.ofText "\x7b\"rate\":0.5\x7d") ⟨halfRate, []⟩ = some next →
        next.value? = (Message.ofText "\x7b\"rate\":0.5\x7d").value? ∧
        ((Message.ofText "\x7b\"rate\":0.5\x7d").written ≠ none →
          next.raw = (Message.ofText "\x7b\"rate\":0.5\x7d").raw) ∧
        ((Message.ofText "\x7b\"rate\":0.5\x7d").written = none →
          next.raw = halfRate.octets) ∧
        (Value.parseJsonOctets? next.raw = some halfRate ↔
          ((Message.ofText "\x7b\"rate\":0.5\x7d").written = none →
            (∀ text, halfRate ≠ .string text) ∧ halfRate.MadeOf Value.rereadable)) ∧
        (∀ text, halfRate ≠ .string text) ∧ halfRate.MadeOf Value.rereadable := by
  obtain ⟨deleted, kept⟩ := passes_on rfl (Message.consistent_ofOctets _) parse_halfRate
    setsUnused_sparesRoot (map_setsUnused parse_halfRate)
  refine ⟨deleted, fun next made => ?_⟩
  obtain ⟨value, content, written, again⟩ := kept next made
  exact ⟨value, content, written, again, by simp [halfRate], madeOf_halfRate⟩

/-- A string loses its quotes, and what is left is no JSON. -/
theorem not_passed_on :
    setsUnused.Compiled Environment.standard ∧ setsUnused.SparesRoot ∧
      (Message.ofText "\"hello\"").Consistent ∧
      Value.parseJsonOctets? (Message.ofText "\"hello\"").raw = some (.string "hello") ∧
      ∃ next, (setsUnused.map ⟨[], ⟨0, 0⟩⟩ [.ofText "\"hello\""] 0).outcome
          (.fresh (.seeded 0)) = (.ok (some next), .fresh (.seeded 0)) ∧
        next.raw = Utf8.ofText "hello" ∧ Value.parseJsonOctets? next.raw = none :=
  ⟨compiled_setsUnused, setsUnused_sparesRoot, Message.consistent_ofOctets _, parse_hello, _,
    map_setsUnused parse_hello, rfl, by decide +kernel⟩

end Sample

end Mapping

end Reshape
