import Reshape.Error

/-!
Messages: raw content with metadata and perhaps a trace. The value that the content holds is kept
once it is known, so that writing a value and reading the message back gives that value.
-/

namespace Reshape

/-- What is known of the trace that a message belongs to. -/
structure Trace where
  id : String
  /-- Headers that pass the trace on. -/
  headers : Fields String
  deriving Repr

/-- The headers of a trace as a value. -/
def Trace.toValue (trace : Trace) : Value :=
  .object (trace.headers.map fun (name, text) => (name, .string text))

/-- A message. -/
structure Message where
  raw : Bytes
  metadata : Fields Value
  /-- The value that the content was written from, if it was. -/
  written : Option Value
  trace : Option Trace
  deriving Repr

namespace Message

/-- The message with given content and nothing else. -/
def ofOctets (raw : Bytes) : Message := ⟨raw, [], none, none⟩

/-- The message with another value as its content. -/
def withValue (message : Message) (value : Value) : Message :=
  { message with raw := value.octets, written := some value }

/-- The message whose content is a value. -/
def ofValue (value : Value) : Message := (ofOctets []).withValue value

/-- The value that the content holds, if it holds one. -/
def value? (message : Message) : Option Value :=
  message.written.or (Value.parseJsonOctets? message.raw)

/-- The value that the content holds. -/
def value (message : Message) : Except Error Value :=
  match message.value? with
  | some value => .ok value
  | none => .error (.general .malformedMessage)

end Message

/-- Messages that are processed together. -/
abbrev Batch := List Message

namespace Batch

/-- The content of a message. -/
def raw? (batch : Batch) (index : Nat) : Option Bytes :=
  batch[index]?.map Message.raw

/-- The value of a message. -/
def value (batch : Batch) (index : Nat) : Except Error Value :=
  match batch[index]? with
  | some message => message.value
  | none => .error (.general (.messageOutOfBatch index batch.length))

/-- The metadata of a message under a key. -/
def metadata? (batch : Batch) (index : Nat) (key : String) : Option Value :=
  batch[index]?.bind fun message => message.metadata.get? key

/-- All metadata of a message. -/
def allMetadata? (batch : Batch) (index : Nat) : Option (Fields Value) :=
  batch[index]?.map Message.metadata

/-- The trace of a message. -/
def trace? (batch : Batch) (index : Nat) : Option Trace :=
  batch[index]?.bind Message.trace

end Batch

end Reshape
