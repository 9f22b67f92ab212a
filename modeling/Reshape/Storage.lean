import Reshape.Error
import Reshape.Text.Utf8

/-!
Storage: where mappings, messages and suites come from. The application only reads, by path, and the
steps that this takes are left open, so that files on a disk serve as well as values in memory.
-/

namespace Reshape

/-- Why a path cannot be read. -/
inductive Refusal where
  | missing
  | directory
  /-- A file stands where the path goes through a directory. -/
  | notDirectory
  /-- The content is no text. -/
  | malformed
  | other (reason : String)
  deriving DecidableEq, Repr

/-- The text that reports a refusal. -/
def Refusal.message : Refusal → String
  | .missing => "No such file or directory (os error 2)"
  | .directory => "Is a directory (os error 21)"
  | .notDirectory => "Not a directory (os error 20)"
  | .malformed => "stream did not contain valid UTF-8"
  | .other reason => reason

/-- Read access to files. -/
structure Storage (m : Type → Type) where
  /-- The content at a path. -/
  read : String → m (Except Refusal Bytes)
  isDirectory : String → m Bool
  /-- The paths of all files at or below a path. -/
  files : String → m (List String)
  /-- What is read where no path is given. -/
  input : m Bytes

namespace Storage

variable {m : Type → Type} [Monad m]

/-- The text of a content. -/
def textOf (content : Except Refusal Bytes) : Except Refusal String := do
  match Utf8.toText? (← content) with
  | some text => return text
  | none => throw .malformed

/-- The text at a path. -/
def readText (storage : Storage m) (path : String) : m (Except Refusal String) := do
  return textOf (← storage.read path)

end Storage

end Reshape
