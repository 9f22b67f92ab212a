import Reshape.Environment
import Reshape.Value.Json

/-! Listings of the functions and methods of an environment. -/

namespace Reshape

/-- A function or method in a listing. -/
structure Listing where
  name : String
  signature : Signature
  notes : Notes
  deriving Repr

/-- The listing of an environment's functions, in the order of their names. -/
def Environment.functionListing (environment : Environment) : List Listing :=
  environment.functions.map fun (name, entry) => ⟨name, entry.called.signature, entry.notes⟩

/-- The listing of an environment's methods, in the order of their names. -/
def Environment.methodListing (environment : Environment) : List Listing :=
  environment.methods.map fun (name, entry) => ⟨name, entry.called.signature, entry.notes⟩

/-- A parameter as JSON; what stands for a missing argument is left out if nothing does. -/
def Parameter.toJson (parameter : Parameter) : Json :=
  let standard := match parameter.standard with
    | some value => [("default", value.toJson)]
    | none => []
  .object <|
    [("name", .string parameter.name), ("description", .string parameter.description),
      ("kind", .string parameter.kind.name), ("optional", .bool parameter.isOptional)] ++
    standard ++
    [("static_only", .bool parameter.isStatic), ("scoped", .bool parameter.isScoped)]

/-- A signature as JSON. -/
def Signature.toJson (signature : Signature) : Json :=
  .object [("defs", .array (signature.parameters.map Parameter.toJson)),
    ("variadic", .bool signature.isVariadic)]

/-- A sample as JSON. -/
def Sample.toJson (sample : Sample) : Json :=
  .object [("summary", .string sample.summary), ("mapping", .string sample.mapping),
    ("results", .array (sample.results.map fun (input, expected) =>
      .array [.string input, .string expected])),
    ("skip_testing", .bool !sample.isTested)]

namespace Listing

/-- A listed entry as JSON. -/
def toJson (listing : Listing) : Json :=
  let notes := listing.notes
  .object [("name", .string listing.name), ("category", .string notes.category.name),
    ("status", .string notes.status.name), ("summary", .string notes.summary),
    ("description", .string notes.description), ("params", listing.signature.toJson),
    ("impure", .bool notes.isImpure), ("examples", .array (notes.samples.map Sample.toJson))]

/-- The line of a listed entry, with a mark before its name. -/
def line (mark : String) (listing : Listing) : String :=
  let notes := listing.notes
  let status := match notes.status with
    | .stable => ""
    | status => s!" ({status.name})"
  let impure := if notes.isImpure then " (impure)" else ""
  s!"{mark}{listing.name} [{notes.category.name}]{status}{impure}  {notes.summary}"

/-- Whether an entry stands no later than another one in a listing by category. -/
def precedes (a b : Listing) : Bool :=
  a.notes.category.rank < b.notes.category.rank ||
    (a.notes.category.rank == b.notes.category.rank && !(b.name < a.name))

/-- The lines of a listing by category. -/
def lines (mark : String) (listings : List Listing) : List String :=
  if listings.isEmpty then ["  No entries found."]
  else (listings.mergeSort precedes).map (line mark)

end Listing

end Reshape
