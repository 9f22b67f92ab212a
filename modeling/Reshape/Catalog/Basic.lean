/-!
What the catalog tells of a function or method beside its parameters: what it is for, how settled it
is, and examples with the results that they are held to.
-/

namespace Reshape

/-- How settled a function or method is. -/
inductive Status where
  | stable
  | beta
  | experimental
  | deprecated
  deriving DecidableEq, Repr

/-- The name of a status. -/
def Status.name : Status → String
  | .stable => "stable"
  | .beta => "beta"
  | .experimental => "experimental"
  | .deprecated => "deprecated"

/-- What a function or method is about. -/
inductive Category where
  | general
  | message
  | environment
  | stateful
  | numbers
  | strings
  | encoding
  | regex
  | collections
  | coercion
  deriving DecidableEq, Repr

namespace Category

/-- The name of a category. -/
def name : Category → String
  | .general => "general"
  | .message => "message"
  | .environment => "environment"
  | .stateful => "stateful"
  | .numbers => "numbers"
  | .strings => "strings"
  | .encoding => "encoding"
  | .regex => "regex"
  | .collections => "collections"
  | .coercion => "coercion"

/-- The place of a category in listings. -/
def rank : Category → Nat
  | .general => 0
  | .message => 1
  | .environment => 2
  | .stateful => 3
  | .numbers => 4
  | .strings => 5
  | .encoding => 6
  | .regex => 7
  | .collections => 8
  | .coercion => 9

end Category

/-- A mapping that shows what a function or method does. -/
structure Sample where
  summary : String
  mapping : String
  /-- Messages and what is expected for each, in the order in which the mapping gets them. -/
  results : List (String × String)
  /-- Whether the results can be relied on. -/
  isTested : Bool
  deriving DecidableEq, Repr

/-- What is told of a function or method. -/
structure Notes where
  category : Category
  status : Status
  summary : String
  description : String
  /-- Whether the result depends on more than the message. -/
  isImpure : Bool
  samples : List Sample
  deriving DecidableEq, Repr

namespace Notes

/-- Notes on something settled whose result depends on the message only. -/
def pure (category : Category) (summary description : String) (samples : List Sample) : Notes :=
  ⟨category, .stable, summary, description, false, samples⟩

/-- Notes on something settled whose result depends on more than the message. -/
def impure (category : Category) (summary description : String) (samples : List Sample) : Notes :=
  ⟨category, .stable, summary, description, true, samples⟩

end Notes

end Reshape
