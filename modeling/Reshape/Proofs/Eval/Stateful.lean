import Reshape.Proofs.Counter.Node
import Reshape.Proofs.Random.Node

/-!
Functions with a memory of their own: counters and generators of random integers. A call of one that
fails changes what is kept only if it settles, once for all later calls, the bounds of the counter or
the seed of the generator.
-/

namespace Reshape

namespace Counter

/-- A call settles the bounds of its counter: it finds none, and its own are valid. -/
def Settles (counter : Counter) (site : Site) (turn : Turn) : Prop :=
  turn.found = none ∧ ((counter.request site turn).valid?).isSome

variable {counter : Counter} {site : Site}

end Counter

namespace RandomInt

variable {random : RandomInt} {site : Site}

end RandomInt

section Sample

/-- The arguments of `counter(min: this.min, max: 10, set: this.set)`. -/
def Counter.fieldArguments : List (Argument Expr) :=
  [⟨some "min", .field .current ["min"]⟩, ⟨some "max", .literal (.int 10)⟩,
    ⟨some "set", .field .current ["set"]⟩]

/-- The counter that these arguments make. -/
def Counter.ofFields : Counter :=
  ⟨.field .current ["min"], .literal (.int 10), some (.field .current ["set"])⟩

/-- The arguments of `random_int(seed: this.seed, max: 10)`. -/
def RandomInt.fieldArguments : List (Argument Expr) :=
  [⟨some "seed", .field .current ["seed"]⟩, ⟨some "max", .literal (.int 10)⟩]

/-- The generator that these arguments make. -/
def RandomInt.ofFields : RandomInt := ⟨.field .current ["seed"], 0, 10⟩

end Sample

end Reshape
