import Reshape.Builtin.Collection
import Reshape.Builtin.Function
import Reshape.Builtin.Method
import Reshape.Builtin.Numeric
import Reshape.Builtin.Prepared
import Reshape.Builtin.Template
import Reshape.Call.Binding
import Reshape.Call.Parameter
import Reshape.Catalog.Basic
import Reshape.Catalog.Functions
import Reshape.Catalog.Listing
import Reshape.Catalog.Methods
import Reshape.Codec.Scheme
import Reshape.Codec.Sha2
import Reshape.CommandLine.Command
import Reshape.CommandLine.Difference
import Reshape.CommandLine.Run
import Reshape.Conformance
import Reshape.Conformance.Suite
import Reshape.Environment
import Reshape.Error
import Reshape.Eval.Call
import Reshape.Eval.Context
import Reshape.Eval.Denote
import Reshape.Eval.Memory
import Reshape.Eval.Operation
import Reshape.Eval.Query
import Reshape.Expr.Basic
import Reshape.Expr.Compile
import Reshape.Expr.Dependency
import Reshape.Expr.Operator
import Reshape.Grammar.Match
import Reshape.Grammar.Pattern
import Reshape.Grammar.Term
import Reshape.Json.Basic
import Reshape.Json.Reader
import Reshape.Json.Writer
import Reshape.Main
import Reshape.Mapping
import Reshape.Message
import Reshape.Number.Binary64
import Reshape.Number.Decimal
import Reshape.Number.Numeral
import Reshape.Proofs.Builtin.Prepared
import Reshape.Proofs.Call.Argument
import Reshape.Proofs.Call.Binding
import Reshape.Proofs.Eval.Agreement
import Reshape.Proofs.Eval.Call
import Reshape.Proofs.Eval.Collection
import Reshape.Proofs.Eval.Denote
import Reshape.Proofs.Eval.Specialise
import Reshape.Proofs.Eval.Fold
import Reshape.Proofs.Eval.Inputs
import Reshape.Proofs.Eval.Lexical
import Reshape.Proofs.Eval.Noninterference
import Reshape.Proofs.Eval.Query
import Reshape.Proofs.Eval.Truth
import Reshape.Proofs.Eval.Visit
import Reshape.Proofs.Expr.Constant
import Reshape.Proofs.Expr.Filled
import Reshape.Proofs.Expr.Match
import Reshape.Proofs.Expr.Part
import Reshape.Proofs.Expr.Reads
import Reshape.Proofs.Expr.Scope
import Reshape.Proofs.Expr.Coverage
import Reshape.Random
import Reshape.Regex.CharSet
import Reshape.Regex.Pattern
import Reshape.Regex.Search
import Reshape.Storage
import Reshape.Storage.Snapshot
import Reshape.Text.Blank
import Reshape.Text.Casing
import Reshape.Text.Cluster
import Reshape.Text.Quoted
import Reshape.Text.Search
import Reshape.Text.Table
import Reshape.Text.Tables.Casing
import Reshape.Text.Tables.Category
import Reshape.Text.Tables.Clusters
import Reshape.Text.Tables.Letters
import Reshape.Text.Utf8
import Reshape.Value.Arithmetic
import Reshape.Value.Basic
import Reshape.Value.Fields
import Reshape.Value.Json
import Reshape.Value.Order
import Reshape.Value.Path
import Reshape.Value.Text
import Reshape.Yaml.Basic
import Reshape.Yaml.Scalar
import Reshape.Yaml.Reader
import Reshape.Yaml.Token
import Reshape.Proofs.Value.Path
import Reshape.Proofs.Mapping.Deletion
import Reshape.Proofs.Eval.Ensures
import Reshape.Proofs.Value.Atom
import Reshape.Proofs.Value.Contract
import Reshape.Proofs.Builtin.Contract
import Reshape.Proofs.Call.Contract
import Reshape.Proofs.Eval.Contract
import Reshape.Proofs.Eval.Invocation
import Reshape.Proofs.Eval.Plain
import Reshape.Proofs.Grammar.Term
import Reshape.Proofs.Mapping.Contract
import Reshape.Proofs.Mapping.Failure
import Reshape.Proofs.Mapping.Marker
import Reshape.Proofs.Number.Binary64
import Reshape.Proofs.Number.Decimal
import Reshape.Proofs.Text.Utf8
import Reshape.Proofs.Json.Number
import Reshape.Proofs.Json.Reader
import Reshape.Proofs.Json.Writer
import Reshape.Proofs.Value.Json
import Reshape.Proofs.Mapping.PassThrough
import Reshape.Proofs.Counter.Refinement
import Reshape.Proofs.Eval.Stateful
import Reshape.Proofs.Eval.Isolation
import Reshape.Proofs.Mapping.Isolation
import Reshape.Proofs.Value.Data
import Reshape.Proofs.Environment.Narrowing
import Reshape.Proofs.Expr.Precedence
import Reshape.Proofs.Value.Slot
import Reshape.Proofs.Counter.Registry
import Reshape.Proofs.Text.Ascii
import Reshape.Proofs.Codec.Scheme
import Reshape.Proofs.Random.Sequence
import Reshape.Proofs.Expr.Steady
import Reshape.Proofs.Conformance.Findings
import Reshape.Proofs.Conformance.Broken
import Reshape.Proofs.Grammar.Yields
import Reshape.Proofs.Grammar.Extend
import Reshape.Proofs.Grammar.Sequence
import Reshape.Proofs.Grammar.Shape
import Reshape.Proofs.Grammar.Nesting
import Reshape.Proofs.Expr.Nesting
import Reshape.Proofs.Mapping.Nesting
import Reshape.Proofs.Expr.Same
import Reshape.Proofs.Grammar.Same
import Reshape.Proofs.Mapping.Sequence
import Reshape.Proofs.Grammar.Respelled
import Reshape.Proofs.Mapping.Respelled
import Reshape.Proofs.Builtin.Merge
import Reshape.Proofs.Builtin.NaturalSort
import Reshape.Proofs.Builtin.Sum
import Reshape.Proofs.Builtin.Unique
import Reshape.Proofs.Builtin.Without
import Reshape.Proofs.Eval.Operation
import Reshape.Proofs.Value.Exact
import Reshape.Proofs.Call.Conversion
import Reshape.Proofs.Call.WellFormed
import Reshape.Proofs.Text.Encoded
import Reshape.Proofs.Builtin.Range
import Reshape.Proofs.Builtin.Slice
import Reshape.Proofs.Builtin.Template
import Reshape.Proofs.Text.Pieces
import Reshape.Proofs.Expr.Leaves
import Reshape.Proofs.Eval.Move
import Reshape.Proofs.Eval.Selection
