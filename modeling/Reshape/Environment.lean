import Reshape.Catalog.Functions
import Reshape.Catalog.Methods
import Reshape.Error
import Reshape.Text.Blank
import Reshape.Value.Fields
import Reshape.Yaml.Reader

/-!
Environments: the functions and methods that expressions may call. An environment is narrowed by
leaving entries out, and an application may add entries of its own. Configurations of environments
are YAML texts: a setting that is not given has its standard value; what is no setting is refused.
-/

namespace Reshape

/-- A function or method that can be called, with what the catalog tells of it. -/
structure Entry (κ : Type) where
  called : κ
  notes : Notes
  deriving Repr

/-- The functions and methods that expressions may call, under their names. -/
structure Environment where
  functions : Fields (Entry Function)
  methods : Fields (Entry Method)
  /-- How many expressions may stand inside each other. -/
  depthLimit : Nat
  deriving Repr

/-- How an environment is narrowed. -/
structure Config where
  disabledFunctions : List String
  disabledMethods : List String
  /-- Whether all results have to depend on the message only. -/
  isPureOnly : Bool
  allowsDeprecated : Bool
  depthLimit : Nat
  deriving DecidableEq, Repr

/-- The depth limit where none is given. -/
def Environment.standardDepthLimit : Nat := 256

/-- The configuration that leaves everything in. -/
def Config.standard : Config :=
  ⟨[], [], false, true, Environment.standardDepthLimit⟩

/-- The functions of every environment that is not narrowed. -/
def Function.builtin : List Function :=
  [.deleted, .nothing, .throw, .range, .var, .content, .json, .incoming, .working, .batchIndex,
    .batchSize, .tracingId, .tracingSpan, .env, .now, .timestampUnix, .uuid, .counter, .randomInt,
    .count]

/-- The methods of every environment that is not narrowed. -/
def Method.builtin : List Method :=
  [.type, .notNull, .or, .catch, .bool, .notEmpty, .ceil, .floor, .round, .abs, .number, .int64,
    .uint64, .float64, .uppercase, .lowercase, .trim, .capitalize, .length, .contains, .hasPrefix,
    .hasSuffix, .replaceAll, .split, .reverse, .slice, .string, .bytes, .format, .quote, .hash,
    .encode, .decode, .parseJson, .formatJson, .reMatch, .reFindAll, .reReplaceAll, .mapEach,
    .filter, .any, .all, .fold, .sort, .sortBy, .sum, .join, .keys, .values, .index, .append,
    .merge, .without, .exists, .get, .flatten, .unique]

namespace Environment

/-- Whether a name is made of words of lower-case letters and digits with low lines between them. -/
def isName (name : String) : Bool :=
  (List.splitOn '_' name.toList).all fun word =>
    !word.isEmpty && word.all fun c => ('a' ≤ c && c ≤ 'z') || ('0' ≤ c && c ≤ '9')

/-- The entries with one more under its name, which must be a name and free. -/
def add {κ : Type} (kind name : String) (entry : Entry κ) (entries : Fields (Entry κ)) :
    Except Error (Fields (Entry κ)) :=
  if !isName name then .error (.general (.invalidName kind name))
  else if (entries.get? name).isSome then .error (.general (.takenName kind name))
  else .ok (entries.insert name entry)

/-- The environment without any function or method. -/
def empty : Environment := ⟨[], [], standardDepthLimit⟩

/-- The environment with one more function. -/
def addFunction (environment : Environment) (function : Function) : Except Error Environment := do
  let functions ← add "function" function.name ⟨function, function.notes⟩ environment.functions
  return { environment with functions }

/-- The environment with one more method. -/
def addMethod (environment : Environment) (method : Method) : Except Error Environment := do
  let methods ← add "method" method.name ⟨method, method.notes⟩ environment.methods
  return { environment with methods }

/-- The environment with all functions and methods. -/
def standard : Environment :=
  { functions := .ofList (Function.builtin.map fun function =>
      (function.name, ⟨function, function.notes⟩))
    methods := .ofList (Method.builtin.map fun method => (method.name, ⟨method, method.notes⟩))
    depthLimit := standardDepthLimit }

/-- The environment without the functions of given names. -/
def withoutFunctions (environment : Environment) (names : List String) : Environment :=
  { environment with
    functions := environment.functions.filter fun (name, _) => !names.contains name }

/-- The environment without the methods of given names. -/
def withoutMethods (environment : Environment) (names : List String) : Environment :=
  { environment with
    methods := environment.methods.filter fun (name, _) => !names.contains name }

/-- The environment with the entries whose notes a test accepts. -/
def keep (test : Notes → Bool) (environment : Environment) : Environment :=
  { environment with
    functions := environment.functions.filter fun (_, entry) => test entry.notes
    methods := environment.methods.filter fun (_, entry) => test entry.notes }

/-- The environment without what depends on more than the message. -/
def onlyPure (environment : Environment) : Environment :=
  environment.keep fun notes => !notes.isImpure

/-- The environment without what is deprecated. -/
def withoutDeprecated (environment : Environment) : Environment :=
  environment.keep fun notes => notes.status ≠ .deprecated

/-- The environment with all functions and methods that a configuration leaves in. -/
def ofConfig (config : Config) : Environment :=
  let narrowed :=
    (standard.withoutFunctions config.disabledFunctions).withoutMethods config.disabledMethods
  let narrowed := if config.isPureOnly then narrowed.onlyPure else narrowed
  let narrowed := if config.allowsDeprecated then narrowed else narrowed.withoutDeprecated
  { narrowed with depthLimit := config.depthLimit }

/-- The entry of a name. -/
def entry {κ : Type} (kind name : String) (entries : Fields (Entry κ)) : Except Error (Entry κ) :=
  match entries.get? name with
  | some found => .ok found
  | none => .error (.unknown kind name)

end Environment

namespace Config

/-- The names of the settings. -/
def settings : List String :=
  ["disabled_functions", "disabled_methods", "only_pure", "allow_deprecated", "max_depth"]

/-- The texts of a sequence. -/
def names? (node : Yaml) : Option (List String) := do
  (← node.items?).mapM Yaml.text?

/-- The configuration that a node gives. -/
def ofYaml? (node : Yaml) : Option Config := do
  let members ← node.members?
  if members.any fun (name, _) => !settings.contains name then none
  return {
    disabledFunctions :=
      ← Yaml.member? "disabled_functions" standard.disabledFunctions names? members
    disabledMethods := ← Yaml.member? "disabled_methods" standard.disabledMethods names? members
    isPureOnly := ← Yaml.member? "only_pure" standard.isPureOnly Yaml.truth? members
    allowsDeprecated :=
      ← Yaml.member? "allow_deprecated" standard.allowsDeprecated Yaml.truth? members
    depthLimit := ← Yaml.member? "max_depth" standard.depthLimit Yaml.natural? members }

/-- The configuration of a text; a blank one changes nothing. -/
def parse (source : String) : Except Error Config :=
  if source.toList.all Text.isBlank then .ok standard
  else match (Yaml.parse? source).bind ofYaml? with
    | some config => .ok config
    | none => .error (.general .malformedConfig)

end Config

end Reshape
