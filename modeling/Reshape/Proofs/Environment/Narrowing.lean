import Mathlib.Data.List.Basic
import Reshape.Mapping
import Reshape.Proofs.Expr.Match
import Reshape.Proofs.Expr.Narrowed
import Reshape.Proofs.Value.Fields

/-!
Narrowed environments: what the configuration of an environment removes, that its filters can be
applied in any order, and that a source which compiles without what is removed means the same. A
configuration adds nothing, so that constants of an application are only in environments that the
application has added them to.
-/

namespace Reshape

/-- What is found in fields of which some are left out is what was found before, unless it is left
out. -/
theorem Fields.get?_filter {α : Type} {name : String} {fields : Fields α} (ordered : fields.Ordered)
    (keep : String × α → Bool) :
    get? name (fields.filter keep) =
      (fields.get? name).filter fun value => keep (name, value) := by
  induction fields with
  | nil => rfl
  | cons field rest ih =>
    obtain ⟨other, value⟩ := field
    obtain ⟨above, ordered⟩ := ordered_cons.1 ordered
    by_cases same : other = name
    · -- A name occurs only once, so nothing is found under it in the rest.
      have absent : get? name rest = none := by
        rw [Option.eq_none_iff_forall_ne_some]
        intro value found
        exact String.lt_irrefl _ (same ▸ above _ (mem_of_get? found))
      by_cases kept : keep (name, value) = true <;>
        simp [get?, same, kept, ih ordered, absent, Option.filter]
    · by_cases kept : keep (other, value) = true <;> simp [get?, kept, same, ih ordered]

namespace Environment

/-- What the catalog tells of what is called, if the environment has it. -/
def notes? (environment : Environment) : Called → Option Notes
  | .function name => (environment.functions.get? name).map Entry.notes
  | .method name => (environment.methods.get? name).map Entry.notes

/-- One way to narrow an environment. -/
inductive Filter where
  | withoutFunctions (names : List String)
  | withoutMethods (names : List String)
  | onlyPure
  | withoutDeprecated
  deriving DecidableEq, Repr

/-- Whether a filter leaves in what is called and has notes. -/
def Filter.keeps (filter : Filter) (called : Called) (notes : Notes) : Bool :=
  match filter, called with
  | .withoutFunctions names, .function name => !names.contains name
  | .withoutMethods names, .method name => !names.contains name
  | .withoutFunctions _, .method _ | .withoutMethods _, .function _ => true
  | .onlyPure, _ => !notes.isImpure
  | .withoutDeprecated, _ => notes.status ≠ .deprecated

/-- The environment that a filter leaves. -/
def narrow (environment : Environment) : Filter → Environment
  | .withoutFunctions names => environment.withoutFunctions names
  | .withoutMethods names => environment.withoutMethods names
  | .onlyPure => environment.onlyPure
  | .withoutDeprecated => environment.withoutDeprecated

/-- The environment with what a test accepts. -/
def restrict (environment : Environment) (accepts : Called → Notes → Bool) : Environment :=
  { environment with
    functions := environment.functions.filter fun (name, entry) =>
      accepts (.function name) entry.notes
    methods := environment.methods.filter fun (name, entry) =>
      accepts (.method name) entry.notes }

/-- An environment is not changed by a test that accepts everything. -/
theorem restrict_true (environment : Environment) :
    environment.restrict (fun _ _ => true) = environment := by
  simp [restrict]

/-- Of two tests, a part of the environment has to pass both. -/
theorem restrict_restrict (environment : Environment) (accepts accepts' : Called → Notes → Bool) :
    (environment.restrict accepts).restrict accepts' =
      environment.restrict fun called notes => accepts called notes && accepts' called notes := by
  simp [restrict, List.filter_filter, Bool.and_comm]

/-- A filter leaves in what it keeps. -/
theorem narrow_eq (environment : Environment) (filter : Filter) :
    environment.narrow filter = environment.restrict filter.keeps := by
  cases filter <;>
    simp [narrow, withoutFunctions, withoutMethods, onlyPure, withoutDeprecated, keep, restrict,
      Filter.keeps]

/-- Filters leave in what all of them keep. -/
theorem foldl_narrow_eq (filters : List Filter) (environment : Environment) :
    filters.foldl narrow environment =
      environment.restrict fun called notes =>
        filters.all fun filter => filter.keeps called notes := by
  induction filters generalizing environment with
  | nil => exact environment.restrict_true.symm
  | cons filter rest ih =>
    simp only [List.foldl_cons, List.all_cons, ih, narrow_eq, restrict_restrict]

/-- The order of filters does not matter. -/
theorem foldl_narrow_perm {filters filters' : List Filter} (permuted : filters.Perm filters')
    (environment : Environment) :
    filters.foldl narrow environment = filters'.foldl narrow environment := by
  simp only [foldl_narrow_eq, permuted.all_eq]

end Environment

namespace Config

/-- The filters that a configuration asks for. -/
def filters (config : Config) : List Environment.Filter :=
  [.withoutFunctions config.disabledFunctions, .withoutMethods config.disabledMethods] ++
    (if config.isPureOnly then [.onlyPure] else []) ++
    if config.allowsDeprecated then [] else [.withoutDeprecated]

/-- The configuration disables what is called by its name. -/
def Disables (config : Config) : Called → Prop
  | .function name => name ∈ config.disabledFunctions
  | .method name => name ∈ config.disabledMethods

/-- The configuration removes what is called from the standard environment: by its name, because it
is impure or because it is deprecated. -/
def Removes (config : Config) (called : Called) : Prop :=
  ∃ notes, Environment.standard.notes? called = some notes ∧
    (config.Disables called ∨ (config.isPureOnly = true ∧ notes.isImpure = true) ∨
      (config.allowsDeprecated = false ∧ notes.status = .deprecated))

/-- What a configuration removes is what one of its filters does not keep. -/
theorem not_keeps_iff {config : Config} {called : Called} {notes : Notes} :
    ¬config.filters.all (fun filter => filter.keeps called notes) = true ↔
      config.Disables called ∨ (config.isPureOnly = true ∧ notes.isImpure = true) ∨
        (config.allowsDeprecated = false ∧ notes.status = .deprecated) := by
  obtain ⟨functions, methods, isPureOnly, allowsDeprecated, limit⟩ := config
  -- Which filters there are depends on the two flags.
  cases called <;> cases isPureOnly <;> cases allowsDeprecated <;>
    simp [Disables, filters, Environment.Filter.keeps, Decidable.or_iff_not_imp_left]

end Config

namespace Environment

/-- The environment of a configuration is what its filters leave of the standard one. -/
theorem ofConfig_eq (config : Config) :
    ofConfig config =
      { config.filters.foldl narrow standard with depthLimit := config.depthLimit } := by
  obtain ⟨functions, methods, isPureOnly, allowsDeprecated, limit⟩ := config
  cases isPureOnly <;> cases allowsDeprecated <;> rfl

/-- A function of the environment of a configuration is one of the standard environment that all
filters keep. -/
theorem get?_functions_ofConfig (config : Config) (name : String) :
    (ofConfig config).functions.get? name =
      (standard.functions.get? name).filter fun entry =>
        config.filters.all fun filter => filter.keeps (.function name) entry.notes := by
  rw [ofConfig_eq, foldl_narrow_eq]
  exact Fields.get?_filter (Fields.ordered_ofList _) _

/-- A method of the environment of a configuration is one of the standard environment that all
filters keep. -/
theorem get?_methods_ofConfig (config : Config) (name : String) :
    (ofConfig config).methods.get? name =
      (standard.methods.get? name).filter fun entry =>
        config.filters.all fun filter => filter.keeps (.method name) entry.notes := by
  rw [ofConfig_eq, foldl_narrow_eq]
  exact Fields.get?_filter (Fields.ordered_ofList _) _

/-- What is found after a test is what was found, or nothing. -/
private theorem filter_eq_or_none {α : Type} (accepts : α → Bool) (found : Option α) :
    found.filter accepts = found ∨ found.filter accepts = none := by
  cases found with
  | none => exact .inl rfl
  | some value => by_cases kept : accepts value = true <;> simp [kept]

/-- A configuration with the standard limit narrows the standard environment. -/
theorem narrows_ofConfig {config : Config} (limit : config.depthLimit = standardDepthLimit) :
    (ofConfig config).Narrows standard where
  -- Each name is kept with its signature or removed.
  functions name := by
    rw [get?_functions_ofConfig]
    exact filter_eq_or_none _ _
  methods name := by
    rw [get?_methods_ofConfig]
    exact filter_eq_or_none _ _
  depthLimit := limit

/-- The environment of a configuration differs from the standard one on what is removed. -/
theorem agreeOn_ofConfig {config : Config} {called : Called} :
    (ofConfig config).AgreeOn standard called ↔ ¬config.Removes called := by
  simp only [Config.Removes, ← Config.not_keeps_iff]
  -- A filter that removes an entry leaves nothing under its name, where there was something.
  cases called with
  | function name =>
    simp only [AgreeOn, get?_functions_ofConfig, notes?]
    cases standard.functions.get? name <;> simp [Option.filter_eq_some_iff]
  | method name =>
    simp only [AgreeOn, get?_methods_ofConfig, notes?]
    cases standard.methods.get? name <;> simp [Option.filter_eq_some_iff]

/-- No function that the environment calls is a constant that is a marker. -/
def Unmarked (environment : Environment) : Prop :=
  ∀ name label value, Compile.Calls name environment.functions (.constant label value) →
    value.isMarker = false

/-- An environment with no functions but those of every environment has no markers among them. -/
theorem unmarked_of_builtin {environment : Environment}
    (builtin : ∀ entry ∈ environment.functions, entry.2.called ∈ Function.builtin) :
    environment.Unmarked := by
  rintro name label value ⟨entry, found, called⟩
  have member := builtin _ (Fields.mem_of_get? found)
  rw [called] at member
  -- None of the functions of every environment is a constant.
  simp [Function.builtin] at member

/-- The functions of the standard environment are those of every environment. -/
theorem standard_builtin : ∀ entry ∈ standard.functions, entry.2.called ∈ Function.builtin := by
  intro entry member
  -- The standard environment is made of these functions.
  obtain ⟨function, builtin, rfl⟩ := List.mem_map.1 (Fields.mem_ofList member)
  exact builtin

/-- The standard environment has no markers among its functions. -/
theorem standard_unmarked : standard.Unmarked := unmarked_of_builtin standard_builtin

end Environment

namespace Mapping

open Compile (Narrowed)

/-- The calls that are written in a source. -/
def calls (source : String) : List Called :=
  match Sentence.read source with
  | .ok sentences => sentences.flatMap fun sentence => sentence.term.calls
  | .error _ => []

section Narrowed

variable {narrow wide : Environment}

/-- The compilation of a statement is narrowed. -/
theorem statement_narrowed (narrows : narrow.Narrows wide) (sentence : Sentence) :
    Narrowed narrow wide sentence.term.calls (statement narrow sentence)
      (statement wide sentence) := by
  have targets : Narrowed narrow wide [] (target sentence.place) (target sentence.place) := .refl _
  refine targets.bind fun target => ?_
  exact (Term.compile_narrowed narrows 0 [] sentence.term).andThen _

/-- The compilation of statements is narrowed. -/
theorem statements_narrowed (narrows : narrow.Narrows wide) (sentences : List Sentence) :
    Narrowed narrow wide (sentences.flatMap fun sentence => sentence.term.calls)
      (sentences.mapM (statement narrow)) (sentences.mapM (statement wide)) := by
  -- Statements are compiled one after the other.
  induction sentences with
  | nil => exact .refl _
  | cons sentence rest ih =>
    rw [List.mapM_cons, List.mapM_cons, List.flatMap_cons]
    exact (statement_narrowed narrows sentence).bind fun _ => ih.andThen _

/-- The compilation of a source is narrowed. -/
theorem compile_narrowed (narrows : narrow.Narrows wide) (source : String) :
    Narrowed narrow wide (calls source) (compile narrow source) (compile wide source) := by
  unfold calls compile
  cases Sentence.read source with
  | error diagnostic => exact .refl _
  | ok sentences => exact (statements_narrowed narrows sentences).andThen _

end Narrowed

/-- What a source is compiled to does not depend on what a configuration removes: a source that
compiles in the environment of the configuration is compiled to the same mapping, with the same
warnings, in the standard environment; a source that compiles in the standard environment does so in
the other one just if it calls nothing that is removed; and the filters of the configuration give
its environment in any order. -/
theorem compile_ofConfig (config : Config)
    (limit : config.depthLimit = Environment.standardDepthLimit) (source : String) :
    (∀ warnings mapping after,
      (compile (.ofConfig config) source).run.run warnings = (.ok mapping, after) →
        (compile .standard source).run.run warnings = (.ok mapping, after)) ∧
    (∀ warnings mapping after,
      (compile .standard source).run.run warnings = (.ok mapping, after) →
        ((compile (.ofConfig config) source).run.run warnings = (.ok mapping, after) ↔
          ∀ called ∈ calls source, ¬config.Removes called)) ∧
    (∀ filters : List Environment.Filter, filters.Perm config.filters →
      filters.foldl Environment.narrow .standard = .ofConfig config) := by
  have narrowed := compile_narrowed (Environment.narrows_ofConfig limit) source
  -- A source with a result in the narrow environment calls nothing that is removed.
  have kept (warnings : List String) (mapping : Mapping) (after : List String)
      (gives : (compile (.ofConfig config) source).run.run warnings = (.ok mapping, after)) :
      ∀ called ∈ calls source, ¬config.Removes called := by
    intro called member
    rw [← Environment.agreeOn_ofConfig]
    by_contra lost
    obtain ⟨error, between, failed⟩ := narrowed.fails called member lost warnings
    cases gives.symm.trans failed
  have same (kept : ∀ called ∈ calls source, ¬config.Removes called) :
      compile (.ofConfig config) source = compile .standard source :=
    narrowed.same fun called member => Environment.agreeOn_ofConfig.2 (kept called member)
  refine ⟨fun warnings mapping after gives => ?_, fun warnings mapping after gives => ?_,
    fun filters permuted => ?_⟩
  · rw [← same (kept warnings mapping after gives)]
    exact gives
  · refine ⟨kept warnings mapping after, fun kept => ?_⟩
    rw [same kept]
    exact gives
  · rw [Environment.foldl_narrow_perm permuted, Environment.ofConfig_eq, limit,
      Environment.foldl_narrow_eq]
    rfl

section Sample

/-- A configuration that removes a function, a method and all that is impure or deprecated. -/
def secluded : Config := ⟨["batch_size"], ["hash"], true, false, Environment.standardDepthLimit⟩

/-- A source that calls nothing that is removed compiles to the same mapping, one that calls a
removed function compiles in the standard environment only, and the filters can be reversed. -/
theorem compile_ofConfig_secluded :
    (∃ mapping after,
      (compile (.ofConfig secluded) "root = this.name.uppercase()").run.run [] =
          (.ok mapping, after) ∧
        (compile .standard "root = this.name.uppercase()").run.run [] = (.ok mapping, after)) ∧
    (∃ mapping after,
      (compile .standard "root = [1, batch_size()]").run.run [] = (.ok mapping, after) ∧
        (compile (.ofConfig secluded) "root = [1, batch_size()]").run.run [] ≠
          (.ok mapping, after) ∧
        ∃ called ∈ calls "root = [1, batch_size()]", secluded.Removes called) ∧
    secluded.filters.reverse.foldl Environment.narrow .standard = .ofConfig secluded := by
  -- That both sources compile and what they call is evaluated; the rest are cases of the theorem.
  have kept : (compile (.ofConfig secluded) "root = this.name.uppercase()").succeeds = true := by
    decide +kernel
  have wide : (compile .standard "root = [1, batch_size()]").succeeds = true := by decide +kernel
  have calls_size : calls "root = [1, batch_size()]" = [.function "batch_size"] := by
    decide +kernel
  obtain ⟨mapping, after, gives⟩ := Compile.exists_of_succeeds kept
  obtain ⟨mapping', after', gives'⟩ := Compile.exists_of_succeeds wide
  have removed : secluded.Removes (.function "batch_size") :=
    ⟨Function.batchSize.notes, by decide +kernel, .inl (.head _)⟩
  refine ⟨⟨mapping, after, gives, ?_⟩, ⟨mapping', after', gives', fun same => ?_, ?_⟩, ?_⟩
  · exact (compile_ofConfig secluded rfl _).1 [] mapping after gives
  · have kept := ((compile_ofConfig secluded rfl _).2.1 [] mapping' after' gives').1 same
    exact kept (.function "batch_size") (by rw [calls_size]; exact .head _) removed
  · exact ⟨_, by rw [calls_size]; exact .head _, removed⟩
  · exact (compile_ofConfig secluded rfl "").2.2 _ secluded.filters.reverse_perm

end Sample

end Mapping

end Reshape
