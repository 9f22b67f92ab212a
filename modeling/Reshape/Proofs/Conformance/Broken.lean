import Reshape.Proofs.Conformance.Findings
import Reshape.Storage.Snapshot

/-!
Broken suites: whatever the files below a directory are, a suite that cannot be loaded counts as a
failure under its path, and so does one whose mapping does not compile just if one of its cases is
not skipped. All other findings are those without the file.
-/

namespace Reshape

namespace Storage

/-- Storage without the file at a path. -/
def without (storage : Storage Id) (path : String) : Storage Id :=
  { storage with
    read := fun other => if other = path then Except.error .missing else storage.read other
    files := fun root => (storage.files root).filter (· ≠ path) }

/-- Other files have the same content without it. -/
theorem readText_without (storage : Storage Id) {path other : String} (apart : other ≠ path) :
    (storage.without path).readText other = storage.readText other := by
  change textOf (if other = path then _ else _) = _
  rw [if_neg apart]
  rfl

end Storage

/-- Whether a case has failed. -/
def Verdict.isFailed : Verdict → Bool
  | .failed .. => true
  | _ => false

/-- The failures of a summary are the findings that have failed. -/
theorem Summary.failed_of (findings : List Finding) :
    (Summary.of findings).failed = findings.countP (·.verdict.isFailed) := by
  -- The counts go on from those of the findings before.
  rw [Summary.of, ← Nat.zero_add (findings.countP _)]
  change _ = (⟨0, 0, 0⟩ : Summary).failed + _
  generalize (⟨0, 0, 0⟩ : Summary) = summary
  induction findings generalizing summary with
  | nil => rfl
  | cons finding rest ih =>
    rw [List.foldl_cons, ih, List.countP_cons]
    cases finding.verdict with
    | failed => exact Nat.add_right_comm ..
    | passed => rfl
    | skipped => rfl

section Order

variable {α : Type} {le : α → α → Bool}

/-- Where an item is put into a sorted sequence: behind all items that it does not precede. -/
theorem mergeSort_cons_filter (trans : ∀ a b c, le a b → le b c → le a c)
    (total : ∀ a b, le a b || le b a) (a : α) (rest : List α) :
    (a :: rest).mergeSort le =
      (rest.mergeSort le).filter (fun b => !le a b) ++
        a :: (rest.mergeSort le).filter (fun b => le a b) := by
  -- The item stands between those that it does not precede and those that it does.
  obtain ⟨before, behind, whole, others, early⟩ := List.mergeSort_cons trans total a rest
  have sorted := List.pairwise_mergeSort trans total (a :: rest)
  rw [whole, List.pairwise_append, List.pairwise_cons] at sorted
  have late : ∀ b ∈ behind, le a b = true := sorted.2.1.1
  have none : before.filter (fun b => le a b) = [] :=
    List.filter_eq_nil_iff.2 fun b member => by simpa using early b member
  have gone : behind.filter (fun b => !le a b) = [] :=
    List.filter_eq_nil_iff.2 fun b member => by simpa using late b member
  rw [whole, others, List.filter_append, List.filter_append, List.filter_eq_self.2 early,
    List.filter_eq_self.2 late, none, gone, List.append_nil, List.nil_append]

/-- What is left of a sorted sequence is what is left of the sequence, sorted. -/
theorem mergeSort_filter (trans : ∀ a b c, le a b → le b c → le a c)
    (total : ∀ a b, le a b || le b a) (keeps : α → Bool) (items : List α) :
    (items.filter keeps).mergeSort le = (items.mergeSort le).filter keeps := by
  induction items with
  | nil => simp
  | cons a rest ih =>
    rw [List.filter_cons]
    split
    next kept =>
      rw [mergeSort_cons_filter trans total, mergeSort_cons_filter trans total, ih,
        List.filter_append, List.filter_cons_of_pos kept]
      simp only [List.filter_filter, Bool.and_comm]
    next dropped =>
      -- Without the item the sorted sequence is as it stands around it.
      obtain ⟨before, behind, whole, others, _⟩ := List.mergeSort_cons trans total a rest
      rw [ih, others, whole, List.filter_append, List.filter_append,
        List.filter_cons_of_neg dropped]

end Order

namespace Suite

variable {environment : Environment} {surroundings : Surroundings} {path : String}
variable {suites : List (String × Except Error Suite)} {shared : Shared}

/-- The order of paths is transitive. -/
theorem precedes_trans (a b c : String) (first : precedes a b) (second : precedes b c) :
    precedes a c := by
  simp only [precedes, Bool.not_eq_true', decide_eq_false_iff_not] at first second ⊢
  exact fun less => second (Std.lt_of_lt_of_le less (Std.not_lt.1 first))

/-- Of two paths one stands no later than the other. -/
theorem precedes_total (a b : String) : precedes a b || precedes b a := by
  simp only [precedes, Bool.or_eq_true, Bool.not_eq_true', decide_eq_false_iff_not]
  by_contra both
  rw [not_or, not_not, not_not] at both
  exact List.lt_asymm both.1 both.2

/-- Without a file its path is not found, and all others are. -/
theorem discover_without (storage : Storage Id) (root path : String) :
    (discover (storage.without path) root).run =
      (discover storage root).run.filter (· ≠ path) := by
  change select ((storage.files root).filter (· ≠ path)) =
    (select (storage.files root)).filter (· ≠ path)
  unfold select
  rw [← mergeSort_filter precedes_trans precedes_total, List.filter_filter, List.filter_filter]
  simp only [Bool.and_comm]

/-- The suite at a path, or why there is none. -/
def loaded (storage : Storage Id) (path : String) : Except Error Suite :=
  load path (storage.readText path)

/-- What is loaded are the suites at the paths that are found. -/
theorem loadAll_eq (storage : Storage Id) (root : String) :
    (loadAll storage root).run =
      (discover storage root).run.map fun path => (path, loaded storage path) :=
  List.mapM_pure

/-- Without a file its suite is not loaded, and all others are. -/
theorem loadAll_without (storage : Storage Id) (root path : String) :
    (loadAll (storage.without path) root).run =
      (loadAll storage root).run.filter fun entry => entry.1 ≠ path := by
  rw [loadAll_eq, loadAll_eq, discover_without, List.filter_map]
  refine List.map_congr_left fun other member => ?_
  have apart : other ≠ path := by simpa using (List.mem_filter.1 member).2
  rw [loaded, loaded, storage.readText_without apart]

/-- The check of suites goes from one to the next. -/
theorem runAll_cons (entry : String × Except Error Suite) :
    runAll environment surroundings (entry :: suites) = (do
      let first ← runLoaded environment surroundings entry.1 entry.2
      let others ← runAll environment surroundings suites
      return first ++ others) := by
  unfold runAll
  rw [List.mapM_cons]
  simp only [bind_assoc, pure_bind, List.flatten_cons]

/-- The check of suites is steady. -/
theorem steady_runAll (suites : List (String × Except Error Suite)) :
    Check.Steady (runAll environment surroundings suites) := by
  induction suites with
  | nil => exact Check.steady_pure []
  | cons entry rest ih =>
    rw [runAll_cons]
    exact (steady_runLoaded entry.2).bind fun _ => ih.map _

/-- The findings on suites are those on the first one, and then those on the others. -/
theorem outcome_runAll_cons (entry : String × Except Error Suite) (shared : Shared) :
    (runAll environment surroundings (entry :: suites)).outcome shared =
      let first := (runLoaded environment surroundings entry.1 entry.2).outcome shared
      let others := (runAll environment surroundings suites).outcome first.2
      (first.1 ++ others.1, others.2) := by
  rw [runAll_cons, Check.Steady.outcome_bind fun _ => (steady_runAll suites).map _]
  rfl

/-- There is one finding under each name of each suite, in order. -/
theorem names_runAll (suites : List (String × Except Error Suite)) (shared : Shared) :
    ((runAll environment surroundings suites).outcome shared).1.map
        (fun finding => (finding.source, finding.name)) =
      suites.flatMap fun entry => (titles entry.2).map (entry.1, ·) := by
  induction suites generalizing shared with
  | nil => rfl
  | cons entry rest ih =>
    rw [outcome_runAll_cons, List.flatMap_cons, List.map_append, names_runLoaded, ih]

/-- The findings on a suite are under its path. -/
theorem source_of_mem_runLoaded {entry : String × Except Error Suite} {finding : Finding}
    (member : finding ∈ ((runLoaded environment surroundings entry.1 entry.2).outcome shared).1) :
    finding.source = entry.1 := by
  have named := List.mem_map_of_mem (f := fun finding => (finding.source, finding.name)) member
  rw [names_runLoaded, List.mem_map] at named
  obtain ⟨_, _, same⟩ := named
  exact (congrArg Prod.fst same).symm

/-- Either all findings on a suite are under a path, or none is. -/
theorem filter_runLoaded (entry : String × Except Error Suite) (shared : Shared) (path : String) :
    let first := ((runLoaded environment surroundings entry.1 entry.2).outcome shared).1
    first.filter (·.source = path) = (if entry.1 = path then first else []) ∧
      first.filter (·.source ≠ path) = if entry.1 = path then [] else first := by
  -- All findings on an entry stand under its path.
  have sources : ∀ finding ∈
      ((runLoaded environment surroundings entry.1 entry.2).outcome shared).1,
      finding.source = entry.1 := fun finding => source_of_mem_runLoaded
  split
  next same =>
    refine ⟨List.filter_eq_self.2 fun finding member => ?_,
      List.filter_eq_nil_iff.2 fun finding member => ?_⟩ <;>
    simp [sources finding member, same]
  next apart =>
    refine ⟨List.filter_eq_nil_iff.2 fun finding member => ?_,
      List.filter_eq_self.2 fun finding member => ?_⟩ <;>
    simp [sources finding member, apart]

/-- The findings under the path of a broken suite are its complaints. Without it the others are the
same, and so is what they leave behind. -/
theorem outcome_runAll_broken (broken : ∀ entry ∈ suites, entry.1 = path →
      Broken environment entry.2) (shared : Shared) :
    ((runAll environment surroundings suites).outcome shared).1.filter (·.source = path) =
      (suites.filter (·.1 = path)).flatMap (fun entry => complaints environment path entry.2) ∧
    (runAll environment surroundings (suites.filter (·.1 ≠ path))).outcome shared =
      (((runAll environment surroundings suites).outcome shared).1.filter (·.source ≠ path),
        ((runAll environment surroundings suites).outcome shared).2) := by
  induction suites generalizing shared with
  | nil => exact ⟨rfl, rfl⟩
  | cons entry rest ih =>
    obtain ⟨own, further⟩ := List.forall_mem_cons.1 broken
    obtain ⟨mine, others⟩ := @filter_runLoaded environment surroundings entry shared path
    simp only [outcome_runAll_cons, List.filter_append, mine, others, (ih further _).1]
    by_cases same : entry.1 = path
    · -- The suite itself is left out, and has left nothing behind.
      obtain ⟨path', loaded⟩ := entry
      obtain rfl : path' = path := same
      simp only [if_true, (own rfl).outcome_runLoaded, List.filter_cons, decide_true,
        ne_eq, not_true_eq_false, decide_false, Bool.false_eq_true, if_false, List.flatMap_cons,
        List.nil_append, true_and]
      exact (ih further shared).2
    · simp only [same, if_false, List.filter_cons, decide_false, decide_true, Bool.false_eq_true,
        ne_eq, not_false_eq_true, if_true, List.nil_append, true_and, outcome_runAll_cons]
      have later := (ih further
        ((runLoaded environment surroundings entry.1 entry.2).outcome shared).2).2
      simp only [ne_eq] at later
      rw [later]

/-- A broken suite has a failure among its complaints just if it has something to fail. -/
theorem Broken.exists_failed {loaded : Except Error Suite} (broken : Broken environment loaded) :
    (∃ finding ∈ complaints environment path loaded, finding.verdict.isFailed = true) ↔
      Shows loaded := by
  -- A suite that is not loaded is reported itself, and one that is not compiled through its cases.
  cases broken with
  | unloaded error =>
    exact iff_of_true ⟨_, List.mem_singleton_self _, rfl⟩ fun suite same => by cases same
  | @uncompiled suite error refused =>
    rw [complaints_of_refused refused]
    constructor
    · rintro ⟨finding, member, failed⟩ _ ⟨⟩
      obtain ⟨⟨case, position⟩, inside, rfl⟩ := List.mem_map.1 member
      have among := List.fst_mem_of_mem_zipIdx inside
      refine ⟨case, among, ?_⟩
      cases skips : case.isSkipped with
      | false => rfl
      | true =>
        simp only [Case.blamed, skips, if_true] at failed
        cases failed
    · intro shows
      obtain ⟨case, member, runs⟩ := shows suite rfl
      rw [← List.zipIdx_map_fst 1 suite.cases] at member
      obtain ⟨⟨other, position⟩, inside, same⟩ := List.mem_map.1 member
      obtain rfl : other = case := same
      refine ⟨_, List.mem_map_of_mem inside, ?_⟩
      simp only [Case.blamed, runs, Bool.false_eq_true, if_false]
      rfl

/-- The findings on the suites below a directory. -/
def found (environment : Environment) (surroundings : Surroundings) (storage : Storage Id)
    (root : String) (shared : Shared) (warnings : List String) : List Finding :=
  (((runAll environment surroundings (loadAll storage root).run).run shared).run warnings).1.1

/-- What is found does not depend on earlier warnings. -/
theorem found_eq (storage : Storage Id) (root : String) (warnings : List String) :
    found environment surroundings storage root shared warnings =
      ((runAll environment surroundings (loadAll storage root).run).outcome shared).1 :=
  congrArg Prod.fst ((steady_runAll _).fst_run shared warnings)

variable {storage : Storage Id} {root : String} {warnings : List String}

/-- What is loaded under the path of a broken suite is broken. -/
theorem broken_of_mem_loadAll (broken : Broken environment (loaded storage path)) :
    ∀ entry ∈ (loadAll storage root).run, entry.1 = path → Broken environment entry.2 := by
  rw [loadAll_eq]
  intro entry inside same
  obtain ⟨other, _, rfl⟩ := List.mem_map.1 inside
  obtain rfl : other = path := same
  exact broken

/-- What is found under the path of a broken suite are its complaints. -/
theorem mem_found_iff (member : path ∈ (discover storage root).run)
    (broken : Broken environment (loaded storage path)) (finding : Finding) :
    finding ∈ found environment surroundings storage root shared warnings ∧
        finding.source = path ↔
      finding ∈ complaints environment path (loaded storage path) := by
  -- The findings under the path are those of its one entry, as the others stand under other paths.
  have own := (@outcome_runAll_broken environment surroundings path (loadAll storage root).run
    (broken_of_mem_loadAll broken) shared).1
  have same := congrArg (finding ∈ ·) own
  simp only [List.mem_filter, decide_eq_true_eq, List.mem_flatMap, eq_iff_iff] at same
  rw [found_eq, same, loadAll_eq]
  constructor
  · rintro ⟨entry, ⟨inside, stands⟩, complains⟩
    obtain ⟨other, _, rfl⟩ := List.mem_map.1 inside
    obtain rfl : other = path := stands
    exact complains
  · exact fun complains => ⟨_, ⟨List.mem_map_of_mem member, rfl⟩, complains⟩

/-- There is a failure under the path of a broken suite just if it has something to fail. -/
theorem exists_failed_iff (member : path ∈ (discover storage root).run)
    (broken : Broken environment (loaded storage path)) :
    (∃ finding ∈ found environment surroundings storage root shared warnings,
        finding.source = path ∧ finding.verdict.isFailed = true) ↔
      Shows (loaded storage path) := by
  rw [← @Broken.exists_failed environment path _ broken]
  exact exists_congr fun finding => by rw [← and_assoc, mem_found_iff member broken]

/-- When a broken suite is reported. Whatever the files below a directory are, there is a finding for
each case of each suite that is found, in the order of the paths and of the cases, and a single one
for a suite that cannot be loaded. For a suite that cannot be loaded, or whose mapping does not
compile, there is a failure under its path just if it has something to fail: if it cannot be loaded,
or has a case that is not skipped. The summary counts the failures, so that it has one then. The
findings under all other paths are those that there are without the file. -/
theorem broken_reported (environment : Environment) (surroundings : Surroundings)
    (storage : Storage Id) (root : String) (shared : Shared) (warnings : List String) :
    (found environment surroundings storage root shared warnings).map
        (fun finding => (finding.source, finding.name)) =
      (discover storage root).run.flatMap
        (fun path => (titles (loaded storage path)).map (path, ·)) ∧
    ∀ path ∈ (discover storage root).run, Broken environment (loaded storage path) →
      ((∃ finding ∈ found environment surroundings storage root shared warnings,
          finding.source = path ∧ finding.verdict.isFailed = true) ↔
        Shows (loaded storage path)) ∧
      (Shows (loaded storage path) →
        0 < (Summary.of (found environment surroundings storage root shared warnings)).failed) ∧
      found environment surroundings (storage.without path) root shared warnings =
        (found environment surroundings storage root shared warnings).filter
          (·.source ≠ path) := by
  -- The titles stand in the order of the files, and a broken file touches the findings of no other.
  refine ⟨?_, fun path member broken => ⟨exists_failed_iff member broken, fun shows => ?_, ?_⟩⟩
  · rw [found_eq, names_runAll, loadAll_eq, List.flatMap_map]
  · obtain ⟨finding, inside, _, failed⟩ := (exists_failed_iff member broken).2 shows
    rw [Summary.failed_of]
    exact List.countP_pos_iff.2 ⟨finding, inside, failed⟩
  · rw [found_eq, found_eq, loadAll_without]
    exact congrArg Prod.fst (outcome_runAll_broken (broken_of_mem_loadAll broken) shared).2

section Sample

/-- Storage with one file, the name of which says that it is a suite. -/
def holding (content : String) : Storage Id where
  read := fun path =>
    if path = "s/broken.yaml" then Except.ok (Utf8.ofText content) else .error .missing
  isDirectory := fun _ => true
  files := fun _ => ["s/broken.yaml"]
  input := []

/-- A mapping that calls an unknown function, without a case. -/
def unknownAlone : String := "mapping: root = nope()\n"

/-- A mapping that calls an unknown function, with a case. -/
def unknownInCase : String :=
  "mapping: root = nope()\ncases:\n  - input: 1\n    output: 1\n"

/-- The file is found. -/
theorem discover_holding (content root : String) :
    (discover (holding content) root).run = ["s/broken.yaml"] := by
  have split : "s/broken.yaml".splitOn "/" = ["s", "broken.yaml"] ∧
      "broken.yaml".splitOn "." = ["broken", "yaml"] := by
    constructor
    -- Both are split one character after the other, around a single separator.
    all_goals
      rw [String.splitOn, if_neg (by decide)]
      repeat rw [String.splitOnAux, if_neg (by decide +kernel), if_neg (by decide +kernel)]
      rw [String.splitOnAux, if_neg (by decide +kernel), if_pos (by decide +kernel),
        if_pos (by decide +kernel)]
      repeat rw [String.splitOnAux, if_neg (by decide +kernel), if_neg (by decide +kernel)]
      rw [String.splitOnAux, if_pos (by decide +kernel)]
      decide +kernel
  have named : isSuitePath "s/broken.yaml" = true := by
    simp [isSuitePath, extension?, split]
  change (["s/broken.yaml"].filter isSuitePath).mergeSort precedes = _
  rw [List.filter_cons_of_pos named, List.filter_nil, List.mergeSort_singleton]

/-- A suite that calls an unknown function is broken. -/
theorem broken_of_unknown {suite : Suite} (calls : suite.mapping = "root = nope()") :
    Broken .standard (.ok suite) := by
  -- The function is unknown, so that the source does not compile.
  have fails : (compiled .standard "root = nope()").isOk = false := by decide +kernel
  cases refused : compiled .standard "root = nope()" with
  | ok mapping =>
    rw [refused] at fails
    cases fails
  | error error => exact .uncompiled (calls ▸ refused)

/-- A suite of which something is known has been loaded. -/
theorem exists_of_any {loaded : Except Error Suite} {holds : Suite → Bool}
    (given : loaded.toOption.any holds = true) :
    ∃ suite, loaded = .ok suite ∧ holds suite = true := by
  cases loaded with
  | ok suite => exact ⟨suite, rfl, given⟩
  | error error => cases given

/-- A suite with a mapping that does not compile, and with a case, is reported. -/
theorem broken_reported_unknown :
    "s/broken.yaml" ∈ (discover (holding unknownInCase) "s").run ∧
    Broken .standard (loaded (holding unknownInCase) "s/broken.yaml") ∧
    Shows (loaded (holding unknownInCase) "s/broken.yaml") ∧
    (∃ finding ∈ found .standard ⟨[], ⟨0, 0⟩⟩ (holding unknownInCase) "s" (.seeded 0) [],
      finding.source = "s/broken.yaml" ∧ finding.verdict.isFailed = true) ∧
    0 < (Summary.of (found .standard ⟨[], ⟨0, 0⟩⟩ (holding unknownInCase) "s"
      (.seeded 0) [])).failed := by
  -- The suite has one case that is not skipped, and a mapping that calls what there is not.
  have member : "s/broken.yaml" ∈ (discover (holding unknownInCase) "s").run := by
    rw [discover_holding]
    exact List.mem_singleton_self _
  have given : (loaded (holding unknownInCase) "s/broken.yaml").toOption.any (fun suite =>
      suite.mapping = "root = nope()" && suite.cases.any (!·.isSkipped)) = true := by
    decide +kernel
  obtain ⟨suite, same, given⟩ := exists_of_any given
  obtain ⟨calls, runs⟩ := Bool.and_eq_true_iff.1 given
  obtain ⟨case, inside, runs⟩ := List.any_eq_true.1 runs
  have broken : Broken .standard (loaded (holding unknownInCase) "s/broken.yaml") :=
    same ▸ broken_of_unknown (of_decide_eq_true calls)
  have shows : Shows (loaded (holding unknownInCase) "s/broken.yaml") := by
    rw [same]
    rintro _ ⟨⟩
    exact ⟨case, inside, by simpa using runs⟩
  obtain ⟨failed, counted, _⟩ := (broken_reported .standard ⟨[], ⟨0, 0⟩⟩ (holding unknownInCase) "s"
    (.seeded 0) []).2 _ member broken
  exact ⟨member, broken, shows, failed.2 shows, counted shows⟩

/-- A suite with a mapping that does not compile is not reported if it has no case. -/
theorem not_broken_reported :
    ¬∀ (environment : Environment) (surroundings : Surroundings) (storage : Storage Id)
      (root : String) (shared : Shared) (warnings : List String),
      ∀ path ∈ (discover storage root).run, Broken environment (loaded storage path) →
        ∃ finding ∈ found environment surroundings storage root shared warnings,
          finding.source = path ∧ finding.verdict.isFailed = true := by
  intro claim
  have member : "s/broken.yaml" ∈ (discover (holding unknownAlone) "s").run := by
    rw [discover_holding]
    exact List.mem_singleton_self _
  have given : (loaded (holding unknownAlone) "s/broken.yaml").toOption.any (fun suite =>
      suite.mapping = "root = nope()" && suite.cases.isEmpty) = true := by decide +kernel
  obtain ⟨suite, same, given⟩ := exists_of_any given
  obtain ⟨calls, none⟩ := Bool.and_eq_true_iff.1 given
  have broken : Broken .standard (loaded (holding unknownAlone) "s/broken.yaml") :=
    same ▸ broken_of_unknown (of_decide_eq_true calls)
  -- The failure would have to be one of a case.
  have shows := (exists_failed_iff member broken).1
    (claim .standard ⟨[], ⟨0, 0⟩⟩ (holding unknownAlone) "s" (.seeded 0) [] _ member broken)
  obtain ⟨case, inside, _⟩ := shows suite same
  rw [List.isEmpty_iff.1 none] at inside
  cases inside

end Sample

end Suite

end Reshape
