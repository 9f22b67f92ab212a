import Reshape.Expr.Compile
import Reshape.Proofs.Expr.Reads

/-!
Coverage: what the analysis of an expression tells of the inputs of its parts. An expression reports
every input that a part of it reports, with one exception: a field access on the result of another
expression puts its segment behind each of the inputs there, those included that only decide on the
result. So an input that is reported in an expression is reported by it with the segments of all
field accesses around its place.

In straight expressions the analysis finds all that is read: no lambda turns back to a given value
that it then reads, no match without a subject compares the current value, no function finds out at
a call what it reads, and a part is taken of a place only.
-/

namespace Reshape

/-- The viewpoint that a part is inspected from, if queries on an element have one of their own. -/
def Manner.views (view target : Viewpoint) : Manner → Viewpoint
  | here => view
  | narrowed => target
  | bound name => view.bind name view.current

namespace Expr

/-- Each of several expressions is inspected. -/
theorem inspect_subset_all {view : Viewpoint} {items : List Expr} {item : Expr}
    (member : item ∈ items) : (inspect view item).2 ⊆ inspectAll view items := by
  -- The inputs of each item stand before those of the later ones.
  induction items with
  | nil => cases member
  | cons first rest ih =>
    rw [inspectAll]
    rcases List.mem_cons.1 member with rfl | later
    · exact List.subset_append_left _ _
    · exact List.subset_append_of_subset_right _ (ih later)

/-- Each expression of pairs is inspected. -/
theorem inspect_subset_pairs (view : Viewpoint) {pairs : List (Expr × Expr)} {manner : Manner}
    {part : Expr} (member : (manner, part) ∈ pairParts pairs) :
    manner = .here ∧ (inspect view part).2 ⊆ inspectPairs view pairs := by
  induction pairs with
  | nil => cases member
  | cons pair rest ih =>
    obtain ⟨first, second⟩ := pair
    rw [pairParts, List.flatMap_cons] at member
    rw [inspectPairs]
    -- The part is in the first pair or in a later one.
    rcases List.mem_append.1 member with own | later
    · simp only [List.mem_cons, Prod.mk.injEq, List.not_mem_nil, or_false] at own
      obtain ⟨rfl, rfl⟩ | ⟨rfl, rfl⟩ := own <;> simp
    · obtain ⟨here, inside⟩ := ih later
      exact ⟨here, List.subset_append_of_subset_right _ inside⟩

/-- Each test and body of rules is inspected. -/
theorem inspect_subset_cases (view : Viewpoint) {rules : List (Case Expr × Expr)}
    {manner manner' : Manner} {part : Expr} (member : (manner', part) ∈ ruleParts manner rules) :
    manner' = manner ∧ (inspect view part).2 ⊆ inspectCases view rules := by
  induction rules with
  | nil => cases member
  | cons rule rest ih =>
    obtain ⟨case, body⟩ := rule
    rw [ruleParts, List.flatMap_cons] at member
    rw [inspectCases]
    -- The part is in the first rule or in a later one.
    rcases List.mem_append.1 member with own | later
    · obtain ⟨expr, among, same⟩ := List.mem_map.1 own
      obtain ⟨rfl, rfl⟩ := Prod.mk.inj same
      refine ⟨rfl, ?_⟩
      rcases List.mem_append.1 among with test | last
      · cases case with
        | query inner =>
          obtain rfl := List.mem_singleton.1 test
          rw [inspectCase, List.append_assoc]
          exact List.subset_append_left _ _
        | _ => cases test
      · obtain rfl := List.mem_singleton.1 last
        simp
    · obtain ⟨here, inside⟩ := ih later
      exact ⟨here, List.subset_append_of_subset_right _ inside⟩

/-- The expression in a slot is inspected. -/
theorem inspect_subset_slot {view target : Viewpoint} {isScoped : Bool} {slot : Slot Expr}
    {manner : Manner} {part : Expr} (member : (manner, part) ∈ slot.parts isScoped) :
    (inspect (manner.views view target) part).2 ⊆ inspectSlot view target isScoped slot := by
  -- A query on the target is inspected from where the target leads, anything else from the call.
  cases slot with
  | query expr =>
    obtain ⟨rfl, rfl⟩ := Prod.mk.inj (List.mem_singleton.1 member)
    cases isScoped <;> exact List.Subset.refl _
  | dynamic expr =>
    obtain ⟨rfl, rfl⟩ := Prod.mk.inj (List.mem_singleton.1 member)
    exact List.Subset.refl _
  | _ => cases member

/-- Each expression in the slots of a call is inspected. -/
theorem inspect_subset_slots {view target : Viewpoint} {signature : Signature}
    (plain : signature.isVariadic = true → signature.parameters = []) {slots : List (Slot Expr)}
    {manner : Manner} {part : Expr} (member : (manner, part) ∈ signature.parts slots) :
    (inspect (manner.views view target) part).2 ⊆
      inspectSlots view target signature.parameters slots := by
  unfold Signature.parts at member
  -- Collected slots have no parameters and so no queries on the target.
  split at member
  next variadic =>
    rw [plain variadic]
    induction slots with
    | nil => cases member
    | cons slot rest ih =>
      rw [List.flatMap_cons] at member
      rw [inspectSlots]
      rcases List.mem_append.1 member with own | later
      · exact List.subset_append_of_subset_left _ (inspect_subset_slot own)
      · exact List.subset_append_of_subset_right _ (ih later)
  next =>
    generalize signature.parameters = parameters at member
    induction slots generalizing parameters with
    | nil => simp at member
    | cons slot rest ih =>
      cases parameters with
      | nil => cases member
      | cons parameter parameters =>
        rw [List.zip_cons_cons, List.flatMap_cons] at member
        rw [inspectSlots]
        rcases List.mem_append.1 member with own | later
        · refine List.subset_append_of_subset_left _ ?_
          simpa using inspect_subset_slot own
        · exact List.subset_append_of_subset_right _ (ih parameters later)

/-- The viewpoint of those parts of an expression that are evaluated on another current value: what
the target of a method leads to, or the subject of a match. -/
def beneath (view : Viewpoint) : Expr → Viewpoint
  | .cases (some subject) _ => (inspect view subject).1
  | .method target _ _ => (inspect view target).1
  | _ => view

/-- Each part of an expression is inspected, unless the expression accesses a field of it. -/
theorem inspect_subset_part {whole part : Expr} {manner : Manner}
    (member : (manner, part) ∈ whole.parts) (plain : ∀ target segment, whole ≠ .get target segment)
    (view : Viewpoint) :
    (inspect (manner.views view (whole.beneath view)) part).2 ⊆ (inspect view whole).2 := by
  -- What a part reports stands among what the whole reports, in the order of the source.
  cases whole with
  | get target segment => exact absurd rfl (plain target segment)
  | array items =>
    obtain ⟨item, inside, same⟩ := List.mem_map.1 member
    obtain ⟨rfl, rfl⟩ := Prod.mk.inj same
    exact inspect_subset_all inside
  | object entries =>
    obtain ⟨rfl, inside⟩ := inspect_subset_pairs view member
    exact inside
  | binary _ _ _ | coalesce _ _ =>
    simp only [parts, List.mem_cons, Prod.mk.injEq, List.not_mem_nil, or_false] at member
    obtain ⟨rfl, rfl⟩ | ⟨rfl, rfl⟩ := member
    · exact List.subset_append_left _ _
    · exact List.subset_append_right _ _
  | not _ | negate _ =>
    obtain ⟨rfl, rfl⟩ := Prod.mk.inj (List.mem_singleton.1 member)
    exact List.Subset.refl _
  | branches tests otherwise =>
    rw [inspect]
    rcases List.mem_append.1 member with test | last
    · obtain ⟨rfl, inside⟩ := inspect_subset_pairs view test
      exact List.subset_append_of_subset_left _ inside
    · cases otherwise with
      | none => cases last
      | some body =>
        obtain ⟨rfl, rfl⟩ := Prod.mk.inj (List.mem_singleton.1 last)
        exact List.subset_append_right _ _
  | cases subject rules =>
    cases subject with
    | none =>
      obtain ⟨rfl, inside⟩ := inspect_subset_cases view member
      exact inside
    | some subject =>
      rcases List.mem_cons.1 member with same | later
      · obtain ⟨rfl, rfl⟩ := Prod.mk.inj same
        exact List.subset_append_left _ _
      · -- The cases are inspected from where the subject leads.
        obtain ⟨rfl, inside⟩ := inspect_subset_cases (inspect view subject).1 later
        exact List.subset_append_of_subset_right _ inside
  | lambda name body =>
    obtain ⟨rfl, rfl⟩ := Prod.mk.inj (List.mem_singleton.1 member)
    exact List.Subset.refl _
  | call function slots =>
    refine List.subset_append_of_subset_right _ (inspect_subset_slots ?_ member)
    simp [function.not_isVariadic]
  | method target called slots =>
    rcases List.mem_cons.1 member with same | later
    · obtain ⟨rfl, rfl⟩ := Prod.mk.inj same
      exact List.subset_append_left _ _
    · -- Queries on the target are inspected from where it leads, other arguments from the call.
      exact List.subset_append_of_subset_right _
        (inspect_subset_slots called.parameters_of_isVariadic later)
  | _ => cases member

/-- The segment that an expression takes of the result of its part. -/
def segments : Expr → List String
  | .get _ segment => [segment]
  | _ => []

/-- Each input that a part reports is reported by the whole with the segment that it takes. -/
theorem child_mem_inspect {whole part : Expr} {manner : Manner}
    (member : (manner, part) ∈ whole.parts) (view : Viewpoint) {input : Dependency}
    (reported : input ∈ (inspect (manner.views view (whole.beneath view)) part).2) :
    input.child whole.segments ∈ (inspect view whole).2 := by
  by_cases access : ∃ target segment, whole = .get target segment
  · obtain ⟨target, segment, rfl⟩ := access
    obtain ⟨rfl, rfl⟩ := Prod.mk.inj (List.mem_singleton.1 member)
    exact List.mem_map_of_mem reported
  · have plain (target : Expr) (segment : String) : whole ≠ .get target segment :=
      fun same => access ⟨target, segment, same⟩
    -- No other expression takes a segment.
    have none : whole.segments = [] := by
      cases whole with
      | get target segment => exact absurd rfl (plain target segment)
      | _ => rfl
    rw [none, Dependency.child, List.append_nil]
    exact inspect_subset_part member plain view reported

/-- An expression stands at a place in another one: the viewpoint that it is inspected from there,
and the segments of the field accesses around the place, the innermost one first. -/
inductive Within : Viewpoint → Expr → List String → Viewpoint → Expr → Prop where
  | self (view : Viewpoint) (whole : Expr) : Within view whole [] view whole
  | part {view view' : Viewpoint} {whole part inner : Expr} {manner : Manner}
      {accesses : List String} (member : (manner, part) ∈ whole.parts)
      (inside : Within (manner.views view (whole.beneath view)) part accesses view' inner) :
      Within view whole (accesses ++ whole.segments) view' inner

/-- The inputs that a reference names. -/
def referred (view : Viewpoint) : Expr → List Dependency
  | .field scope path => view.field scope path
  | .variable name path => [⟨.variable, name :: path⟩]
  | .metadata key => [⟨.metadata, key.toList⟩]
  | _ => []

/-- An expression covers what its parts report. -/
def CoversParts (view : Viewpoint) (whole : Expr) : Prop :=
  ∀ manner part, (manner, part) ∈ whole.parts →
    ∀ input ∈ (inspect (manner.views view (whole.beneath view)) part).2,
      Dependency.CoveredBy (inspect view whole).2 input

/-- Nothing is dropped in an expression: each expression in it covers what its parts report, and all
references in it are covered. -/
structure DropsNothing (view : Viewpoint) (whole : Expr) : Prop where
  parts : ∀ {accesses view' inner}, Within view whole accesses view' inner →
    inner.CoversParts view'
  references : ∀ {accesses view' inner}, Within view whole accesses view' inner →
    ∀ input ∈ inner.referred view', Dependency.CoveredBy (inspect view whole).2 input

end Expr

namespace Dependency

variable {dependencies others : List Dependency} {input : Dependency}

/-- An input is covered where it is reported. -/
theorem CoveredBy.of_mem (member : input ∈ dependencies) : CoveredBy dependencies input :=
  ⟨input, member, rfl, List.prefix_rfl⟩

/-- What is covered by inputs that are covered is covered. -/
theorem CoveredBy.trans (covered : CoveredBy others input)
    (covers : ∀ other ∈ others, CoveredBy dependencies other) : CoveredBy dependencies input := by
  obtain ⟨other, member, origin, leading⟩ := covered
  obtain ⟨covering, inside, origin', leading'⟩ := covers other member
  exact ⟨covering, inside, origin'.trans origin, leading'.trans leading⟩

/-- Inputs with a segment behind each do not cover all of the inputs, if there are any. -/
theorem eq_nil_of_covered {segment : String}
    (covered : ∀ input ∈ dependencies,
      CoveredBy (dependencies.map fun input => input.child [segment]) input) :
    dependencies = [] := by
  -- An input would be covered by a shorter one with the segment, and so on without end.
  have none : ∀ length, ∀ input ∈ dependencies, input.path.length = length → False := by
    intro length
    induction length using Nat.strongRecOn with
    | ind length ih =>
      intro input member same
      obtain ⟨covering, inside, _, leading⟩ := covered input member
      obtain ⟨shorter, among, rfl⟩ := List.mem_map.1 inside
      have shortens := leading.length_le
      simp only [child, List.length_append, List.length_singleton] at shortens
      exact ih shorter.path.length (by omega) shorter among rfl
  exact List.eq_nil_iff_forall_not_mem.2 fun input member => none _ input member rfl

end Dependency

namespace Expr

variable {view : Viewpoint} {whole : Expr}

/-- What a reference names is reported. -/
theorem referred_subset (view : Viewpoint) (expr : Expr) :
    expr.referred view ⊆ (inspect view expr).2 := by
  cases expr with
  | field scope path => exact List.Subset.refl _
  | «variable» name path => exact List.Subset.refl _
  | metadata key => exact List.Subset.refl _
  | _ => exact List.nil_subset _

/-- A field always stands for some input. -/
theorem field_ne_nil (view : Viewpoint) (scope : Scope) (path : List String) :
    view.field scope path ≠ [] := by
  have current : view.child path ≠ [] := by
    unfold Viewpoint.child
    split <;> simp_all
  cases scope with
  | current => exact current
  | root => simp [Viewpoint.field]
  | named name =>
    simp only [Viewpoint.field, Viewpoint.named]
    -- A name for no inputs stands for the current value.
    split
    · exact current
    · exact current
    · simp_all

/-- An expression covers what its parts report, unless it accesses a field of an expression that
reports something. -/
theorem coversParts_iff :
    whole.CoversParts view ↔
      ∀ target segment, whole = .get target segment → (inspect view target).2 = [] := by
  constructor
  · rintro covers target segment rfl
    exact Dependency.eq_nil_of_covered (covers .here target (.head _))
  · intro silent manner part member input reported
    by_cases access : ∃ target segment, whole = .get target segment
    · -- There is nothing to cover.
      obtain ⟨target, segment, rfl⟩ := access
      obtain ⟨rfl, rfl⟩ := Prod.mk.inj (List.mem_singleton.1 member)
      have empty : (inspect view part).2 = [] := silent part segment rfl
      exact absurd reported (by simp [Manner.views, empty])
    · have plain (target : Expr) (segment : String) : whole ≠ .get target segment :=
        fun same => access ⟨target, segment, same⟩
      exact .of_mem (inspect_subset_part member plain view reported)

/-- An input that is reported at a place is reported by the whole with the segments around it. -/
theorem child_mem_of_within {accesses : List String} {view' : Viewpoint} {inner : Expr}
    (within : Within view whole accesses view' inner) {input : Dependency}
    (reported : input ∈ (inspect view' inner).2) :
    input.child accesses ∈ (inspect view whole).2 := by
  -- The induction goes from the place outwards, and each field access adds its segment.
  induction within with
  | self => simpa [Dependency.child] using reported
  | part member _ ih =>
    have outer := child_mem_inspect member _ (ih reported)
    simpa [Dependency.child] using outer

/-- What is reported at a place is covered by the whole, if all expressions around it cover what
their parts report. -/
theorem covered_of_within {accesses : List String} {view' : Viewpoint} {inner : Expr}
    (within : Within view whole accesses view' inner)
    (covers : ∀ {accesses view' inner}, Within view whole accesses view' inner →
      inner.CoversParts view') {input : Dependency} (reported : input ∈ (inspect view' inner).2) :
    Dependency.CoveredBy (inspect view whole).2 input := by
  induction within with
  | self => exact .of_mem reported
  | part member _ ih =>
    have inside := ih (fun within => covers (.part member within)) reported
    exact inside.trans (covers (.self _ _) _ _ member)

/-- Nothing is dropped in an expression just if no field is accessed in it of an expression that
reports something. Wherever fields are accessed, what is reported at a place is reported with the
segments of the accesses around the place, and a reference names an input. -/
theorem dropsNothing_iff (view : Viewpoint) (whole : Expr) :
    (whole.DropsNothing view ↔
      ∀ accesses view' target segment, Within view whole accesses view' (.get target segment) →
        (inspect view' target).2 = []) ∧
    (∀ accesses view' inner, Within view whole accesses view' inner →
      ∀ input ∈ (inspect view' inner).2, input.child accesses ∈ (inspect view whole).2) ∧
    (∀ view' scope path, (Expr.field scope path).referred view' ≠ []) := by
  refine ⟨⟨fun drops accesses view' target segment within => ?_, fun silent => ?_⟩,
    fun _ _ _ within _ => child_mem_of_within within, fun view' => field_ne_nil view'⟩
  · exact coversParts_iff.1 (drops.parts within) target segment rfl
  -- Without accesses of what reports, each part covers its references.
  · have covers {accesses : List String} {view' : Viewpoint} {inner : Expr}
        (within : Within view whole accesses view' inner) : inner.CoversParts view' := by
      refine coversParts_iff.2 fun target segment same => ?_
      subst same
      exact silent accesses view' target segment within
    refine ⟨covers, fun within input named => ?_⟩
    exact covered_of_within within covers (referred_subset _ _ named)

/-- A field of the item at a position that the input tells. -/
def picked : Expr :=
  .get (.method (.field .current ["items"]) .index [.dynamic (.field .current ["n"])]) "name"

/-- The position of an item is read as it is, but reported with the field of the item behind it. -/
theorem not_dropsNothing :
    ((Term.compile ⟨Environment.standard, 0, []⟩
      (.field (.method ⟨0, 0⟩ (.field .current (.plain "items")) "index"
        [(none, .field .current (.plain "n"))]) (.plain "name"))).run.run []).1 = .ok picked ∧
    picked.dependencies = [⟨.value, ["items", "name"]⟩, ⟨.value, ["n", "name"]⟩] ∧
    ¬picked.DropsNothing .document := by
  refine ⟨rfl, rfl, fun drops => ?_⟩
  -- The access is the whole expression, and what it accesses reports two inputs.
  have silent := coversParts_iff.1 (drops.parts (.self _ _)) _ _ rfl
  cases silent

end Expr

namespace Expr

/-- Each part of an expression is inspected, with the same current value unless another one is
current where the part is evaluated. -/
theorem inspect_subset {whole part : Expr} {manner : Manner}
    (member : (manner, part) ∈ whole.parts) (plain : ∀ target segment, whole ≠ .get target segment)
    (view : Viewpoint) :
    ∃ inner, (inspect inner part).2 ⊆ (inspect view whole).2 ∧
      (manner = .narrowed ∨ inner.current = view.current) := by
  refine ⟨_, inspect_subset_part member plain view, ?_⟩
  -- A name for the current value leaves that value as it is.
  cases manner with
  | narrowed => exact .inl rfl
  | _ => exact .inr rfl

/-- What an expression gives depends on the value that is current around it: it reads a part of that
value, or compares it, by itself or where a part of it is evaluated in the same context. -/
inductive Looks : Expr → Prop where
  | field (path : List String) : Looks (.field .current path)
  | compared {rules : List (Case Expr × Expr)} {rule : Case Expr × Expr} (member : rule ∈ rules)
      (compares : rule.1.compares = true) : Looks (.cases none rules)
  | part {whole part : Expr} (member : (Manner.here, part) ∈ whole.parts) (looks : Looks part) :
      Looks whole

/-- An expression is built in a way that the analysis follows. -/
structure IsFollowed (whole : Expr) : Prop where
  /-- Only queries on an element are lambdas, and they read nothing of the value around it. -/
  lambdas : ∀ manner name body, (manner, .lambda name body) ∈ whole.parts →
    manner = .narrowed ∧ ¬body.Looks
  /-- A match without a subject does not compare the current value. -/
  tests : ∀ rules, whole = .cases none rules → ∀ rule ∈ rules, rule.1.compares = false
  /-- A function that reads inputs has its arguments before it is called. -/
  calls : ∀ function slots, whole = .call function slots →
    (function.signature.attach slots).isDynamic = true → function.anywhere = []
  /-- A part is taken of what has no other parts. -/
  targets : ∀ target segment, whole = .get target segment →
    target.parts = [] ∨ ∃ inner segment, target = .get inner segment

/-- Every expression in an expression is built in a way that the analysis follows. -/
inductive IsStraight : Expr → Prop where
  | of {whole : Expr} (followed : whole.IsFollowed)
      (parts : ∀ manner part, (manner, part) ∈ whole.parts → part.IsStraight) : IsStraight whole

/-- An input that a straight expression reads is told by the analysis, from any viewpoint that keeps
the document where the current value is given and may be read. -/
theorem IsStraight.covered {expr : Expr} (straight : expr.IsStraight) {sight : Sight}
    (view : Viewpoint) {wanted : List String} {input : Dependency}
    (lambda : ∀ name body, expr = .lambda name body → sight.current = .computed ∧ ¬body.Looks)
    (unnamed : ∀ name, sight.names.lookup name ≠ some .input)
    (current : sight.current = .input → expr.Looks → view.current = [])
    (place : wanted = [] ∨ expr.parts = [] ∨ ∃ inner segment, expr = .get inner segment)
    (reads : Reads sight wanted expr input) :
    ∃ found ∈ (inspect view expr).2,
      found.origin = input.origin ∧ (found.child wanted).path <+: input.path := by
  -- The induction follows the reading into the expression, and the viewpoint follows with it.
  induction reads generalizing view with
  | @current sight wanted path given =>
    refine ⟨⟨.value, path⟩, ?_, rfl, List.prefix_rfl⟩
    simp [inspect, Viewpoint.field, Viewpoint.child, current given (.field path)]
  | named given => exact absurd given (unnamed _)
  | root => exact ⟨_, .head _, rfl, List.prefix_rfl⟩
  | «variable» => exact ⟨_, .head _, rfl, List.prefix_rfl⟩
  | metadata => exact ⟨_, .head _, rfl, List.prefix_rfl⟩
  | compared member compares =>
    obtain ⟨followed, _⟩ := straight
    rw [followed.tests _ rfl _ member] at compares
    cases compares
  | known member => exact ⟨_, List.mem_append_left _ member, rfl, List.prefix_rfl⟩
  | unknown dynamic member =>
    obtain ⟨followed, _⟩ := straight
    rw [followed.calls _ _ rfl dynamic] at member
    cases member
  | @get sight wanted target segment input _ ih =>
    obtain ⟨followed, parts⟩ := straight
    have inside : (Manner.here, target) ∈ (Expr.get target segment).parts := .head _
    obtain ⟨found, among, origin, leading⟩ := ih (parts _ _ inside) view
      (fun name body same => by cases (followed.lambdas .here name body (same ▸ inside)).1) unnamed
      (fun given looks => current given (.part inside looks)) (.inr (followed.targets _ _ rfl))
    refine ⟨_, List.mem_map_of_mem among, origin, ?_⟩
    simpa [Dependency.child] using leading
  | @part sight wanted whole inner manner input member plain _ ih =>
    obtain ⟨followed, parts⟩ := straight
    obtain rfl : wanted = [] := by
      rcases place with same | bare | ⟨target, segment, same⟩
      · exact same
      · rw [bare] at member
        cases member
      · exact absurd same (plain _ _)
    obtain ⟨view', inside, kept⟩ := inspect_subset member plain view
    have unread : ∀ name, (manner.sees sight).names.lookup name ≠ some .input := by
      cases manner with
      | bound other =>
        intro name
        have lambda := (lambda other inner (eq_lambda_of_bound member)).1
        simp only [Manner.sees, Sight.bind, List.lookup_cons, lambda]
        cases name == other with
        | true => simp
        | false => exact unnamed name
      | _ => exact unnamed
    have seen : (manner.sees sight).current = .input → inner.Looks → view'.current = [] := by
      intro given looks
      cases manner with
      | here => exact (kept.resolve_left (by simp)).trans (current given (.part member looks))
      | narrowed => cases given
      | bound other => exact absurd looks (lambda other inner (eq_lambda_of_bound member)).2
    obtain ⟨found, among, covers⟩ := ih (parts _ _ member) view'
      (fun name body same => by
        obtain ⟨rfl, unlooked⟩ := followed.lambdas _ name body (same ▸ member)
        exact ⟨rfl, unlooked⟩)
      unread seen (.inl rfl)
    exact ⟨found, inside among, covers⟩

end Expr

/-- The analysis finds all that a straight expression reads. -/
theorem Expr.covered_of_isStraight {expr : Expr} (straight : expr.IsStraight)
    (plain : ∀ name body, expr ≠ .lambda name body) {input : Dependency}
    (reads : Reads .document [] expr input) :
    Dependency.CoveredBy expr.dependencies input := by
  obtain ⟨found, among, origin, leading⟩ := straight.covered .document
    (fun name body same => absurd same (plain name body)) (fun _ => by simp [Sight.document])
    (fun _ _ => rfl) (.inl rfl) reads
  rw [Dependency.child, List.append_nil] at leading
  exact ⟨found, among, origin, leading⟩

end Reshape
