import Reshape.Proofs.Call.Argument
import Reshape.Proofs.Eval.Frame
import Reshape.Proofs.Eval.Replay

/-!
Generators of random integers in expressions: a call draws from the generator in its cell, which is
made of the first value that the seed gives.
-/

namespace Reshape

/-- The arguments of a generator of random integers as the compiler binds them. -/
structure RandomInt where
  seed : Expr
  least : Int64
  greatest : Int64
  deriving Repr

namespace RandomInt

/-- The slots of a generator. -/
def slots (random : RandomInt) : List (Slot Expr) :=
  [.query random.seed, .value (.int random.least), .value (.int random.greatest)]

/-- The meaning of a generator at a site. -/
def query (random : RandomInt) (site : Site) : Query :=
  (Expr.call .randomInt random.slots).denote site

/-- The meaning of the seed. -/
def seedAt (random : RandomInt) (site : Site) : Query := random.seed.denote (0 :: site)

/-- What a cell keeps has come from a seed. -/
def Seeded : Option Cell → Prop
  | some (.seed _) | some (.generator _) => True
  | _ => False

/-- A call settles the seed of its generator: it finds none, and the seed gives a value. -/
def Settles (random : RandomInt) (site : Site) (turn : Turn) : Prop :=
  ¬Seeded turn.found ∧ ∃ value, (((random.seedAt site).read turn.occasion.context).outcome
    (turn.occasion.memory.withCell site turn.found)).1 = .ok value

/-- The slots of a generator that was bound. -/
theorem eq_slots_of_bindSlots {arguments : List (Argument Expr)} {slots : List (Slot Expr)}
    (bound : Function.randomInt.signature.bindSlots arguments = .ok slots) :
    ∃ random : RandomInt, slots = random.slots := by
  have each := Signature.slots_of_bindSlots rfl bound
  obtain _ | ⟨⟨_, first⟩, _ | ⟨⟨_, second⟩, _ | ⟨⟨_, third⟩, _ | _⟩⟩⟩ := each
  -- Whatever is converted to an integer is one.
  have converts (given converted : Value) (same : Kind.int.convert given = .ok converted) :
      ∃ integer : Int64, converted = .int integer := by
    unfold Kind.convert Kind.convert? at same
    cases read : given.toInt64? with
    | some integer =>
      simp only [read, Option.map_some] at same
      exact ⟨integer, (Except.ok.inj same).symm⟩
    | none =>
      simp only [read, Option.map_none] at same
      cases same
  obtain ⟨_, rfl, least, rfl⟩ := Slot.of_bind_static (by decide) rfl rfl ⟨_, rfl⟩ converts second
  obtain ⟨_, rfl, greatest, rfl⟩ := Slot.of_bind_static (by decide) rfl rfl ⟨_, rfl⟩ converts third
  obtain ⟨seed, rfl⟩ | ⟨absent, _⟩ := Slot.of_bind_query rfl first
  · exact ⟨⟨seed, least, greatest⟩, rfl⟩
  · cases absent

/-- A generator reads its seed where it stands, if its bounds are valid. -/
theorem run_query (random : RandomInt) (site : Site) (context : Context) :
    (random.query site).run context = (do
      Eval.ofExcept (randomBounds random.least random.greatest)
      Eval.random site (random.seedAt site) random.least random.greatest context) := by
  have prepared : (random.query site).run context = (do
      let call ← Eval.ofExcept (do
        randomBounds random.least random.greatest
        return FunctionCall.random (random.seedAt site) random.least random.greatest)
      call.run site context) := rfl
  rw [prepared]
  -- Bounds that are not valid make every call fail.
  cases randomBounds random.least random.greatest <;> rfl

/-- What a call does: with valid bounds it finds its generator, or makes one, and draws from it. -/
theorem outcome_query (random : RandomInt) (site : Site) (context : Context) (memory : Memory) :
    ((random.query site).run context).outcome memory =
      match randomBounds random.least random.greatest with
      | .error fault => (.error fault, memory)
      | .ok () =>
        match (Eval.generator site (random.seedAt site) context).outcome memory with
        | (.error error, after) => (.error error, after)
        | (.ok state, after) =>
          let drawn := state.between random.least.toInt random.greatest.toInt
          (.ok (.int (Int64.ofInt drawn.1)), after.keep site (.generator drawn.2)) := by
  rw [run_query, Eval.outcome_bind]
  -- The bounds come first, then the generator, and then what is drawn from it.
  cases randomBounds random.least random.greatest with
  | error fault => rfl
  | ok =>
    change (Eval.random site _ _ _ context).outcome memory = _
    rw [Eval.random, Eval.outcome_bind]
    rcases (Eval.generator site (random.seedAt site) context).outcome memory with ⟨_ | _, _⟩ <;> rfl

variable {random : RandomInt} {site : Site}

/-- The seed is read without a change to the cell of the generator. -/
theorem obeys_seedAt (cell : Option Cell) :
    Query.Obeys (.keeping fun memory => memory.cell? site = cell) (random.seedAt site) :=
  random.seed.obeys_keeping (Site.not_suffix_below 0 site) cell

/-- A value that is no seed makes no generator, and one that is makes one. -/
theorem seed?_of_sown {value : Value} {memory after : Memory} {error : Error}
    (failed : (Eval.sown value).outcome memory = (.error error, after)) :
    value.seed? = none ∧ after = memory := by
  have same := Eval.outcome_sown value memory
  rw [failed] at same
  refine ⟨?_, same⟩
  -- A seed would have made a generator.
  unfold Eval.sown at failed
  cases seed : value.seed? with
  | none => rfl
  | some seed =>
    simp only [seed] at failed
    cases failed

/-- A call that does not get a generator leaves what is in its cell, or the value of the seed, which
it has read and which is no seed. -/
theorem outcome_generator_of_error {context : Context} {memory after : Memory} {error : Error}
    (failed : (Eval.generator site (random.seedAt site) context).outcome memory =
      (.error error, after)) :
    after.cell? site = memory.cell? site ∨
      ¬Seeded (memory.cell? site) ∧ ∃ value,
        (((random.seedAt site).read context).outcome memory).1 = .ok value ∧
          after.cell? site = some (.seed value) ∧ value.seed? = none := by
  rw [Eval.outcome_generator] at failed
  -- If nothing has come from a seed yet, the seed is read and its value kept before it is checked.
  have read : ((do
        let value ← (random.seedAt site).read context
        Eval.keep site (.seed value)
        Eval.sown value) : Eval Generator).outcome memory = (.error error, after) →
      after.cell? site = memory.cell? site ∨ ∃ value,
        (((random.seedAt site).read context).outcome memory).1 = .ok value ∧
          after.cell? site = some (.seed value) ∧ value.seed? = none := by
    intro ended
    have obeys : Query.Obeys (.keeping fun left => left.cell? site = memory.cell? site)
        (random.seedAt site) := obeys_seedAt _
    have kept := (obeys.read context).kept rfl
    rw [Eval.outcome_bind] at ended
    generalize ((random.seedAt site).read context).outcome memory = outcome at ended kept ⊢
    obtain ⟨fault | value, others⟩ := outcome
    · -- The seed has given no value, so nothing else has happened.
      obtain ⟨_, rfl⟩ := Prod.mk.inj ended
      exact .inl kept
    · obtain ⟨useless, rfl⟩ := seed?_of_sown ended
      exact .inr ⟨value, rfl, Memory.cell?_keep_self others site _, useless⟩
  cases own : memory.cell? site with
  | none =>
    rw [own] at failed read
    exact (read failed).imp_right fun settled => ⟨id, settled⟩
  | some cell =>
    rw [own] at failed read
    cases cell with
    | tally tally => exact (read failed).imp_right fun settled => ⟨id, settled⟩
    | seed value =>
      obtain ⟨_, rfl⟩ := seed?_of_sown failed
      exact .inl own
    | generator state => cases failed

/-- A call that fails leaves what it has found, or it settles the seed on a value that is none. -/
theorem left_of_error (random : RandomInt) (site : Site) (found : Option Cell)
    (occasion : Occasion) {error : Error}
    (failed : ((random.query site).turn site found occasion).result = .error error) :
    let turn := (random.query site).turn site found occasion
    turn.left = found ∨
      random.Settles site turn ∧ ∃ value, turn.left = some (.seed value) ∧ value.seed? = none := by
  have own : (occasion.memory.withCell site found).cell? site = found :=
    Memory.cell?_withCell _ _ _
  simp only [Query.turn, Settles, random.outcome_query] at failed ⊢
  generalize occasion.memory.withCell site found = memory at failed own ⊢
  generalize randomBounds random.least random.greatest = valid at failed ⊢
  cases valid with
  | error fault =>
    -- Without valid bounds nothing is looked at.
    exact .inl own
  | ok =>
    cases ended : (Eval.generator site (random.seedAt site) occasion.context).outcome memory with
    | mk outcome after =>
      rw [ended] at failed
      -- A generator always gives an integer.
      cases outcome with
      | ok state => cases failed
      | error fault =>
        rcases outcome_generator_of_error ended with same | ⟨fresh, value, given, kept, useless⟩
        · exact .inl (same.trans own)
        · exact .inr ⟨⟨own ▸ fresh, value, given⟩, value, kept, useless⟩

/-- A call that finds a value that is no seed fails, and leaves it there. -/
theorem turn_of_useless (random : RandomInt) (site : Site) {value : Value}
    (useless : value.seed? = none) (occasion : Occasion) :
    let turn := (random.query site).turn site (some (.seed value)) occasion
    (∃ error, turn.result = .error error) ∧ turn.left = some (.seed value) := by
  have own : (occasion.memory.withCell site (some (.seed value))).cell? site =
      some (.seed value) := Memory.cell?_withCell _ _ _
  simp only [Query.turn, random.outcome_query]
  generalize occasion.memory.withCell site (some (.seed value)) = memory at own ⊢
  cases randomBounds random.least random.greatest with
  | error fault => exact ⟨⟨fault, rfl⟩, own⟩
  | ok =>
    -- The value is not read again, and no generator is made of it.
    have ended : (Eval.generator site (random.seedAt site) occasion.context).outcome memory =
        (.error (.expected "integer seed" value), memory) := by
      rw [Eval.outcome_generator, own]
      simp only [Eval.sown, useless]
      rfl
    rw [ended]
    exact ⟨⟨_, rfl⟩, own⟩

end RandomInt

end Reshape
