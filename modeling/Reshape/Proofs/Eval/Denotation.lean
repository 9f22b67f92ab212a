import Reshape.Eval.Denote
import Reshape.Proofs.Expr.Part

/-!
The meanings of parts: what holds of the meaning of each part, at a site below that of the whole,
holds of the lists of meanings that the whole is evaluated with.
-/

namespace Reshape.Expr

variable {property : Query → Prop} {site : Site}

/-- Expressions in a list have meanings of their own. -/
theorem forall_denoteAll {items : List Expr}
    (each : ∀ item ∈ items, ∀ position, property (item.denote (position :: site)))
    (position : Nat) : ∀ query ∈ denoteAll site position items, property query := by
  -- The positions go up from one item to the next.
  induction items generalizing position with
  | nil => simp [denoteAll]
  | cons item rest ih =>
    rw [List.forall_mem_cons] at each
    exact List.forall_mem_cons.2 ⟨each.1 _, ih each.2 _⟩

/-- Pairs of expressions have meanings of their own. -/
theorem forall_denotePairs {pairs : List (Expr × Expr)}
    (each : ∀ part, (Manner.here, part) ∈ pairParts pairs →
      ∀ position, property (part.denote (position :: site)))
    (position : Nat) :
    ∀ pair ∈ denotePairs site position pairs, property pair.1 ∧ property pair.2 := by
  induction pairs generalizing position with
  | nil => simp [denotePairs]
  | cons pair rest ih =>
    -- The pairs behind stand one position further on.
    have later := ih fun part member => each part (List.mem_append_right _ member)
    refine List.forall_mem_cons.2 ⟨⟨?_, ?_⟩, later _⟩
    · exact each pair.1 (by simp [pairParts]) _
    · exact each pair.2 (by simp [pairParts]) _

/-- The tests and bodies of rules have meanings of their own. -/
theorem forall_denoteCases {manner : Manner} {rules : List (Case Expr × Expr)}
    (each : ∀ part, (manner, part) ∈ ruleParts manner rules →
      ∀ position, property (part.denote (position :: site)))
    (position : Nat) :
    ∀ rule ∈ denoteCases site position rules,
      (∀ test, rule.1 = .query test → property test) ∧ property rule.2 := by
  induction rules generalizing position with
  | nil => simp [denoteCases]
  | cons rule rest ih =>
    have later := ih fun part member => each part (List.mem_append_right _ member)
    refine List.forall_mem_cons.2 ⟨⟨?_, ?_⟩, later _⟩
    · intro test same
      obtain ⟨case, body⟩ := rule
      -- Only a case that is a test has a meaning.
      cases case with
      | query expr =>
        obtain rfl := Case.query.inj same
        exact each expr (by simp [ruleParts, Case.tests]) _
      | _ => cases same
    · exact each rule.2 (by simp [ruleParts]) _

/-- The meaning of a slot is that of a slot of the call. -/
theorem mem_denoteSlots {slots : List (Slot Expr)} {position : Nat} {slot : Slot Query}
    (member : slot ∈ denoteSlots site position slots) :
    ∃ position', ∃ given ∈ slots, slot = denoteSlot (position' :: site) given := by
  -- The induction is over the slots, whatever position the first one has.
  induction slots generalizing position with
  | nil => cases member
  | cons given rest ih =>
    rcases List.mem_cons.1 member with rfl | later
    · exact ⟨_, given, by simp, rfl⟩
    · obtain ⟨position', other, inside, same⟩ := ih later
      exact ⟨position', other, by simp [inside], same⟩

/-- The meaning of the slot of a parameter is that of the slot that the parameter has. -/
theorem mem_zip_denoteSlots {parameters : List Parameter} {slots : List (Slot Expr)}
    {position : Nat} {parameter : Parameter} {slot : Slot Query}
    (member : (parameter, slot) ∈ parameters.zip (denoteSlots site position slots)) :
    ∃ position' given, (parameter, given) ∈ parameters.zip slots ∧
      slot = denoteSlot (position' :: site) given := by
  -- Parameters and slots are paired in order, as far as both go.
  induction parameters generalizing slots position with
  | nil => cases member
  | cons first others ih =>
    cases slots with
    | nil => cases member
    | cons given rest =>
      rcases List.mem_cons.1 member with same | later
      · obtain ⟨rfl, rfl⟩ := Prod.mk.inj same
        exact ⟨_, given, by simp, rfl⟩
      · obtain ⟨position', other, inside, same⟩ := ih later
        exact ⟨position', other, by simp [inside], same⟩

end Reshape.Expr
