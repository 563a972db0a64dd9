import SensorRules.Proofs.Expression.Grammar
import SensorRules.Proofs.Pattern.Matching
import SensorRules.Proofs.Pattern.Nesting

/-!
Tests of whole values.

* `Pattern.group?_closing`: a literal that is a pattern by itself stays in the group that is put
  around it, or swallows the end of the group, which is refused;
* `Pattern.wholeValue?_eq`: so what is read of it with anchors is that pattern between the anchors;
* `Expression.matches_whole_value`: the test with such a literal holds of the values that the
  literal matches from the first character to the last one, and of no others;
* `Expression.matches_beyond_group`: a literal that is no pattern by itself may close the group and
  be accepted all the same; the test then holds of values of which only a part is matched.
-/

namespace SensorRules

namespace Pattern

variable [PropertyTable] {cs : List Char} {fuel : Nat} {part whole : Part} {scope : Scope}
  {pattern : Pattern} {literal : String}

/-! ### The pattern between anchors -/

lemma item?_textStart (fuel : Nat) (cs : List Char) :
    item? (fuel + 1) {} ('^' :: '(' :: cs) = some ((.ofAnchor .textStart, {}), '(' :: cs) := by
  rw [item?_of_ne fuel {} (by simp)]
  rfl

lemma item?_textEnd (fuel : Nat) (h : scope.mode = {}) :
    item? (fuel + 1) scope ['$'] = some ((.ofAnchor .textEnd, scope), []) := by
  rw [item?_of_ne fuel scope (by simp), h]
  rfl

lemma sequence?_nil (fuel : Nat) (scope : Scope) :
    sequence? (fuel + 1) scope [] = some (([], scope), []) := by
  have hskip : scope.mode.skipLayout [] = [] := by
    unfold Mode.skipLayout
    split <;> rfl
  rw [sequence?, hskip]

/-- Without layout, a part is read before the rest of a sequence unless that is at its end. -/
lemma sequence?_cons {c : Char} (h : scope.mode = {}) (hbar : c ≠ '|') (hbracket : c ≠ ')') :
    sequence? (fuel + 1) scope (c :: cs) = (do
      let ((p, scope), rest) ← item? fuel scope (c :: cs)
      let ((ps, scope), rest) ← sequence? fuel scope rest
      some ((p :: ps, scope), rest)) := by
  rw [sequence?, h]
  split
  next heq => cases heq
  next heq => exact absurd (List.cons.inj heq).1 hbar
  next heq => exact absurd (List.cons.inj heq).1 hbracket
  next => rfl

lemma item?_group (fuel : Nat) (cs : List Char) :
    item? (fuel + 1) {} ('(' :: '?' :: ':' :: cs) = group? fuel none {} {} cs :=
  rfl

lemma sequence?_textEnd (fuel : Nat) (h : scope.mode = {}) :
    sequence? (fuel + 2) scope ['$'] = some (([.ofAnchor .textEnd], scope), []) := by
  rw [sequence?_cons h (by decide) (by decide), item?_textEnd fuel h]
  simp only [Option.bind_eq_bind, Option.bind_some, sequence?_nil]

/-- The group around a literal that is a pattern by itself holds just this pattern, or it is not
closed. -/
lemma group?_closing (hpart : readPart? cs = some part) (hfuel : 4 * cs.length + 4 ≤ fuel) :
    (∃ scope : Scope, scope.mode = {} ∧
      group? (fuel + 1) none {} {} (cs ++ closing) = some ((part.group none, scope), ['$'])) ∨
    group? (fuel + 1) none {} {} (cs ++ closing) = none := by
  unfold readPart? at hpart
  split at hpart
  next ps scope hps =>
    cases hpart
    obtain ⟨rest, hrest, hprolonged⟩ := (prolongingAt hfuel).alternatives {} hps .kept
    rcases hprolonged.nil with rfl | rfl
    · exact .inr (by simp only [group?, hrest]; rfl)
    · exact .inl ⟨{ scope with mode := {} }, rfl, by simp only [group?, hrest]; rfl⟩
  next => cases hpart

/-- A group between anchors: the group and what follows it are still to be read. -/
lemma sequence?_anchored (fuel : Nat) (cs : List Char) :
    sequence? (fuel + 4) {} ('^' :: '(' :: '?' :: ':' :: cs) = (do
      let ((p, scope), rest) ← group? (fuel + 1) none {} {} cs
      let ((ps, scope), rest) ← sequence? (fuel + 2) scope rest
      some ((.ofAnchor .textStart :: p :: ps, scope), rest)) := by
  rw [sequence?_cons rfl (by decide) (by decide), item?_textStart]
  simp only [Option.bind_eq_bind, Option.bind_some]
  rw [sequence?_cons rfl (by decide) (by decide), item?_group]
  cases group? (fuel + 1) none {} {} cs with
  | none => rfl
  | some r =>
      obtain ⟨⟨p, scope⟩, rest⟩ := r
      simp only [Option.bind_eq_bind, Option.bind_some]
      cases sequence? (fuel + 2) scope rest <;> rfl

lemma pattern_of_anchored (hpart : readPart? cs = some part)
    (hread : readPart? ('^' :: '(' :: '?' :: ':' :: (cs ++ closing)) = some whole) :
    whole.pattern = append (anchor .textStart) (append part.pattern (anchor .textEnd)) := by
  have hfuel : 4 * ('^' :: '(' :: '?' :: ':' :: (cs ++ closing)).length + 4 =
      4 * cs.length + 23 + 5 := by
    simp only [closing, List.length_cons, List.length_append, List.length_nil]
    omega
  rw [readPart?, hfuel, alternatives?, sequence?_anchored] at hread
  have hdeep : 4 * cs.length + 4 ≤ 4 * cs.length + 23 := by omega
  rcases group?_closing hpart hdeep with ⟨scope, hmode, hgroup⟩ | hgroup
  · simp only [hgroup, Option.bind_eq_bind, Option.bind_some, sequence?_textEnd _ hmode] at hread
    cases hread
    rfl
  · simp only [hgroup, Option.bind_eq_bind, Option.bind_none] at hread
    cases hread

lemma wholeValue?_eq (hpart : readPart? literal.toList = some part)
    (hwhole : wholeValue? literal = some pattern) :
    pattern = append (anchor .textStart) (append part.pattern (anchor .textEnd)) := by
  obtain ⟨whole, hadmitted, rfl⟩ := Option.map_eq_some_iff.mp hwhole
  exact pattern_of_anchored hpart (Option.filter_eq_some_iff.mp hadmitted).1

end Pattern

namespace Expression

variable {text field literal : String} {p : Pattern} {negated : Bool} {part : Pattern.Part}

/-- **Whole values.** Let the literal of a test that is accepted be a pattern by itself, however its
branches, groups, flags and comments are written. Then the test holds of just the values that the
literal matches from the first character to the last one. This is so whichever characters have the
properties that the literal names. -/
theorem matches_whole_value [Pattern.PropertyTable]
    (hread : read text = .ok (.textual field (.fits p) negated literal))
    (hpart : Pattern.readPart? literal.toList = some part) (value : String) :
    (TextTest.fits p).holds value literal = true ↔
      part.pattern.Matches value.toList 0 value.toList.length := by
  have hwrites : Writes text (Text.words text) (.ok (.textual field (.fits p) negated literal)) :=
    ofWords_eq_iff.mp hread
  generalize Text.words text = ws at hwrites
  obtain ⟨bare, hbare, hwhole⟩ : ∃ bare, Text.sameLetters bare "matches" = true ∧
      Pattern.wholeValue? literal = some p := by
    cases hwrites with
    | compares h =>
        cases h with
        | textual _ _ hnamed =>
            cases hnamed with
            | fits hmatches hp => exact ⟨_, hmatches, hp⟩
    | asks _ h => cases h
  rw [TextTest.holds, Pattern.wholeValue?_eq hpart hwhole, Pattern.occursIn_between_anchors]

/-- One letter after the other. -/
def letters (cs : List Char) : List Pattern :=
  cs.map fun c => .set (.single c)

/-- The words `on`, `open` and `opened`. -/
def onOrOpen : Pattern :=
  .either (.inOrder (letters ['o', 'n']))
    (.inOrder (letters ['o', 'p', 'e', 'n'] ++
      [.repeated (.inOrder (letters ['e', 'd'])) 0 (some 1)]))

/-- The branches of a choice stay between the anchors: it is not enough that `on` begins the value
or that `opened` ends it. -/
theorem matches_whole_value_onOrOpen :
    ∃ p part, read "STATE matches on|open(ed)?" =
        .ok (.textual "STATE" (.fits p) false "on|open(ed)?") ∧
      Pattern.readPart? "on|open(ed)?".toList = some part ∧ part.pattern = onOrOpen ∧
      (∀ value, (TextTest.fits p).holds value "on|open(ed)?" = true ↔
        part.pattern.Matches value.toList 0 value.toList.length) ∧
      (TextTest.fits p).holds "opened" "on|open(ed)?" = true ∧
      (TextTest.fits p).holds "only" "on|open(ed)?" = false ∧
      (TextTest.fits p).holds "reopened" "on|open(ed)?" = false := by
  have hread : read "STATE matches on|open(ed)?" =
      .ok (.textual "STATE"
        (.fits (.append (.anchor .textStart) (.append onOrOpen (.anchor .textEnd)))) false
        "on|open(ed)?") := by decide +kernel
  have hsome : (Pattern.readPart? "on|open(ed)?".toList).map (·.pattern) = some onOrOpen := by
    decide +kernel
  obtain ⟨part, hpart, hpattern⟩ := Option.map_eq_some_iff.mp hsome
  refine ⟨_, part, hread, hpart, hpattern, matches_whole_value hread hpart, ?_, ?_, ?_⟩
  all_goals decide +kernel

/-- The letter `a` at the beginning, or `b` at the end. -/
def startsOrEnds : Pattern :=
  .either (.append (.anchor .textStart) (.set (.single 'a')))
    (.append (.set (.single 'b')) (.anchor .textEnd))

/-- Brackets in the literal may close the group around it. Such a literal is no pattern by itself,
and yet it is accepted; each anchor then stands on one side of a choice only. -/
theorem matches_beyond_group :
    read "STATE matches a)|(?:b" = .ok (.textual "STATE" (.fits startsOrEnds) false "a)|(?:b") ∧
      (TextTest.fits startsOrEnds).holds "ax" "a)|(?:b" = true ∧
      Pattern.readPart? "a)|(?:b".toList = none := by
  refine ⟨?_, ?_, ?_⟩ <;> decide +kernel

end Expression

end SensorRules
