import SensorRules.Proofs.Expression.Grammar
import SensorRules.Proofs.Expression.Negating

/-!
The two spellings of negation: the word `not` apart from what it negates, and fused to it.

* `Operator`: the operators on numbers and on texts, none of which begins with `not` itself
  (`Operator.strips`);
* `Expression.read_negated`: a comparison whose operator is negated, in whichever spelling, is the
  plain comparison with the opposite sign;
* `Expression.compared_capability`: a capability with one argument looks like the operator of a
  comparison, and does so in both spellings;
* `Expression.negation_spellings`: the two spellings are read alike.
-/

namespace SensorRules

open Text (sameLetters lowercase)

variable {op op' bare bare' field literal text text' word head : String} {negated negated' : Bool}
  {ws args : List String} {c : Char} {rest : List Char}

/-! ### Letters -/

lemma lowercase_append (s t : String) : lowercase (s ++ t) = lowercase s ++ lowercase t := by
  simp [lowercase]

/-- The small letters of ASCII, by their places in the alphabet after the `a`. -/
lemma exists_eq_ofNat (hc : c.isLower = true) : ∃ i : Fin 26, c = Char.ofNat (97 + i) := by
  change (decide (97 ≤ c.toNat) && decide (c.toNat ≤ 122)) = true at hc
  rw [Bool.and_eq_true, decide_eq_true_iff, decide_eq_true_iff] at hc
  refine ⟨⟨c.toNat - 97, by omega⟩, ?_⟩
  have hplace : 97 + (c.toNat - 97) = c.toNat := by omega
  rw [hplace, Char.ofNat_toNat]

/-- A small letter is got back from its capital letter. -/
lemma toUpper_of_isLower (hc : c.isLower = true) :
    c.toUpper.isUpper = true ∧ c.toUpper.toLower = c ∧ c.toLower = c := by
  have hall : ∀ i : Fin 26, let c := Char.ofNat (97 + i)
      c.toUpper.isUpper = true ∧ c.toUpper.toLower = c ∧ c.toLower = c := by decide
  obtain ⟨i, rfl⟩ := exists_eq_ofNat hc
  exact hall i

lemma sameLetters_toUpper (hc : c.isLower = true) :
    sameLetters (String.ofList (c :: rest)) (String.ofList (c.toUpper :: rest)) = true := by
  obtain ⟨-, hback, hsame⟩ := toUpper_of_isLower hc
  simp [sameLetters_iff, lowercase, hback, hsame]

/-- What begins with a letter is no sign. -/
lemma ofSign?_ofList_eq_none (hc : c.isUpper = true ∨ c.isLower = true) :
    Comparison.ofSign? (String.ofList (c :: rest)) = none := by
  refine Option.eq_none_iff_forall_ne_some.mpr fun comparison hsome => ?_
  have hfirst : comparison.sign.toList.head? = some c := by
    rw [← ofSign?_eq_some_iff.mp hsome, String.toList_ofList, List.head?_cons]
  have hsign : comparison.sign.toList.head?.map Char.isAlpha = some false := by
    cases comparison <;> rfl
  have halpha : c.isAlpha = true := Bool.or_eq_true_iff.mpr hc
  rw [hfirst, Option.map_some, halpha] at hsign
  cases hsign

/-! ### Operators -/

/-- The operators: the signs of the comparisons, and the names of the tests in any case. -/
inductive Operator : String → Prop
  | comparison (c : Comparison) : Operator c.sign
  | test (test : TextTest) {op : String} : sameLetters op test.name = true → Operator op

/-- An operator begins with another character than `not`. -/
lemma Operator.exists_first (h : Operator op) :
    ∃ d, d ≠ 'n' ∧ (lowercase op).toList.head? = some d := by
  cases h with
  | comparison c => cases c <;> refine ⟨_, ?_, rfl⟩ <;> decide
  | test test hop =>
      rw [sameLetters_iff.mp hop]
      cases test with
      | equals => exact ⟨'e', by decide, rfl⟩
      | contains => exact ⟨'c', by decide, rfl⟩
      | startsWith => exact ⟨'s', by decide, rfl⟩
      | endsWith => exact ⟨'e', by decide, rfl⟩
      | fits p =>
          have hfirst : (lowercase "matches").toList.head? = some 'm' := rfl
          exact ⟨'m', by decide, hfirst⟩

lemma Operator.ne_empty (h : Operator op) : op ≠ "" := by
  rintro rfl
  obtain ⟨d, -, hfirst⟩ := h.exists_first
  cases hfirst

lemma Operator.strips (h : Operator op) : Strips op false op := by
  obtain ⟨d, hd, hfirst⟩ := h.exists_first
  refine .plain fun word bare hop hword => absurd ?_ hd
  rw [hop, lowercase_append, sameLetters_iff.mp hword, String.toList_append] at hfirst
  exact (Option.some.inj hfirst).symm

lemma strips_not (h : bare ≠ "") : Strips ("not" ++ bare) true bare :=
  .negated (by decide) h

lemma Strips.unique (h : Strips op negated bare) (h' : Strips op negated' bare') :
    negated = negated' ∧ bare = bare' :=
  Prod.mk.inj (h.splitNot_eq.symm.trans h'.splitNot_eq)

namespace Expression

/-! ### Comparisons -/

/-- An operator makes a comparison of any field and literal, if only one that fails. -/
lemma exists_compares (hop : Operator bare) (text : String) (hops : Operands ws field op literal)
    (hstrips : Strips op negated bare) : ∃ r, Compares text ws r := by
  cases hop with
  | comparison c =>
      cases hvalue : Number.firstNumber literal with
      | some value => exact ⟨_, .numeric hops hstrips hvalue⟩
      | none => exact ⟨_, .noNumber hops hstrips hvalue⟩
  | test test hname =>
      cases test with
      | equals => exact ⟨_, .textual hops hstrips (.equals hname)⟩
      | contains => exact ⟨_, .textual hops hstrips (.contains hname)⟩
      | startsWith => exact ⟨_, .textual hops hstrips (.startsWith hname)⟩
      | endsWith => exact ⟨_, .textual hops hstrips (.endsWith hname)⟩
      | fits =>
          cases hp : Pattern.wholeValue? literal with
          | some p => exact ⟨_, .textual hops hstrips (.fits hname hp)⟩
          | none => exact ⟨_, .noPattern hops hstrips hname hp⟩

/-- If its operator is negated, the comparison has the opposite sign and fails in the same way. -/
lemma Compares.opposite {r : Except Error Expression} (h : Compares text [field, bare, literal] r)
    (hbare : Strips bare false bare) (hops : Operands ws field op literal)
    (hstrips : Strips op true bare) :
    Compares text' ws ((r.map negate).mapError (Error.quoting text')) := by
  cases h with
  | numeric hops' hstrips' hvalue =>
      cases hops'
      obtain ⟨rfl, rfl⟩ := hbare.unique hstrips'
      exact .numeric hops hstrips hvalue
  | noNumber hops' hstrips' hnone =>
      cases hops'
      obtain ⟨rfl, rfl⟩ := hbare.unique hstrips'
      exact .noNumber hops hstrips hnone
  | textual hops' hstrips' hnamed =>
      cases hops'
      obtain ⟨rfl, rfl⟩ := hbare.unique hstrips'
      exact .textual hops hstrips hnamed
  | noPattern hops' hstrips' hmatches hnone =>
      cases hops'
      obtain ⟨rfl, rfl⟩ := hbare.unique hstrips'
      exact .noPattern hops hstrips hmatches hnone

/-- Whichever way its operator is negated, a comparison is read as the plain one with the opposite
sign. -/
lemma read_negated (hop : Operator bare) (hops : Operands (Text.words text') field op literal)
    (hstrips : Strips op true bare) (text : String) : read text' =
      ((ofWords text [field, bare, literal]).map negate).mapError (Error.quoting text') := by
  obtain ⟨r, hr⟩ := exists_compares hop text .three hop.strips
  rw [ofWords_eq_iff.mpr (.compares hr)]
  exact ofWords_eq_iff.mpr (.compares (hr.opposite hop.strips hops hstrips))

lemma mapError_quoting (r : Except Error Expression) :
    (r.mapError (Error.quoting text)).mapError (Error.quoting text') =
      r.mapError (Error.quoting text') := by
  cases r with
  | error e => cases e <;> rfl
  | ok e => rfl

/-! ### Capabilities -/

lemma textTest_read_congr (h : sameLetters bare bare' = true) :
    TextTest.read bare literal = TextTest.read bare' literal := by
  rw [TextTest.read, TextTest.read, sameLetters_iff.mp h]

/-- A negated operator that is no sign may be in any case. -/
lemma comparison_congr (hstrips : Strips op true bare) (hstrips' : Strips op' true bare')
    (hsign : Comparison.ofSign? bare = none) (hsign' : Comparison.ofSign? bare' = none)
    (h : sameLetters bare bare' = true) :
    comparison text field op literal = comparison text' field op' literal := by
  simp only [comparison, hstrips.splitNot_eq, hstrips'.splitNot_eq, hsign, hsign',
    textTest_read_congr h]

lemma compared_three :
    compared text [field, op, literal] = comparison text field op literal := rfl

lemma compared_four (hword : sameLetters word "not" = true) :
    compared text [field, word, op, literal] = comparison text field ("not" ++ op) literal := by
  rw [compared, operands?, if_pos hword]

/-- The word `not` is no operator. -/
lemma comparison_not (hword : sameLetters word "not" = true) :
    comparison text field word literal = .ok none := by
  have hplain : Strips word false word := by
    refine .plain fun word' bare hparts hword' => ?_
    obtain ⟨_, _, _, hletters⟩ := exists_letters hword
    obtain ⟨_, _, _, hletters'⟩ := exists_letters hword'
    rw [hparts, String.toList_append, hletters'] at hletters
    simpa using congrArg List.length hletters
  have hsign : Comparison.ofSign? word = none := by
    refine Option.eq_none_iff_forall_ne_some.mpr fun comparison hsome => ?_
    rw [ofSign?_eq_some_iff.mp hsome] at hword
    cases comparison <;> exact absurd hword (by decide)
  have htest : TextTest.read word literal = .ok none := by
    rw [textTest_read_congr hword]
    rfl
  simp only [comparison, hplain.splitNot_eq, hsign, htest]
  rfl

/-- A capability that is negated looks like a comparison in both spellings or in none, and like the
same one. -/
lemma compared_capability (hword : sameLetters word "not" = true) (hc : c.isLower = true) :
    compared text (head :: word :: String.ofList (c :: rest) :: args) =
      compared text' (head :: ("not" ++ String.ofList (c.toUpper :: rest)) :: args) := by
  match args with
  -- Apart, the word itself stands where the operator would.
  | [] => exact comparison_not hword
  | [literal] =>
      rw [compared_four hword, compared_three]
      have hupper := (toUpper_of_isLower hc).1
      refine comparison_congr (strips_not (by simp)) (strips_not (by simp)) ?_ ?_
        (sameLetters_toUpper hc)
      · exact ofSign?_ofList_eq_none (.inr hc)
      · exact ofSign?_ofList_eq_none (.inl hupper)
  -- Fused, the capability stands where the word `not` would.
  | [a, b] =>
      have hnone : compared text' [head, "not" ++ String.ofList (c.toUpper :: rest), a, b] =
          .ok none := by
        rw [compared, operands?, if_neg not_sameLetters_fused]
      rw [hnone]
      rfl
  | a :: b :: d :: more => rfl

/-- A capability that is negated is called in both spellings. -/
lemma calls_capability (rest : List Char) (args : List String)
    (hword : sameLetters word "not" = true) (hc : c.isLower = true) :
    let call : Call := ⟨String.ofList (c :: rest), true, args⟩
    Calls (word :: String.ofList (c :: rest) :: args) call ∧
      Calls (("not" ++ String.ofList (c.toUpper :: rest)) :: args) call := by
  obtain ⟨hupper, hback, -⟩ := toUpper_of_isLower hc
  have hfused : Calls (("not" ++ String.ofList (c.toUpper :: rest)) :: args)
      ⟨String.ofList (c.toUpper.toLower :: rest), true, args⟩ := .fused hupper
  rw [hback] at hfused
  exact ⟨.negated hword, hfused⟩

lemma ofWords_congr {ws' : List String} {e : Expression}
    (hcompared : compared text ws = compared text' ws') (he : Asks ws e) (he' : Asks ws' e) :
    ofWords text ws = ofWords text' ws' := by
  have hne : ∀ {ws}, Asks ws e → ws ≠ [] := by
    rintro _ h rfl
    cases h
  rw [ofWords_eq (hne he), ofWords_eq (hne he'), hcompared, question?_eq_some_iff.mpr he,
    question?_eq_some_iff.mpr he']

/-- **The two spellings of negation.** The word `not`, in any case, may stand apart from an operator
or be fused to it: what is read is the same, but that an error may quote the text, and it is the
comparison without `not` with the opposite sign. The word may also stand apart from a capability
that begins with a small letter, or be fused to it, which then begins with a capital letter: what
is read is the same, whatever the arguments are. -/
theorem negation_spellings :
    (∀ field op literal word word' apart fused, Operator op → sameLetters word "not" = true →
      sameLetters word' "not" = true → Text.words apart = [field, word, op, literal] →
      Text.words fused = [field, word' ++ op, literal] →
      read fused = (read apart).mapError (Error.quoting fused) ∧
      ∀ plain, Text.words plain = [field, op, literal] →
        read apart = ((read plain).map negate).mapError (Error.quoting apart)) ∧
    ∀ head word c rest args apart fused, head = "Sensor" ∨ head = "Predicate" →
      sameLetters word "not" = true → c.isLower = true →
      Text.words apart = head :: word :: String.ofList (c :: rest) :: args →
      Text.words fused = head :: ("not" ++ String.ofList (c.toUpper :: rest)) :: args →
      read fused = read apart := by
  constructor
  · intro field op literal word word' apart fused hop hword hword' hapart hfused
    have hops : Operands (Text.words apart) field ("not" ++ op) literal := by
      rw [hapart]
      exact .four hword
    have hops' : Operands (Text.words fused) field (word' ++ op) literal := by
      rw [hfused]
      exact .three
    have hreadApart := read_negated hop hops (strips_not hop.ne_empty)
    have hreadFused := read_negated hop hops' (.negated hword' hop.ne_empty)
    refine ⟨?_, fun plain hplain => ?_⟩
    · rw [hreadFused "", hreadApart "", mapError_quoting]
    · rw [hreadApart plain, ← hplain]
      rfl
  · intro head word c rest args apart fused hhead hword hc hapart hfused
    obtain ⟨hcalls, hcalls'⟩ := calls_capability rest args hword hc
    rw [read, read, hapart, hfused]
    rcases hhead with rfl | rfl
    · exact (ofWords_congr (compared_capability hword hc) (.sensor hcalls) (.sensor hcalls')).symm
    · exact (ofWords_congr (compared_capability hword hc) (.general hcalls) (.general hcalls')).symm

/-- A field that is called like the beginning of a question, and a test that could be a capability:
the comparison is tried before. -/
theorem negation_spellings_contains :
    read "Sensor NOTcontains ajar" = .ok (.textual "Sensor" .contains true "ajar") ∧
    read "Sensor notContains ajar" = .ok (.textual "Sensor" .contains true "ajar") := by
  have hplain : read "Sensor contains ajar" = .ok (.textual "Sensor" .contains false "ajar") := by
    decide +kernel
  obtain ⟨hfused, hsign⟩ := negation_spellings.1 "Sensor" "contains" "ajar" "not" "NOT"
    "Sensor not contains ajar" "Sensor NOTcontains ajar" (.test .contains (by decide)) (by decide)
    (by decide) (by decide +kernel) (by decide +kernel)
  have hapart := hsign "Sensor contains ajar" (by decide +kernel)
  rw [hplain] at hapart
  have hcall := negation_spellings.2 "Sensor" "not" 'c' "ontains".toList ["ajar"]
    "Sensor not contains ajar" "Sensor notContains ajar" (.inl rfl) (by decide) (by decide)
    (by decide +kernel) (by decide +kernel)
  rw [hcall, hfused, hapart]
  exact ⟨rfl, rfl⟩

end Expression

end SensorRules
