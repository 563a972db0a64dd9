import Mathlib.Data.List.Basic
import SensorRules.Expression.Reader
import SensorRules.Proofs.Text.Words

/-!
The grammar of expressions.

* `Strips`: how `not` comes off an operator (`Strips.splitNot_eq`);
* `TextTest.Named`: the tests of texts under the names of their operators;
* `Calls`: the words that ask a capability with arguments (`calls_iff`);
* `Expression.Compares`: words in the form of a comparison, with the expression or the error that
  they give; `Expression.Asks`: words that ask a capability of sensors or of the house;
* `Expression.Writes`: all words, a comparison before a question;
* `Expression.read_grammar`: a text is read as its words write it, and only its words count.

Nothing is assumed of the engine that compiles patterns: a literal with `matches` is refused if and
only if the engine refuses it between the anchors.
-/

namespace SensorRules

open Text (sameLetters lowercase)

variable {op bare field literal text text' word : String} {negated : Bool} {ws : List String}
  {call : Call} {test : TextTest}

lemma sameLetters_iff {s t : String} : sameLetters s t = true ↔ lowercase s = lowercase t := by
  rw [sameLetters, beq_iff_eq]

/-! ### Negation of operators -/

/-- `bare` is what is left of an operator when `not`, in any case, is taken off its beginning,
unless nothing would be left. -/
inductive Strips : (op : String) → (negated : Bool) → (bare : String) → Prop
  | negated {word bare : String} : sameLetters word "not" = true → bare ≠ "" →
      Strips (word ++ bare) true bare
  | plain {op : String} :
      (∀ word bare, op = word ++ bare → sameLetters word "not" = true → bare = "") →
      Strips op false op

/-- The word `not` has three letters in any case. -/
lemma exists_letters (h : sameLetters word "not" = true) : ∃ a b c, word.toList = [a, b, c] := by
  have hlower : word.toList.map Char.toLower = ['n', 'o', 't'] := by
    have heq := congrArg String.toList (sameLetters_iff.mp h)
    rw [lowercase, String.toList_ofList] at heq
    exact heq.trans (by decide)
  have hlength : word.toList.length = 3 := by simpa using congrArg List.length hlower
  exact List.length_eq_three.mp hlength

/-- The word `not` with something fused to it is another word. -/
lemma not_sameLetters_fused {c : Char} {rest : List Char} :
    ¬ sameLetters ("not" ++ String.ofList (c :: rest)) "not" = true := by
  intro h
  obtain ⟨_, _, _, hletters⟩ := exists_letters h
  simpa using congrArg List.length hletters

lemma strips_splitNot (op : String) : Strips op (splitNot op).1 (splitNot op).2 := by
  rw [splitNot]
  split
  next a b c d rest hop =>
    split
    next hnot =>
      have hparts : op = String.ofList [a, b, c] ++ String.ofList (d :: rest) := by
        rw [← String.ofList_append, ← String.ofList_toList (s := op), hop]
        rfl
      have hrest : String.ofList (d :: rest) ≠ "" := by simp
      have hstrips := Strips.negated hnot hrest
      rwa [← hparts] at hstrips
    next hnot =>
      refine .plain fun word bare hparts hword => absurd ?_ hnot
      obtain ⟨a', b', c', hletters⟩ := exists_letters hword
      have hlist : a :: b :: c :: d :: rest = a' :: b' :: c' :: bare.toList := by
        rw [← hop, hparts, String.toList_append, hletters]
        rfl
      simp only [List.cons.injEq] at hlist
      obtain ⟨rfl, rfl, rfl, -⟩ := hlist
      rwa [← hletters, String.ofList_toList]
  next hshort =>
    refine .plain fun word bare hparts hword => ?_
    obtain ⟨a, b, c, hletters⟩ := exists_letters hword
    cases hbare : bare.toList with
    | nil => exact String.toList_eq_nil_iff.mp hbare
    | cons d rest =>
        refine absurd ?_ (hshort a b c d rest)
        rw [hparts, String.toList_append, hletters, hbare]
        rfl

lemma Strips.splitNot_eq (h : Strips op negated bare) : splitNot op = (negated, bare) := by
  -- Only one way to take `not` off is left by the other rule.
  have hsplit := strips_splitNot op
  cases h with
  | @negated word bare hword hbare =>
      obtain ⟨a, b, c, hletters⟩ := exists_letters hword
      obtain ⟨d, rest, hrest⟩ : ∃ d rest, bare.toList = d :: rest :=
        List.exists_cons_of_ne_nil fun hnil => hbare (String.toList_eq_nil_iff.mp hnil)
      have hop : (word ++ bare).toList = a :: b :: c :: d :: rest := by
        rw [String.toList_append, hletters, hrest]
        rfl
      have hword' : sameLetters (String.ofList [a, b, c]) "not" = true := by
        rwa [← hletters, String.ofList_toList]
      rw [splitNot, hop]
      simp only [hword', if_true, ← hrest, String.ofList_toList]
  | plain hnone =>
      generalize splitNot op = split at hsplit
      obtain ⟨negated, bare⟩ := split
      cases hsplit with
      | negated hword hbare => exact absurd (hnone _ _ rfl hword) hbare
      | plain => rfl

/-! ### Operators -/

lemma ofSign?_eq_some_iff {sign : String} {c : Comparison} :
    Comparison.ofSign? sign = some c ↔ sign = c.sign := by
  constructor
  · intro h
    unfold Comparison.ofSign? at h
    split at h
    case h_7 => cases h
    all_goals
      obtain rfl := Option.some.inj h
      rfl
  · rintro rfl
    cases c <;> rfl

/-- The test under the name of its operator, which may be in any case. With `matches` it is the
pattern made of the literal between anchors that the value must fit. -/
inductive TextTest.Named [Pattern.Compiler] (bare literal : String) : TextTest → Prop
  | equals : sameLetters bare "equals" = true → Named bare literal .equals
  | contains : sameLetters bare "contains" = true → Named bare literal .contains
  | startsWith : sameLetters bare "startsWith" = true → Named bare literal .startsWith
  | endsWith : sameLetters bare "endsWith" = true → Named bare literal .endsWith
  | fits {p : Pattern} : sameLetters bare "matches" = true →
      Pattern.Compiler.compile? ("^(?:".toList ++ literal.toList ++ ")$".toList) = some p →
      Named bare literal (.fits p)

/-- A literal that makes no pattern between the anchors. -/
def NoPattern [Pattern.Compiler] (literal : String) : Prop :=
  Pattern.Compiler.compile? ("^(?:".toList ++ literal.toList ++ ")$".toList) = none

lemma lowercase_of_matches (h : sameLetters bare "matches" = true) : lowercase bare = "matches" :=
  (sameLetters_iff.mp h).trans (by decide)

lemma textTest_read_eq_ok_iff [Pattern.Compiler] :
    TextTest.read bare literal = .ok (some test) ↔ test.Named bare literal := by
  constructor
  · intro h
    rw [TextTest.read] at h
    split at h
    next heq => cases h; exact .equals (sameLetters_iff.mpr heq)
    next heq => cases h; exact .contains (sameLetters_iff.mpr heq)
    next heq => cases h; exact .startsWith (sameLetters_iff.mpr heq)
    next heq => cases h; exact .endsWith (sameLetters_iff.mpr heq)
    next heq =>
      split at h
      next p hp => cases h; exact .fits (sameLetters_iff.mpr heq) hp
      next => cases h
    next => cases h
  · intro h
    cases h with
    | equals h => rw [TextTest.read, sameLetters_iff.mp h]; rfl
    | contains h => rw [TextTest.read, sameLetters_iff.mp h]; rfl
    | startsWith h => rw [TextTest.read, sameLetters_iff.mp h]; rfl
    | endsWith h => rw [TextTest.read, sameLetters_iff.mp h]; rfl
    | fits h hp =>
        have hp' : Pattern.wholeValue? literal = some _ := hp
        simp only [TextTest.read, lowercase_of_matches h, hp']

lemma textTest_read_eq_error_iff [Pattern.Compiler] {e : Expression.Error} :
    TextTest.read bare literal = .error e ↔
      sameLetters bare "matches" = true ∧ NoPattern literal ∧ e = .invalidPattern literal := by
  constructor
  · intro h
    rw [TextTest.read] at h
    split at h
    case h_5 heq =>
      split at h
      next => cases h
      next hp => cases h; exact ⟨sameLetters_iff.mpr heq, hp, rfl⟩
    all_goals cases h
  · rintro ⟨h, hp, rfl⟩
    have hp' : Pattern.wholeValue? literal = none := hp
    simp only [TextTest.read, lowercase_of_matches h, hp']

/-- The sign of a comparison names no test of texts. -/
lemma ofSign?_eq_none_of_read [Pattern.Compiler] (h : TextTest.read bare literal ≠ .ok none) :
    Comparison.ofSign? bare = none := by
  refine Option.eq_none_iff_forall_ne_some.mpr fun c hc => h ?_
  obtain rfl := ofSign?_eq_some_iff.mp hc
  cases c <;> rfl

/-! ### Capabilities -/

/-- The words ask a capability: its name and its arguments, after the word `not` in any case or with
`not` fused to the name. An upper-case letter of ASCII must follow then, which is taken in lower
case. -/
inductive Calls : List String → Call → Prop
  | negated {word name : String} {args : List String} : sameLetters word "not" = true →
      Calls (word :: name :: args) ⟨name, true, args⟩
  | fused {c : Char} {rest : List Char} {args : List String} : c.isUpper = true →
      Calls (("not" ++ String.ofList (c :: rest)) :: args)
        ⟨String.ofList (c.toLower :: rest), true, args⟩
  | plain {name : String} {args : List String} : sameLetters name "not" = false →
      (∀ c rest, name = "not" ++ String.ofList (c :: rest) → c.isUpper = false) →
      Calls (name :: args) ⟨name, false, args⟩

lemma splitFusedNot?_eq_some_iff {name' : String} : splitFusedNot? name = some name' ↔
    ∃ c rest, c.isUpper = true ∧ name = "not" ++ String.ofList (c :: rest) ∧
      name' = String.ofList (c.toLower :: rest) := by
  constructor
  · intro h
    unfold splitFusedNot? at h
    split at h
    next c rest hname =>
      obtain ⟨hc, ⟨⟩⟩ := Option.ite_none_right_eq_some.mp h
      refine ⟨c, rest, hc, String.toList_inj.mp ?_, rfl⟩
      simp [hname]
    next => cases h
  · rintro ⟨c, rest, hc, rfl, rfl⟩
    have hname : ("not" ++ String.ofList (c :: rest)).toList = 'n' :: 'o' :: 't' :: c :: rest := by
      simp
    simp only [splitFusedNot?, hname, hc, if_true]

lemma calls_iff : call? ws = some call ↔ Calls ws call := by
  constructor
  · intro h
    unfold call? at h
    split at h
    next => cases h
    next first rest =>
      split at h
      next hnot =>
        split at h
        next => cases h
        next name args => cases h; exact .negated hnot
      next hnot =>
        split at h
        next name hname =>
          cases h
          obtain ⟨c, more, hc, rfl, rfl⟩ := splitFusedNot?_eq_some_iff.mp hname
          exact .fused hc
        next hname =>
          cases h
          refine .plain (by simpa using hnot) fun c more hfirst => ?_
          rw [Bool.eq_false_iff]
          intro hc
          have hsome := splitFusedNot?_eq_some_iff.mpr ⟨c, more, hc, hfirst, rfl⟩
          rw [hname] at hsome
          cases hsome
  · intro h
    cases h with
    | negated hnot => rw [call?, if_pos hnot]
    | @fused c rest args hc =>
        have hsome := splitFusedNot?_eq_some_iff.mpr ⟨c, rest, hc, rfl, rfl⟩
        simp only [call?, if_neg not_sameLetters_fused, hsome]
    | @plain name args hnot hfused =>
        have hnone : splitFusedNot? name = none := by
          refine Option.eq_none_iff_forall_ne_some.mpr fun name' hsome => ?_
          obtain ⟨c, rest, hc, hname, -⟩ := splitFusedNot?_eq_some_iff.mp hsome
          rw [hfused c rest hname] at hc
          cases hc
        simp only [call?, hnot, hnone, Bool.false_eq_true, if_false]

namespace Expression

/-! ### Comparisons -/

/-- A field, an operator and a literal; the word `not`, in any case, may stand before the operator
and is then joined to it. -/
inductive Operands : List String → (field op literal : String) → Prop
  | three {field op literal : String} : Operands [field, op, literal] field op literal
  | four {field word op literal : String} : sameLetters word "not" = true →
      Operands [field, word, op, literal] field ("not" ++ op) literal

lemma operands?_eq_some_iff :
    operands? ws = some (field, op, literal) ↔ Operands ws field op literal := by
  constructor
  · intro h
    unfold operands? at h
    split at h
    next => cases h; exact .three
    next =>
      split at h
      next hnot => cases h; exact .four hnot
      next => cases h
    next => cases h
  · intro h
    cases h with
    | three => rfl
    | four hnot => rw [operands?, if_pos hnot]

/-- Words in the form of a comparison, with what they give: an expression on a field, or an error if
the literal does not fit the operator. -/
inductive Compares [Pattern.Compiler] (text : String) (ws : List String) :
    Except Error Expression → Prop
  | numeric {field op literal : String} {c : Comparison} {negated : Bool}
      {value : Number.Binary64} : Operands ws field op literal → Strips op negated c.sign →
      Number.firstNumber literal = some value →
      Compares text ws (.ok (.numeric field c negated value))
  | noNumber {field op literal : String} {c : Comparison} {negated : Bool} :
      Operands ws field op literal → Strips op negated c.sign →
      Number.firstNumber literal = none → Compares text ws (.error (.invalidNumber text literal))
  | textual {field op bare literal : String} {test : TextTest} {negated : Bool} :
      Operands ws field op literal → Strips op negated bare → test.Named bare literal →
      Compares text ws (.ok (.textual field test negated literal))
  | noPattern {field op bare literal : String} {negated : Bool} :
      Operands ws field op literal → Strips op negated bare →
      sameLetters bare "matches" = true → NoPattern literal →
      Compares text ws (.error (.invalidPattern literal))

lemma map_some_eq_ok {r : Except Error Expression} {e : Expression}
    (h : r.map some = .ok (some e)) : r = .ok e := by
  cases r <;> cases h
  rfl

lemma map_some_eq_error {r : Except Error Expression} {e : Error} (h : r.map some = .error e) :
    r = .error e := by
  cases r <;> cases h
  rfl

/-- What comes of words in the form of a comparison, or nothing. -/
def compared [Pattern.Compiler] (text : String) (ws : List String) :
    Except Error (Option Expression) :=
  match operands? ws with
  | some (field, op, literal) => comparison text field op literal
  | none => .ok none

lemma compared_eq_iff [Pattern.Compiler] {r : Except Error Expression} :
    compared text ws = r.map some ↔ Compares text ws r := by
  constructor
  · intro h
    unfold compared at h
    split at h
    next field op literal hops =>
      have hops := operands?_eq_some_iff.mp hops
      have hstrips := strips_splitNot op
      unfold comparison at h
      generalize splitNot op = split at h hstrips
      obtain ⟨negated, bare⟩ := split
      simp only at h hstrips
      split at h
      next c hsign =>
        obtain rfl := ofSign?_eq_some_iff.mp hsign
        split at h
        next value hvalue => rw [map_some_eq_ok h.symm]; exact .numeric hops hstrips hvalue
        next hnone => rw [map_some_eq_error h.symm]; exact .noNumber hops hstrips hnone
      next =>
        split at h
        next test htest =>
          cases test with
          | none => cases r <;> cases h
          | some test =>
              rw [map_some_eq_ok h.symm]
              exact .textual hops hstrips (textTest_read_eq_ok_iff.mp htest)
        next e he =>
          obtain ⟨hmatches, hnone, rfl⟩ := textTest_read_eq_error_iff.mp he
          rw [map_some_eq_error h.symm]
          exact .noPattern hops hstrips hmatches hnone
    next => cases r <;> cases h
  · intro h
    cases h with
    | numeric hops hstrips hvalue =>
        rw [compared, operands?_eq_some_iff.mpr hops]
        simp only [comparison, hstrips.splitNot_eq, ofSign?_eq_some_iff.mpr rfl, hvalue]
        rfl
    | noNumber hops hstrips hnone =>
        rw [compared, operands?_eq_some_iff.mpr hops]
        simp only [comparison, hstrips.splitNot_eq, ofSign?_eq_some_iff.mpr rfl, hnone]
        rfl
    | textual hops hstrips hnamed =>
        have hread := textTest_read_eq_ok_iff.mpr hnamed
        have hsign := ofSign?_eq_none_of_read (by rw [hread]; simp)
        rw [compared, operands?_eq_some_iff.mpr hops]
        simp only [comparison, hstrips.splitNot_eq, hsign, hread]
        rfl
    | noPattern hops hstrips hmatches hnone =>
        have hread := textTest_read_eq_error_iff.mpr ⟨hmatches, hnone, rfl⟩
        have hsign := ofSign?_eq_none_of_read (by rw [hread]; simp)
        rw [compared, operands?_eq_some_iff.mpr hops]
        simp only [comparison, hstrips.splitNot_eq, hsign, hread]
        rfl

lemma compared_eq_none_iff [Pattern.Compiler] :
    compared text ws = .ok none ↔ ∀ r, ¬ Compares text ws r := by
  constructor
  · intro h r hr
    rw [compared_eq_iff.mpr hr] at h
    cases r <;> cases h
  · intro h
    cases hcompared : compared text ws with
    | error e => exact absurd (compared_eq_iff.mp hcompared) (h (.error e))
    | ok e =>
        cases e with
        | none => rfl
        | some e => exact absurd (compared_eq_iff.mp hcompared) (h (.ok e))

/-! ### Questions -/

/-- Words that ask a capability of each sensor, or of the house. -/
inductive Asks : List String → Expression → Prop
  | sensor {ws : List String} {call : Call} : Calls ws call →
      Asks ("Sensor" :: ws) (.sensorCall call)
  | general {ws : List String} {call : Call} : Calls ws call →
      Asks ("Predicate" :: ws) (.generalCall call)

lemma question?_eq_some_iff {e : Expression} : question? ws = some e ↔ Asks ws e := by
  constructor
  · intro h
    unfold question? at h
    split at h
    next =>
      obtain ⟨call, hcall, rfl⟩ := Option.map_eq_some_iff.mp h
      exact .sensor (calls_iff.mp hcall)
    next =>
      obtain ⟨call, hcall, rfl⟩ := Option.map_eq_some_iff.mp h
      exact .general (calls_iff.mp hcall)
    next => cases h
  · intro h
    cases h with
    | sensor hcall => rw [question?, calls_iff.mpr hcall]; rfl
    | general hcall => rw [question?, calls_iff.mpr hcall]; rfl

/-! ### Expressions -/

/-- What words write: nothing of its own if there are none, a comparison if they have its form, a
question if they have not; other words are unknown. -/
inductive Writes [Pattern.Compiler] (text : String) (ws : List String) :
    Except Error Expression → Prop
  | aggregate : ws = [] → Writes text ws (.ok .aggregate)
  | compares {r : Except Error Expression} : Compares text ws r → Writes text ws r
  | asks {e : Expression} : (∀ r, ¬ Compares text ws r) → Asks ws e → Writes text ws (.ok e)
  | unknown : ws ≠ [] → (∀ r, ¬ Compares text ws r) → (∀ e, ¬ Asks ws e) →
      Writes text ws (.error (.unknown text))

lemma ofWords_eq [Pattern.Compiler] (hws : ws ≠ []) : ofWords text ws =
    match compared text ws with
    | .error e => .error e
    | .ok (some e) => .ok e
    | .ok none =>
      match question? ws with
      | some e => .ok e
      | none => .error (.unknown text) := by
  rw [ofWords, if_neg (by simpa using hws)]
  rfl

lemma Compares.ne_nil [Pattern.Compiler] {r : Except Error Expression}
    (h : Compares text ws r) : ws ≠ [] := by
  rintro rfl
  cases h with
  | numeric hops => cases hops
  | noNumber hops => cases hops
  | textual hops => cases hops
  | noPattern hops => cases hops

lemma ofWords_eq_iff [Pattern.Compiler] {r : Except Error Expression} :
    ofWords text ws = r ↔ Writes text ws r := by
  constructor
  · rintro rfl
    by_cases hws : ws = []
    · subst hws
      exact .aggregate rfl
    rw [ofWords_eq hws]
    split
    next e he => exact .compares (compared_eq_iff.mp he)
    next e he => exact .compares (compared_eq_iff.mp he)
    next hnone =>
      have hcompares := compared_eq_none_iff.mp hnone
      split
      next e he => exact .asks hcompares (question?_eq_some_iff.mp he)
      next hnone =>
        refine .unknown hws hcompares fun e he => ?_
        rw [question?_eq_some_iff.mpr he] at hnone
        cases hnone
  · intro h
    cases h with
    | aggregate hws => rw [hws]; rfl
    | compares h =>
        rw [ofWords_eq h.ne_nil, compared_eq_iff.mpr h]
        cases r <;> rfl
    | asks hcompares he =>
        have hws : ws ≠ [] := by
          rintro rfl
          cases he
        rw [ofWords_eq hws, compared_eq_none_iff.mpr hcompares, question?_eq_some_iff.mpr he]
    | unknown hws hcompares hasks =>
        have hnone : question? ws = none :=
          Option.eq_none_iff_forall_ne_some.mpr fun e he => hasks e (question?_eq_some_iff.mp he)
        rw [ofWords_eq hws, compared_eq_none_iff.mpr hcompares, hnone]

/-- The same error with another text quoted as the whole expression. -/
def Error.quoting (text : String) : Error → Error
  | unknown _ => unknown text
  | invalidNumber _ literal => invalidNumber text literal
  | invalidPattern literal => invalidPattern literal

lemma Compares.quoting [Pattern.Compiler] {r : Except Error Expression}
    (h : Compares text ws r) :
    Compares text' ws (r.mapError (Error.quoting text')) := by
  cases h with
  | numeric hops hstrips hvalue => exact .numeric hops hstrips hvalue
  | noNumber hops hstrips hnone => exact .noNumber hops hstrips hnone
  | textual hops hstrips hnamed => exact .textual hops hstrips hnamed
  | noPattern hops hstrips hmatches hnone => exact .noPattern hops hstrips hmatches hnone

lemma Writes.quoting [Pattern.Compiler] {r : Except Error Expression} (h : Writes text ws r) :
    Writes text' ws (r.mapError (Error.quoting text')) := by
  have hback (hcompares : ∀ r, ¬ Compares text ws r) : ∀ r, ¬ Compares text' ws r :=
    fun r hr => hcompares _ hr.quoting
  cases h with
  | aggregate hws => exact .aggregate hws
  | compares h => exact .compares h.quoting
  | asks hcompares he => exact .asks (hback hcompares) he
  | unknown hws hcompares hasks => exact .unknown hws (hback hcompares) hasks

/-- **The grammar of expressions.** A text splits into its words. It is read as what these words
write, be it an expression or an error, and as nothing else. Of two texts with the same words the
same is read, but that an error may quote the text. This is so with every engine for patterns. -/
theorem read_grammar [Pattern.Compiler] (text : String) :
    Text.Split text.toList (Text.words text) ∧
    (∀ r, read text = r ↔ Writes text (Text.words text) r) ∧
    ∀ text', Text.words text' = Text.words text →
      read text' = (read text).mapError (Error.quoting text') := by
  refine ⟨Text.split_iff.mpr rfl, fun r => ofWords_eq_iff, fun text' hwords => ?_⟩
  have hwrites : Writes text (Text.words text) (read text) := ofWords_eq_iff.mp rfl
  refine ofWords_eq_iff.mpr ?_
  rw [hwords]
  exact hwrites.quoting

/-- A field may be called like the beginning of a question: the comparison is tried before. -/
example : read " Sensor NOT  < 3" = .ok (.numeric "Sensor" .lt true (.ofDecimal false 3 0)) := by
  decide +kernel

end Expression

end SensorRules
