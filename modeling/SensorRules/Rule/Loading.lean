import SensorRules.Rule.Document

/-!
Rule sets from text. A text that is no list of documents, or one document that makes no rule, spoils
the whole text. A rule whose name an earlier one has, or whose expression cannot be read, is only
skipped.

* `LoadStatus` and `LoadResult`: what became of each rule;
* `Rule.listOfText`: the rules of a text as they stand there;
* `Rule.sift`: the rules of a list with what becomes of them;
* `RuleSet.ofDocuments` and `RuleSet.ofText`: the rules that are kept, and the results for all.
-/

namespace SensorRules

/-- Why a rule was skipped. -/
inductive SkipReason where
  /-- An earlier rule has its name. -/
  | duplicateName
  /-- Its expression cannot be read. -/
  | badExpression (e : Expression.Error)
deriving DecidableEq, Repr

/-- The wording of a reason. -/
def SkipReason.message : SkipReason → String
  | duplicateName => "duplicate name"
  | badExpression e => e.message

/-- What became of a rule. -/
inductive LoadStatus where
  | loaded
  | skipped (reason : SkipReason)
deriving DecidableEq, Repr

/-- What became of the rule with a name. -/
structure LoadResult where
  ruleName : String
  status : LoadStatus
deriving DecidableEq, Repr

/-- Why no rules could be loaded from a text. -/
inductive LoadError where
  /-- The text is no list of documents. -/
  | notDocuments
  /-- A document makes no rule. -/
  | badRule (e : Rule.Error)
deriving DecidableEq, Repr

/-- The wording of an error in a document. -/
def LoadError.ruleMessage (e : Rule.Error) : String :=
  "Malformed rule spec: " ++ e.message

namespace Rule

/-- The rules of a list of documents; the first bad one is reported. -/
def ofDocuments (ds : List RuleDocument) : Except LoadError (List Rule) :=
  (ds.mapM ofDocument).mapError .badRule

/-- The rules of the documents in a text, whether they are to be kept or not. -/
def listOfText (s : String) : Except LoadError (List Rule) :=
  match RuleDocument.listOfText? s with
  | some ds => ofDocuments ds
  | none => .error .notDocuments

/-- What becomes of a rule after rules with the given names. -/
def status (seen : NameSet) (r : Rule) : LoadStatus :=
  if r.name ∈ seen then .skipped .duplicateName
  else
    match Expression.read r.expression with
    | .ok _ => .loaded
    | .error e => .skipped (.badExpression e)

/-- The rules of a list, each with what becomes of it. A name counts as seen even if its rule is
skipped. -/
def sift (seen : NameSet) : List Rule → List (Rule × LoadStatus)
  | [] => []
  | r :: rs => (r, r.status seen) :: sift (seen.insert r.name) rs

end Rule

/-- Rules that were loaded, and what became of every rule. -/
structure RuleSet where
  rules : List Rule
  results : List LoadResult
deriving DecidableEq

namespace RuleSet

/-- The rules to be kept of a list, and the results for all. -/
def ofRules (rs : List Rule) : RuleSet :=
  let sifted := Rule.sift ∅ rs
  { rules := (sifted.filter (·.2 = .loaded)).map (·.1)
    results := sifted.map fun e => ⟨e.1.name, e.2⟩ }

/-- The rule set of a list of documents. -/
def ofDocuments (ds : List RuleDocument) : Except LoadError RuleSet :=
  (Rule.ofDocuments ds).map ofRules

/-- The rule set of a text. -/
def ofText (s : String) : Except LoadError RuleSet :=
  (Rule.listOfText s).map ofRules

end RuleSet

end SensorRules
