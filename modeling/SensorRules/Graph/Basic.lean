import SensorRules.Rule.Basic

/-!
The graph of a rule set: its rules with their expressions read and their preconditions found. Rules
are known by their positions.

* `RuleNode`: a rule in the graph;
* `RuleGraph.index?` and `RuleGraph.node?`: the position and the node of a name;
* `RuleGraph.ofRules`: the graph of a list. Of rules with one name the first whose expression can be
  read is kept, and preconditions that are not in the graph are left out.
-/

namespace SensorRules

/-- A rule in a graph. -/
structure RuleNode where
  rule : Rule
  expression : Expression
  /-- The positions of the rules that must all be met. -/
  allOf : List Nat
  /-- The positions of the rules of which one must be met, if there are any. -/
  anyOf : List Nat
deriving DecidableEq

namespace RuleNode

/-- The name of the rule. -/
def name (n : RuleNode) : String :=
  n.rule.name

/-- The kind of the rule. -/
def kind (n : RuleNode) : RuleKind :=
  n.expression.kind

/-- The outcome of the rule is tracked and shown. -/
def isShown (n : RuleNode) : Bool :=
  n.kind.isShown n.rule.invisible

end RuleNode

/-- The graph of a rule set. -/
structure RuleGraph where
  nodes : List RuleNode
deriving DecidableEq

namespace RuleGraph

/-- The rules to be in a graph, after rules with the given names. -/
def select (taken : NameSet) : List Rule → List (Rule × Expression)
  | [] => []
  | r :: rs =>
    if r.name ∈ taken then select taken rs
    else
      match Expression.read r.expression with
      | .ok e => (r, e) :: select (taken.insert r.name) rs
      | .error _ => select taken rs

/-- The position of a name. -/
def position? (rules : List (Rule × Expression)) (name : String) : Option Nat :=
  rules.findIdx? fun e => e.1.name == name

/-- The positions of names, in the order of the names. -/
def positions (rules : List (Rule × Expression)) (names : NameSet) : List Nat :=
  names.toList.filterMap (position? rules)

/-- The graph of a list of rules. -/
def ofRules (rs : List Rule) : RuleGraph :=
  let rules := select ∅ rs
  ⟨rules.map fun e =>
    ⟨e.1, e.2, positions rules e.1.requiredTrue, positions rules e.1.orRules⟩⟩

/-- The number of rules. -/
def size (g : RuleGraph) : Nat :=
  g.nodes.length

/-- The position of a name. -/
def index? (g : RuleGraph) (name : String) : Option Nat :=
  g.nodes.findIdx? fun n => n.name == name

/-- The rule with a name. -/
def node? (g : RuleGraph) (name : String) : Option RuleNode :=
  g.nodes.find? fun n => n.name == name

/-- The rules whose outcome is tracked and shown. -/
def shown (g : RuleGraph) : List RuleNode :=
  g.nodes.filter (·.isShown)

end RuleGraph

end SensorRules
