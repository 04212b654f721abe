import DynamicSql.Fragment
import DynamicSql.Node.Loop
import DynamicSql.Node.Trim

/-!
# Nodes

A template is a tree of nodes. Running a node writes SQL fragments that still carry `#{…}`
placeholders; `${…}` substitutions are evaluated and spliced in as the text is written, after
a filter has accepted their values.

`expressions` lists what a run may evaluate, in the order of the tree, and `isDynamic` says
whether a run may depend on the parameter at all.
-/

namespace DynamicSql

/-- A part of a template. -/
inductive Node where
  /-- SQL text; `filter` restricts the values that are spliced into it. -/
  | text (content : Text) (filter : Option Pattern)
  /-- The body, if the test is true. -/
  | guard (test : Text) (body : Node)
  /-- The first branch whose test is true, or else the last part, if there is one. -/
  | choose (branches : List (Text × Node)) (otherwise : Option Node)
  /-- The body, once for each entry of a collection. -/
  | loop (loop : Loop) (body : Node)
  /-- The body with its ends trimmed. -/
  | trim (rule : TrimRule) (body : Node)
  /-- Nothing, but the value of an expression is bound to a name from here on. -/
  | bind (name value : Text)
  /-- Several parts in order. -/
  | mixed (children : List Node)

namespace Node

instance : Inhabited Node := ⟨.mixed []⟩

/-- Text without a filter. -/
def plain (content : Text) : Node := .text content none

/-! ## Equality -/

/-- Whether two filters are described by the same text. -/
def sameFilter (a b : Option Pattern) : Bool := a.map (·.source) == b.map (·.source)

mutual

/-- Whether two nodes are built in the same way from the same texts. -/
protected def beq : Node → Node → Bool
  | text s f, text t g => s == t && sameFilter f g
  | guard s a, guard t b => s == t && a.beq b
  | choose as a, choose bs b => Node.beqBranches as bs && Node.beqOption a b
  | loop l a, loop m b => l == m && a.beq b
  | trim r a, trim s b => r == s && a.beq b
  | bind n v, bind m w => n == m && v == w
  | mixed as, mixed bs => Node.beqList as bs
  | _, _ => false

/-- Whether two lists of nodes agree. -/
protected def beqList : List Node → List Node → Bool
  | [], [] => true
  | a :: as, b :: bs => a.beq b && Node.beqList as bs
  | _, _ => false

/-- Whether two lists of branches agree. -/
protected def beqBranches : List (Text × Node) → List (Text × Node) → Bool
  | [], [] => true
  | (s, a) :: as, (t, b) :: bs => s == t && a.beq b && Node.beqBranches as bs
  | _, _ => false

/-- Whether two optional nodes agree. -/
protected def beqOption : Option Node → Option Node → Bool
  | none, none => true
  | some a, some b => a.beq b
  | _, _ => false

end

instance : BEq Node := ⟨Node.beq⟩

/-! ## What a node depends on -/

/-- Whether text has substitutions. -/
def isDynamicText (content : Text) : Bool := Delimiters.substitution.hasToken content

mutual

/-- Whether a run of the node may depend on the parameter. -/
def isDynamic : Node → Bool
  | text content _ => isDynamicText content
  | mixed children => anyDynamic children
  | _ => true

/-- Whether a run of one of several nodes may depend on the parameter. -/
def anyDynamic : List Node → Bool
  | [] => false
  | child :: rest => child.isDynamic || anyDynamic rest

end

mutual

/-- The expressions that a run of the node may evaluate, in the order of the tree. -/
def expressions : Node → List Text
  | text content _ => Delimiters.substitution.tokens content
  | guard test body => test :: body.expressions
  | choose branches otherwise => branchExpressions branches ++ optionExpressions otherwise
  | loop l body => l.collection :: body.expressions
  | trim _ body => body.expressions
  | bind _ value => [value]
  | mixed children => listExpressions children

/-- The expressions of several nodes. -/
def listExpressions : List Node → List Text
  | [] => []
  | child :: rest => child.expressions ++ listExpressions rest

/-- The tests of branches and the expressions of their bodies. -/
def branchExpressions : List (Text × Node) → List Text
  | [] => []
  | (test, body) :: rest => test :: body.expressions ++ branchExpressions rest

/-- The expressions of an optional node. -/
def optionExpressions : Option Node → List Text
  | none => []
  | some node => node.expressions

end

/-! ## Text -/

/-- The name of a scalar parameter in substitutions. -/
def valueName : Text := "value".toList

/-- The value itself, if the filter accepts all of it. -/
def filtered (filter : Option Pattern) (value : Text) : Except EvalError Text :=
  match filter with
  | none => .ok value
  | some p => if p.matchesWhole value then .ok value else .error (.rejected value p.source)

/-- What a substitution stands for. -/
def substitutionText (b : Bindings) (filter : Option Pattern) (expression : Text) :
    Except EvalError Text :=
  (b.eval expression).bind fun v => filtered filter v.toSql

/-- The text with its substitutions replaced. -/
def spliced (b : Bindings) (filter : Option Pattern) (content : Text) : Except EvalError Text :=
  Delimiters.substitution.scan (substitutionText b filter) content

/-- The bindings with a scalar parameter under the name `value`. -/
def bindScalar (b : Bindings) : Bindings :=
  if b.parameter.isScalar then b.insert valueName b.parameter else b

/-- Writes text. Text without substitutions is written as it is. -/
def runText (content : Text) (filter : Option Pattern) : Run Bool := do
  if isDynamicText content then
    Run.modifyBindings bindScalar
    let sql ← Run.ofBindings (spliced · filter content)
    Run.write sql
    return true
  else
    Run.write content
    return true

/-! ## Running nodes -/

/-- Runs a body if a test is true; tells whether it was. -/
def runGuard (test : Text) (body : Run Bool) : Run Bool := do
  if ← Run.ofBindings (·.evalTruth test) then
    let _ ← body
    return true
  else
    return false

/-- Runs a body and trims the ends of what it wrote. -/
def runTrim (rule : TrimRule) (body : Run Bool) : Run Bool :=
  body.collected fun fragments => [rule.apply (Fragment.join fragments)]

/-- Binds the value of an expression. -/
def runBind (name value : Text) : Run Bool := do
  let v ← Run.ofBindings (·.eval value)
  Run.bindName name v
  return true

mutual

/-- Runs a node. The result is false if it is guarded and no test was true. -/
def run : Node → Run Bool
  | text content filter => runText content filter
  | guard test body => runGuard test body.run
  | choose branches otherwise => runBranches branches (runOption otherwise)
  | loop l body => l.run body.run
  | trim rule body => runTrim rule body.run
  | bind name value => runBind name value
  | mixed children => runAll children

/-- Runs several nodes in order. -/
def runAll : List Node → Run Bool
  | [] => Run.pure true
  | child :: rest => Run.bind child.run fun _ => runAll rest

/-- Runs the first branch whose test is true, or else `otherwise`. -/
def runBranches : List (Text × Node) → Run Bool → Run Bool
  | [], otherwise => otherwise
  | (test, body) :: rest, otherwise =>
    Run.bind (runGuard test body.run) fun taken =>
      if taken then Run.pure true else runBranches rest otherwise

/-- Runs an optional node; the result is false without one. -/
def runOption : Option Node → Run Bool
  | none => Run.pure false
  | some node => Run.bind node.run fun _ => Run.pure true

end

end Node

end DynamicSql
