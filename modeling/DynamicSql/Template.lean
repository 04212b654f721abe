import DynamicSql.Configuration
import DynamicSql.Directive.Basic

/-!
# Templates

Building a template fills in the properties of the configuration, turns directives into nodes,
and checks them: the structure first, then every expression in the order of the tree. Applying a
template runs its tree for a parameter and binds the placeholders of the SQL text that comes out.
-/

namespace DynamicSql

/-- Which alias of a loop is meant. -/
inductive AliasRole where
  /-- The alias of the value. -/
  | item
  /-- The alias of the index. -/
  | index
  deriving DecidableEq

/-- The name of a role. -/
def AliasRole.name : AliasRole → String
  | item => "item"
  | index => "index"

/-- Why directives make no template. -/
inductive BuildError where
  /-- A text is no expression. -/
  | unparsable (expression : Text) (cause : ParseError)
  /-- A loop has no collection. -/
  | missingCollection
  /-- An alias is no name. -/
  | invalidAlias (role : AliasRole) (name : Text)
  /-- A binding has no name. -/
  | missingBindName
  /-- A choice has no branch. -/
  | emptyChoose
  /-- The filter of the configuration is no pattern. -/
  | invalidFilter (pattern : Text)

/-- The text of the error. -/
def BuildError.message : BuildError → String
  | unparsable e cause => s!"Invalid expression '{String.ofList e}': {cause.message}"
  | missingCollection => "foreach requires a collection expression"
  | invalidAlias role name => s!"'{String.ofList name}' is not a valid {role.name} alias"
  | missingBindName => "bind requires a name"
  | emptyChoose => "choose requires at least one when branch"
  | invalidFilter pattern => s!"Invalid injection filter '{String.ofList pattern}'"

/-- A template ready to be applied. -/
structure Template where
  /-- The tree. -/
  root : Node
  /-- The markers of the database driver. -/
  style : MarkerStyle := .question
  /-- The id of the database. -/
  database : Option Text := none

namespace Template

/-! ## Building -/

/-- What is the same for all directives of a template. -/
structure Scope where
  /-- The properties to fill in. -/
  properties : Properties
  /-- The filter for values spliced into text. -/
  filter : Option Pattern

/-- The scope that a configuration sets up. -/
def Scope.ofConfiguration (c : Configuration) : Except BuildError Scope :=
  match c.filter with
  | none => .ok ⟨c.properties, none⟩
  | some source =>
    match Pattern.compile? (Pattern.anchored source) with
    | some pattern => .ok ⟨c.properties, some pattern⟩
    | none => .error (.invalidFilter source)

/-- Several nodes as one; a single node stands for itself. -/
def bodyOf : List Node → Node
  | [node] => node
  | nodes => .mixed nodes

/-- An alias, if it is a name or not set. -/
def checkAlias (role : AliasRole) (name? : Option Text) : Except BuildError Unit :=
  match name? with
  | none => .ok ()
  | some name => if Text.isName name then .ok () else .error (.invalidAlias role name)

/-- The rule of a `trim` directive. -/
def trimRule (t : Trimming) : TrimRule where
  lead := t.lead
  tail := t.tail
  leadOverrides := (t.leadOverrides.map parseOverrides).getD []
  tailOverrides := (t.tailOverrides.map parseOverrides).getD []

mutual

/-- The node of a directive. -/
def buildNode (scope : Scope) : Directive → Except BuildError Node
  | .text content => .ok (.text (scope.properties.substitute content) scope.filter)
  | .guard test body => (buildBody scope body).map (.guard test)
  | .choose branches otherwise =>
    if branches.isEmpty then .error .emptyChoose
    else
      (buildBranches scope branches).bind fun branches =>
        (buildOption scope otherwise).map (.choose branches)
  | .loop loop body =>
    if Text.allBlank loop.collection then .error .missingCollection
    else
      (buildBody scope body).bind fun body =>
        (checkAlias .item loop.item).bind fun _ =>
          (checkAlias .index loop.index).map fun _ => .loop loop body
  | .trim trimming body => (buildBody scope body).map (.trim (trimRule trimming))
  | .whereClause body => (buildBody scope body).map (.trim .whereClause)
  | .setClause body => (buildBody scope body).map (.trim .setClause)
  | .bind name value =>
    let name := Text.trim name
    if name.isEmpty then .error .missingBindName else .ok (.bind name value)

/-- The nodes of several directives. -/
def buildNodes (scope : Scope) : List Directive → Except BuildError (List Node)
  | [] => .ok []
  | directive :: rest =>
    (buildNode scope directive).bind fun node => (buildNodes scope rest).map (node :: ·)

/-- The node of a body. -/
def buildBody (scope : Scope) (body : List Directive) : Except BuildError Node :=
  (buildNodes scope body).map bodyOf

/-- The branches of a choice. -/
def buildBranches (scope : Scope) :
    List (Text × List Directive) → Except BuildError (List (Text × Node))
  | [] => .ok []
  | (test, body) :: rest =>
    (buildBody scope body).bind fun node =>
      (buildBranches scope rest).map ((test, node) :: ·)

/-- The node of a body that may be missing. -/
def buildOption (scope : Scope) : Option (List Directive) → Except BuildError (Option Node)
  | none => .ok none
  | some body => (buildBody scope body).map some

end

/-- The first of several texts that is no expression, and why. -/
def firstUnparsable? (expressions : List Text) : Option BuildError :=
  expressions.findSome? fun e =>
    match Expr.parse e with
    | .ok _ => none
    | .error cause => some (.unparsable e cause)

/-- Builds a template. -/
def build (directives : List Directive) (c : Configuration) : Except BuildError Template :=
  (Scope.ofConfiguration c).bind fun scope =>
    (buildNodes scope directives).bind fun nodes =>
      let root := Node.mixed nodes
      match firstUnparsable? root.expressions with
      | some e => .error e
      | none => .ok { root, style := c.style, database := c.database }

/-! ## Applying -/

/-- Runs the tree for a parameter; gives the SQL text, with placeholders, and the bindings. -/
def render (t : Template) (parameter : Value) : Except EvalError (Text × Bindings) :=
  let outcome := t.root.run ⟨Bindings.ofCall parameter t.database, 0⟩
  outcome.result.map fun _ => (Fragment.join outcome.written, outcome.env.bindings)

/-- Applies a template to a parameter. -/
def apply (t : Template) (parameter : Value) : Except SqlError BoundSql :=
  match t.render parameter with
  | .error e => .error (.eval e)
  | .ok (sql, bindings) => BoundSql.assemble sql bindings t.style

end Template

end DynamicSql
