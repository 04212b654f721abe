import DynamicSql.Node

/-!
# Parts of a node

A node and all nodes in it, in the order of the tree. What every node of a tree has to meet is said
of its parts.
-/

namespace DynamicSql.Node

mutual

/-- The node itself and all nodes in it, in the order of the tree. -/
def parts : Node → List Node
  | text content filter => [text content filter]
  | guard test body => guard test body :: body.parts
  | choose branches otherwise =>
    choose branches otherwise :: (branchParts branches ++ optionParts otherwise)
  | loop l body => loop l body :: body.parts
  | trim rule body => trim rule body :: body.parts
  | bind name value => [bind name value]
  | mixed children => mixed children :: listParts children

/-- Several nodes and all nodes in them. -/
def listParts : List Node → List Node
  | [] => []
  | child :: rest => child.parts ++ listParts rest

/-- The bodies of branches and all nodes in them. -/
def branchParts : List (Text × Node) → List Node
  | [] => []
  | (_, body) :: rest => body.parts ++ branchParts rest

/-- An optional node and all nodes in it. -/
def optionParts : Option Node → List Node
  | none => []
  | some node => node.parts

end

end DynamicSql.Node
