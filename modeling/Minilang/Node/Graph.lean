import Minilang.Node.Basic

namespace Minilang.Node

mutual

def graph : Node → String
  | literal value _ => "[" ++ value.kind ++ " " ++ value.render ++ "]"
  | reference name _ _ => "[Identifier " ++ name ++ "]"
  | call name arguments _ _ =>
      "[CALL " ++ name ++ " [PARAMS " ++ graphs arguments ++ "]]"
  | binary operator left right _ =>
      "[" ++ operator.name ++ " " ++ graph left ++ " " ++ graph right ++ "]"
  | cast target operand _ =>
      "[CAST(" ++ target.name ++ ") " ++ graph operand ++ "]"
  | statements items _ => "[STATEMENTS " ++ graphs items ++ "]"
  | conditional predicate thenBranch elseBranch _ =>
      "[IF [CONDITION " ++ graph predicate ++ "] [THEN " ++ graph thenBranch ++
        "] [ELSE " ++
        graphOption elseBranch ++ "]]"
  | loop predicate body _ =>
      "[WHILE [CONDITION " ++ graph predicate ++ "] [DO " ++ graph body ++ "]]"
  | print value _ => "[PRINT " ++ graph value ++ "]"
  | declaration type name initializer _ =>
      "[VAR " ++ type.name ++ " [= " ++ name ++ " " ++
        graphOption initializer ++ "]]"
  | function returnType name parameters body _ =>
      "[FUNCTION " ++ name ++ " [PARAMS " ++ graphs parameters ++ "] [EXEC " ++
        graph body ++
        "] [RET " ++ returnType.name ++ "]]"
  | assignment target value _ =>
      "[ASSIGN [= " ++ graph target ++ " " ++ graph value ++ "]]"

/-- The graphs of the trees, with a space between neighbours. -/
def graphs : List Node → String
  | [] => ""
  | [node] => graph node
  | node :: next :: nodes => graph node ++ " " ++ graphs (next :: nodes)

/-- The graph of the tree, or a word that says that there is none. -/
def graphOption : Option Node → String
  | none => "NULL"
  | some node => graph node

end

end Minilang.Node
