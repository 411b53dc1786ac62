/-!
# Indented graphs

A graph is spread over lines: each bracket that opens inside another begins a
line of its own, indented by two spaces for each bracket that is open there.
Text in double quotes is copied, with a backslash and the character behind it
taken together.
-/

namespace Minilang.Node

/-- A new line, indented for so many open brackets. -/
def newLine (depth : Nat) : List Char :=
  '\n' :: List.replicate (2 * depth) ' '

mutual

/-- The text outside quotes, where so many brackets are open. A space just
before a bracket gives way to the new line. -/
def prettyPlain (depth : Nat) : List Char → List Char
  | [] => []
  | '"' :: rest => '"' :: prettyQuoted depth rest
  | ' ' :: '[' :: rest =>
      (if depth = 0 then [' '] else newLine depth) ++
        '[' :: prettyPlain (depth + 1) rest
  | '[' :: rest =>
      (if depth = 0 then [] else newLine depth) ++
        '[' :: prettyPlain (depth + 1) rest
  | ']' :: rest => ']' :: prettyPlain (depth - 1) rest
  | c :: rest => c :: prettyPlain depth rest

/-- The text inside quotes, up to the quote that closes them. -/
def prettyQuoted (depth : Nat) : List Char → List Char
  | [] => []
  | '"' :: rest => '"' :: prettyPlain depth rest
  | '\\' :: c :: rest => '\\' :: c :: prettyQuoted depth rest
  | c :: rest => c :: prettyQuoted depth rest

end

/-- The graph with a line for each bracket inside another. -/
def pretty (graph : String) : String :=
  String.ofList (prettyPlain 0 graph.toList)

end Minilang.Node
