namespace Minilang.Text

/-- The text without the longest stretch at its end whose characters all satisfy
the test. -/
def dropEndWhile (test : Char → Bool) (text : List Char) : List Char :=
  (text.reverse.dropWhile test).reverse

/-- The line with the given number of newlines before it, without its own
newline. -/
def lineAt : Nat → List Char → Option (List Char)
  | 0, text => some (text.takeWhile (· != '\n'))
  | earlier + 1, text =>
      match text.dropWhile (· != '\n') with
      | [] => none
      | _ :: rest => lineAt earlier rest

/-- The line of the source with the given number, counted from one, without the
carriage returns at its end. The number zero means the first line too. -/
def line? (source : String) (number : Nat) : Option String :=
  (lineAt (number - 1) source.toList).map fun line =>
    String.ofList (dropEndWhile (· == '\r') line)

end Minilang.Text
