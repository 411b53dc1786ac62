namespace Minilang.Text

/-- The largest width that a column can be given in print. -/
def widest : Nat :=
  65535

/-- The text at the right end of a column, after as many fillers as there is
room for. -/
def alignRight (width : Nat) (filler : Char) (text : String) : String :=
  String.ofList (text.toList.leftpad width filler)

def alignLeft (width : Nat) (filler : Char) (text : String) : String :=
  String.ofList (text.toList.rightpad width filler)

theorem toList_alignRight (width : Nat) (filler : Char) (text : String) :
    (alignRight width filler text).toList =
      List.replicate (width - text.toList.length) filler ++ text.toList := by
  simp [alignRight, List.leftpad]

theorem length_alignRight (width : Nat) (filler : Char) (text : String) :
    (alignRight width filler text).toList.length =
      max width text.toList.length := by
  simp [alignRight, List.leftpad]
  omega

end Minilang.Text
