/-!
# Lines of a source

A line ends at a line feed, and one carriage return directly before the line
feed belongs to the ending.  What follows the last line feed is a line of its
own unless it is empty, and it keeps a final carriage return.
-/

namespace AccumulatorMachine.Text

/-- Cut a text after each line feed; every piece but the last ends with one. -/
def pieces (s : List Char) : List (List Char) :=
  s.foldr place []
where
  /-- Put one character in front of the pieces to its right. -/
  place (c : Char) (later : List (List Char)) : List (List Char) :=
    if c = '\n' then [c] :: later
    else match later with
      | [] => [[c]]
      | piece :: rest => (c :: piece) :: rest

/-- Remove the line ending from a piece, if it has one. -/
def dropEnding (piece : List Char) : List Char :=
  match piece.reverse with
  | '\n' :: '\r' :: body => body.reverse
  | '\n' :: body => body.reverse
  | _ => piece

/-- The lines of a text without their endings. -/
def lines (s : String) : List String :=
  (pieces s.toList).map fun piece => String.ofList (dropEnding piece)

end AccumulatorMachine.Text
