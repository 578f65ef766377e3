import AccumulatorMachine.Text.Blank

/-!
# Tokens of a line

A line is cut at runs of blank characters.  The tokens are the maximal runs of
other characters, so leading and trailing blanks leave no trace and no token is
empty.
-/

namespace AccumulatorMachine.Text

/-- A line cut up from some position on: the word that stands directly at that
position, possibly empty, and the tokens after it. -/
structure Cut where
  word : List Char
  later : List String
  deriving DecidableEq, Repr

namespace Cut

/-- Nothing has been read yet. -/
def empty : Cut := ⟨[], []⟩

/-- The tokens from the position on. -/
def tokens (cut : Cut) : List String :=
  if cut.word.isEmpty then cut.later
  else String.ofList cut.word :: cut.later

/-- Move the position one character to the left. -/
def push (c : Char) (cut : Cut) : Cut :=
  if isBlank c then ⟨[], cut.tokens⟩
  else { cut with word := c :: cut.word }

end Cut

/-- The maximal runs of characters that are not blank, in order. -/
def tokens (s : String) : List String :=
  (s.toList.foldr Cut.push Cut.empty).tokens

end AccumulatorMachine.Text
