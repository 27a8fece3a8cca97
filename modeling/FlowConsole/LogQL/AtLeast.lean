import FlowConsole.LogQL.Atom
import FlowConsole.QueryError

/-!
# Numbers from a bound upwards, as a regular expression

Log lines are searched by regular expressions, so a lower bound on a number becomes one that
matches the decimal integers, written without leading zeros, that are at least as large. For each
digit of the bound there is a branch: the same digits before it, a larger one in its place (or the
digit itself, for the last), and any digits after it. One more branch takes all longer numbers.
-/

namespace FlowConsole.LogQL.AtLeast

/-- The pattern of a digit that is `low` or larger. -/
def digitPattern (low : Nat) : List Char :=
  if low = 9 then ['9'] else '[' :: Nat.toDigits 10 low ++ ['-', '9', ']']

/-- The pattern of the `count` digits after the place of a branch; after the first digit, of at
least that many. -/
def tailPattern (isFirst : Bool) (count : Nat) : List Char :=
  if count = 0 then []
  else if count = 1 then "[0-9]".toList
  else if isFirst then "[0-9]\x7b".toList ++ Nat.toDigits 10 count ++ ",\x7d".toList
  else "[0-9]\x7b".toList ++ Nat.toDigits 10 count ++ "\x7d".toList

/-- The branch of the digit between `before` and `after`, unless no digit is larger. -/
def branch? (before : List Char) (digit : Char) (after : List Char) : Option (List Char) :=
  let value := digit.toNat - '0'.toNat
  let low := if after.isEmpty then value else value + 1
  if 9 < low then none
  else some (before ++ digitPattern low ++ tailPattern before.isEmpty after.length)

/-- The branches of the digits, the last digit's first. -/
def branches (before : List Char) : List Char → List (List Char)
  | [] => []
  | d :: after => branches (before ++ [d]) after ++ (branch? before d after).toList

/-- The branch of the numbers with more than `count` digits. -/
def longerBranch (count : Nat) : List Char :=
  "[1-9][0-9]\x7b".toList ++ Nat.toDigits 10 count ++ ",\x7d".toList

/-- The digits without leading zeros; of zeros alone, one is left. -/
def significant (cs : List Char) : List Char :=
  match cs.dropWhile (· == '0') with
  | [] => ['0']
  | ds => ds

/-- The regular expression for a list of digits. -/
def patternOf (cs : List Char) : List Char :=
  let digits := significant cs
  '(' :: Text.joinPieces '|' (branches [] digits ++ [longerBranch digits.length]) ++ [')']

/-- The regular expression of the integers from `value` upwards. -/
def pattern (value : String) : Except QueryError String :=
  if Atom.isDigits value.toList then .ok (String.ofList (patternOf value.toList))
  else .error (.notANumber value)

end FlowConsole.LogQL.AtLeast
