import FlowConsole.Text.Split
import FlowConsole.Url.Basic

/-!
# Paths

A path is a list of segments. Segments that stand for the one they are in, or for the one above, are
resolved as the path is read. A segment that names a drive cannot be left; in a file's path it is
written with a colon.
-/

namespace FlowConsole.Url

/-- The segment stands for the segment it is in. -/
def isDot (segment : List Char) : Bool :=
  [".", "%2e"].contains (String.ofList (segment.map Char.toLower))

/-- The segment stands for the one above. -/
def isDoubleDot (segment : List Char) : Bool :=
  ["..", ".%2e", "%2e.", "%2e%2e"].contains (String.ofList (segment.map Char.toLower))

/-- The text names a drive: it is a letter and a colon or a bar. -/
def isDrive : List Char → Bool
  | [letter, sign] => letter.isAlpha && (sign == ':' || sign == '|')
  | _ => false

/-- The segment starts with the name of a drive, and goes on, if it does, with a backslash. -/
def startsWithDrive (segment : List Char) : Bool :=
  isDrive (segment.take 2) && ((segment.drop 2).head?.all (· == '\\'))

/-- The name of a drive as it is written. -/
def driveName (segment : List Char) : List Char := segment.take 1 ++ [':']

/-- The segments above a segment, which are given in reverse order; a drive is not left. -/
def leaveSegment : List (List Char) → List (List Char)
  | [] => []
  | s :: above => if startsWithDrive s then s :: above else above

/-- The segments without those that stand for others, after the segments `above`, which are given
in reverse order. A path that ends with such a segment ends with a slash. `writeDrive` tells whether
the first segment may name a drive. -/
def resolve (writeDrive : Bool) (above : List (List Char)) : List (List Char) → List (List Char)
  | [] => above.reverse
  | s :: rest =>
    let left :=
      if isDoubleDot s then leaveSegment above
      else if isDot s then above
      else if writeDrive && above.isEmpty && isDrive s then [driveName s]
      else s :: above
    if rest.isEmpty && (isDot s || isDoubleDot s) then ([] :: left).reverse
    else resolve writeDrive left rest

/-- The path of segments. -/
def renderPath (segments : List (List Char)) : List Char :=
  '/' :: Text.joinPieces '/' (segments.map (Percent.encode isPathReserved))

/-- The segments of a file's path have no empty ones in front of them. -/
def renderFilePath (segments : List (List Char)) : List Char :=
  '/' :: (renderPath segments).dropWhile (· == '/')

end FlowConsole.Url
