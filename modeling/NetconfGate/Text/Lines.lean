/-!
# Pieces, lines and blanks

A text is cut into pieces at each separator. A line ends before a line feed, or
before a carriage return and a line feed. The end of the text ends its last line
too, so a text has no empty line after its last line feed.
-/

namespace NetconfGate.Text

/-- The white space of Unicode. -/
def isBlank (c : Char) : Bool :=
  let n := c.toNat
  (9 ≤ n && n ≤ 13) || n = 32 || n = 0x85 || n = 0xa0 || n = 0x1680 || (0x2000 ≤ n && n ≤ 0x200a)
    || n = 0x2028 || n = 0x2029 || n = 0x202f || n = 0x205f || n = 0x3000

def trimStart (text : List Char) : List Char := text.dropWhile isBlank

/-- Drops one carriage return at the end of a line. -/
def dropReturn (line : List Char) : List Char :=
  match line.reverse with
  | '\r' :: rest => rest.reverse
  | _ => line

/-- The pieces of a text between the separators in it; there is always one. -/
def pieces (separator : Char) : List Char → List (List Char)
  | [] => [[]]
  | c :: rest =>
      if c = separator then [] :: pieces separator rest
      else match pieces separator rest with
        | piece :: pieces => (c :: piece) :: pieces
        | [] => [[c]]

def lines (text : List Char) : List (List Char) :=
  let all := pieces '\n' text
  let kept := if all.getLast? = some [] then all.dropLast else all
  -- Only a line that a line feed ended loses a carriage return.
  match all.getLast? with
  | some [] => kept.map dropReturn
  | _ => kept.dropLast.map dropReturn ++ kept.getLast?.toList

end NetconfGate.Text
