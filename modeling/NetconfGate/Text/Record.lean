/-!
# Record text

A value with named parts is written as its name and the parts in braces, on one
line or with a line for each part. Two dots at the end say that some parts are
not shown.
-/

namespace NetconfGate.Text

structure Record where
  name : String
  parts : List (String × String)
  /-- Whether parts are left out. -/
  abridged : Bool

namespace Record

def entries (r : Record) : List String :=
  r.parts.map (fun part => part.1 ++ ": " ++ part.2) ++ (if r.abridged then [".."] else [])

def line (r : Record) : String :=
  r.name ++ " \x7b " ++ String.intercalate ", " r.entries ++ " \x7d"

/-- Four blanks before each part, and a comma after each that is not the dots. -/
def lines (r : Record) : String :=
  r.name ++ " \x7b\n"
    ++ String.join (r.parts.map fun part => "    " ++ part.1 ++ ": " ++ part.2 ++ ",\n")
    ++ (if r.abridged then "    ..\n" else "") ++ "\x7d"

end Record

end NetconfGate.Text
