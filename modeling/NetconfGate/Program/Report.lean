import NetconfGate.Text.Lines

/-!
# Failure reports

A failure is told with all that lies behind it. A single cause stands alone,
several are numbered; the further lines of a cause are set in as far as its
first.
-/

namespace NetconfGate.Program

structure Failure where
  message : String
  /-- The nearest cause first. -/
  causes : List String
deriving DecidableEq

namespace Failure

/-- Starts the text with `first` and each further line with `next`. -/
def setIn (first next : String) (text : String) : String :=
  first ++ String.intercalate ("\n" ++ next) ((Text.pieces '\n' text.toList).map String.ofList)

/-- A number fills five places. -/
def numbered (number : Nat) : String :=
  let digits := toString number
  "".pushn ' ' (5 - digits.length) ++ digits ++ ": "

def numberedCauses : Nat → List String → List String
  | _, [] => []
  | number, cause :: rest =>
      setIn (numbered number) "       " cause :: numberedCauses (number + 1) rest

def report (f : Failure) : String :=
  let causes := match f.causes with
    | [] => []
    | [cause] => ["", "Caused by:", setIn "    " "    " cause]
    | causes => "" :: "Caused by:" :: numberedCauses 0 causes
  String.intercalate "\n" (("Error: " ++ f.message) :: causes) ++ "\n"

end Failure

end NetconfGate.Program
