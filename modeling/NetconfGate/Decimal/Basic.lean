/-!
# Decimal numbers

A sign, a natural number and a power of ten. The text of one is positional and
always has a point.
-/

namespace NetconfGate

structure Decimal where
  negative : Bool
  digits : Nat
  exponent : Int
deriving DecidableEq

namespace Decimal

def ofDigits (digits : List Char) : Nat := digits.foldl (fun n c => n * 10 + (c.toNat - 48)) 0

/-- An exponent has a sign, which may be left out, and at least one digit. -/
def exponent? : List Char → Option Int
  | [] => some 0
  | e :: rest =>
      if e ≠ 'e' ∧ e ≠ 'E' then none
      else
        let (negative, digits) := match rest with
          | '-' :: digits => (true, digits)
          | '+' :: digits => (false, digits)
          | digits => (false, digits)
        if digits.isEmpty ∨ !digits.all Char.isDigit then none
        else some (if negative then -(ofDigits digits : Int) else ofDigits digits)

/-- Digits with a point among them, before them or after them, and an exponent. -/
def parse? (text : List Char) : Option Decimal :=
  let (negative, body) := match text with
    | '-' :: body => (true, body)
    | '+' :: body => (false, body)
    | body => (false, body)
  let whole := body.takeWhile Char.isDigit
  let (fraction, rest) := match body.dropWhile Char.isDigit with
    | '.' :: after => (after.takeWhile Char.isDigit, after.dropWhile Char.isDigit)
    | rest => ([], rest)
  if whole.isEmpty ∧ fraction.isEmpty then none
  else (exponent? rest).map fun e => ⟨negative, ofDigits (whole ++ fraction), e - fraction.length⟩

/-- Positional text: a whole number has one place after the point, a zero. -/
def text (d : Decimal) : String :=
  let digits := toString d.digits
  let sign := if d.negative then "-" else ""
  if 0 ≤ d.exponent then
    sign ++ digits ++ (if d.digits = 0 then "" else String.ofList (List.replicate d.exponent.toNat '0')) ++ ".0"
  else
    let places := (-d.exponent).toNat
    let padded := String.ofList (List.replicate (places + 1 - digits.length) '0') ++ digits
    let cut := padded.length - places
    sign ++ String.ofList (padded.toList.take cut) ++ "." ++ String.ofList (padded.toList.drop cut)

end Decimal

end NetconfGate
