import NetconfGate.Text.Printable
import NetconfGate.Bytes

/-!
# Quoted text

Text between double quotes: NUL, tab, line ends, the quote and the backslash
have two-character escapes, every other unprintable character is written by its
code point in hexadecimal between braces.
-/

namespace NetconfGate.Text

def hexNumber (value : Nat) : String := String.ofList (Nat.toDigits 16 value)

/-- The braces that enclose a code point are U+007B and U+007D. -/
def escapeChar (c : Char) : String :=
  if c = '\x00' then "\\0"
  else if c = '\t' then "\\t"
  else if c = '\r' then "\\r"
  else if c = '\n' then "\\n"
  else if c = '"' then "\\\""
  else if c = '\\' then "\\\\"
  else if isPrintable c then String.singleton c
  else "\\u\x7b" ++ hexNumber c.toNat ++ "\x7d"

def quoted (text : String) : String :=
  "\"" ++ String.join (text.toList.map escapeChar) ++ "\""

/-- A quoted list, its members separated by a comma and a blank. -/
def quotedList (items : List String) : String :=
  "[" ++ String.intercalate ", " (items.map quoted) ++ "]"

end NetconfGate.Text
