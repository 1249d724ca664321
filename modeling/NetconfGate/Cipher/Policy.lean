import NetconfGate.Text.Record
import NetconfGate.Text.Quoted

/-!
# Cipher policy

Names that may never be offered. A name is excluded when one of the excluded
texts occurs anywhere in it, so a suffix or a vendor mark does not bring a weak
cipher back. The two RC4 stream ciphers are excluded from the start.
-/

namespace NetconfGate

structure CipherPolicy where
  excluded : List String
deriving DecidableEq

namespace CipherPolicy

def arcfour128 : String := "arcfour128"
def arcfour256 : String := "arcfour256"

def default : CipherPolicy := ⟨[arcfour128, arcfour256]⟩

/-- Excludes `names` too. -/
def withExcluded (policy : CipherPolicy) (names : List String) : CipherPolicy :=
  ⟨policy.excluded ++ names⟩

/-- Whether `part` occurs somewhere in `text`. -/
def occursIn (part : List Char) : List Char → Bool
  | [] => part.isEmpty
  | c :: rest => part.isPrefixOf (c :: rest) || occursIn part rest

theorem occursIn_iff {part text : List Char} :
    occursIn part text = true ↔ part <:+: text := by
  induction text with
  | nil => simp [occursIn, List.isEmpty_iff]
  | cons c rest ih => simp [occursIn, List.infix_cons_iff, ih]

def isExcluded (policy : CipherPolicy) (name : String) : Bool :=
  policy.excluded.any fun weak => occursIn weak.toList name.toList

/-- The names that are left, in their order. -/
def filtered (policy : CipherPolicy) (offered : List String) : List String :=
  offered.filter fun name => !policy.isExcluded name

theorem mem_filtered {policy : CipherPolicy} {offered : List String} {name : String} :
    name ∈ policy.filtered offered ↔ name ∈ offered ∧ policy.isExcluded name = false := by
  simp [filtered]

theorem isExcluded_withExcluded (policy : CipherPolicy) (names : List String) (name : String) :
    (policy.withExcluded names).isExcluded name =
      (policy.isExcluded name || (CipherPolicy.mk names).isExcluded name) := by
  simp [isExcluded, withExcluded]

def text (policy : CipherPolicy) : String :=
  Text.Record.line ⟨"CipherPolicy", [("excluded", Text.quotedList policy.excluded)], false⟩

end CipherPolicy

end NetconfGate
