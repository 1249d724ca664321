import NetconfGate.Password.Verify

/-!
# User tables

A table keeps one stored hash for each user name, the last one that was added.
Only strings in the form of a stored hash get in. A login is true when the
user's hash verifies the password; an unknown user and an unusable hash are
refused alike.
-/

namespace NetconfGate.Password

/-- The latest addition first. -/
structure Table where
  entries : List (String × String)
deriving DecidableEq

namespace Table

def empty : Table := ⟨[]⟩

def get? (t : Table) (user : String) : Option String := t.entries.lookup user

def add (t : Table) (user hash : String) : Except Error Table :=
  match Phc.parse hash with
  | .error fault => .error (.format fault.message)
  | .ok _ => .ok ⟨(user, hash) :: t.entries.filter fun entry => entry.1 != user⟩

def size (t : Table) : Nat := t.entries.length

def isEmpty (t : Table) : Bool := t.entries.isEmpty

def login (t : Table) (user password : String) : Bool :=
  match t.get? user with
  | none => false
  | some hash => (verify password hash).toOption.getD false

theorem get?_add {t next : Table} {user hash : String} (added : t.add user hash = .ok next) :
    next.get? user = some hash := by
  unfold add at added
  split at added
  · cases added
  · cases added
    simp [get?]

end Table

/-- A check of logins that counts how often it was asked. -/
structure Counted (α : Type) where
  check : α
  calls : Nat

/-- Asks the check once and counts it. -/
def Counted.ask (c : Counted (String → String → Bool)) (user password : String) :
    Bool × Counted (String → String → Bool) :=
  (c.check user password, { c with calls := c.calls + 1 })

/-- The text of an adapter around a check shows nothing of it. -/
def adapterText : String := "AuthenticationAdapter \x7b .. \x7d"

end NetconfGate.Password
