import NetconfGate.Password.Table

/-!
# Scripts on a user table

What is asked of one table, one call after the other. A user is added to the
table itself or to a copy, which takes the place of the table once it is made;
an addition that fails leaves the table alone.
-/

namespace NetconfGate.Password.Table

/-- Where a user is added. -/
inductive Way where
  | inPlace
  | onCopy
deriving DecidableEq

inductive Call where
  | add (way : Way) (user hash : String)
  | size
  | isEmpty
  | login (user password : String)
deriving DecidableEq

inductive Answer where
  | added (failure : Option Error)
  | size (count : Nat)
  | isEmpty (isEmpty : Bool)
  | login (accepted : Bool)
deriving DecidableEq

/-- A copy is made by the same addition. -/
def added (t : Table) (result : Except Error Table) : Answer × Table :=
  match result with
  | .ok next => (.added none, next)
  | .error e => (.added (some e), t)

def perform (t : Table) : Call → Answer × Table
  | .add _ user hash => t.added (t.add user hash)
  | .size => (.size t.size, t)
  | .isEmpty => (.isEmpty t.isEmpty, t)
  | .login user password => (.login (t.login user password), t)

/-- The table that a script leaves. -/
def performAll (t : Table) (calls : List Call) : Table :=
  calls.foldl (fun t call => (t.perform call).2) t

theorem performAll_concat (t : Table) (calls : List Call) (last : Call) :
    t.performAll (calls ++ [last]) = ((t.performAll calls).perform last).2 :=
  List.foldl_append

end NetconfGate.Password.Table
