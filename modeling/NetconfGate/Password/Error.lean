/-!
# Password errors

A stored hash is refused either because it is not in the form that such strings
have, or, later, because no hashing function here can use it.
-/

namespace NetconfGate.Password

inductive Error where
  | hashing (reason : String)
  | verification (reason : String)
  | format (reason : String)
deriving DecidableEq

def Error.message : Error → String
  | .hashing reason => "Failed to hash password: " ++ reason
  | .verification reason => "Failed to verify password: " ++ reason
  | .format reason => "Invalid password hash format: " ++ reason

end NetconfGate.Password
