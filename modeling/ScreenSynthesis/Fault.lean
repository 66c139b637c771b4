/-!
# Faults of synthesized members

What can go wrong when a synthesized member is used. A required argument that is missing or has
another type is a fault; it never reads as a default.
-/

namespace ScreenSynthesis

/-- A fault raised by a synthesized member. -/
inductive MemberFault where
  | missingArgument (key : String)
  | argumentTypeMismatch (key expected found : String)
  | noRootView (className : String)
  | unknownBinder (binding : String)
  | missingView (id root : String)
deriving DecidableEq, Repr

/-- The wording of a fault. -/
def MemberFault.message : MemberFault → String
  | .missingArgument key => "required argument '" ++ key ++ "' is missing from the bundle"
  | .argumentTypeMismatch key expected found =>
    "argument '" ++ key ++ "' has type '" ++ found ++ "', expected '" ++ expected ++ "'"
  | .noRootView className => "controller '" ++ className ++ "' has no root view attached"
  | .unknownBinder binding => "no binder registered for '" ++ binding ++ "'"
  | .missingView id root => "view '" ++ id ++ "' not found under root '" ++ root ++ "'"

end ScreenSynthesis
