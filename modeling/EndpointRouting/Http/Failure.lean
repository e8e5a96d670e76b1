import EndpointRouting.Http.Verb
import EndpointRouting.Text.Basic
import EndpointRouting.Text.Graphic

/-!
# Failures

Why a value, a header name or a media type was refused, or why a handler gave up.
-/

namespace EndpointRouting.Http
open Text

inductive Failure where
  | notDefined (name : String) (verb : Verb) (path : Option String)
  | invalidValue (name value reason : String)
  | invalidHeader (name : String)
  | invalidMediaType (value : String)
  | handler (reason : String)
  deriving DecidableEq, Repr

namespace Failure

def message : Failure → String
  | notDefined name verb path =>
    "value '" ++ name ++ "' is not defined at " ++ verb.name ++ " " ++ path.getD "/"
  | invalidValue name value reason =>
    "value '" ++ name ++ "' = " ++ quote value ++ " is invalid: " ++ reason
  | invalidHeader name =>
    "invalid header name " ++ quote name ++ ": must not be empty or blank"
  | invalidMediaType value =>
    "invalid media type " ++ quote value ++ ": must not be empty or blank"
  | handler reason => reason

/-- The name of the value that the failure is about. -/
def valueName? : Failure → Option String
  | notDefined name _ _ => some name
  | invalidValue name _ _ => some name
  | _ => none

def isNotDefined : Failure → Bool
  | notDefined .. => true
  | _ => false

end Failure

end EndpointRouting.Http
