import EndpointRouting.Http.Verb
import EndpointRouting.Route.Table

/-!
# Route descriptions

What a router tells about one of its routes.
-/

namespace EndpointRouting.Route
open Http

structure Info where
  verb : Verb
  path : String
  pattern : String
  handler : String
  parameters : List String
  allowed : List String
  rejected : List String
  deriving DecidableEq, Repr

namespace Info

def requiresLoggedUser (i : Info) : Bool := !i.allowed.isEmpty

def requiresAnonymous (i : Info) : Bool :=
  match i.rejected with
  | [role] => role == anyRole
  | _ => false

def isIndex (i : Info) : Bool := i.pattern == "" || i.pattern == "/"

def ofRoute (r : Route) : Info :=
  { verb := r.verb.toVerb
    path := r.path
    pattern := r.pattern
    handler := r.handler.text
    parameters := r.parameters
    allowed := r.authorization.allowed
    rejected := r.authorization.rejected }

end Info

end EndpointRouting.Route
