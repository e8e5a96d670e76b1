import EndpointRouting.Http.Verb
import EndpointRouting.Route.Authorization
import EndpointRouting.Text.Case
import EndpointRouting.Token.Tree

/-!
# Endpoint definitions

What an author declares: a type, how the endpoint is mounted, who may use it, and its handlers.
-/

namespace EndpointRouting.Route
open Http Text Token

/-- A verb that a handler answers, with its own template if it has one. -/
structure VerbDeclaration where
  verb : RouteVerb
  path : Option String := none
  deriving DecidableEq, Repr

structure Handler where
  name : Identifier
  verbs : List VerbDeclaration
  loggedUser : Option LoggedUser := none
  deriving DecidableEq, Repr

inductive Environment where
  | development
  | production
  deriving DecidableEq, Repr

namespace Environment

/-- The environment of a name, in any letter case. -/
def ofName? (name : String) : Option Environment :=
  match lower name with
  | "development" => some development
  | "production" => some production
  | _ => none

/-- The environment of a setting: production only if it says so exactly. -/
def ofSetting (setting : Option String) : Environment :=
  if setting = some "production" then production else development

end Environment

/-- How an endpoint is mounted, and for which environment. -/
structure Options where
  path : Option String := none
  admin : Bool := false
  environment : Option Environment := none
  deriving DecidableEq, Repr

namespace Options

/-- The path that relative paths continue. -/
def stem (o : Options) : String := if o.admin then "/admin" else "/api"

/-- The endpoint is for development, by its own choice or else by the setting. -/
def isDevelopment (o : Options) (setting : Option String) : Bool :=
  o.environment.getD (.ofSetting setting) == .development

end Options

/-- The definition of an endpoint. -/
structure Definition where
  type : Identifier
  options : Options := {}
  loggedUser : Option LoggedUser := none
  handlers : List Handler
  deriving DecidableEq, Repr

end EndpointRouting.Route
