import EndpointRouting.Text.Basic

/-!
# Verbs

The verbs of a request, and those that a route can be declared for.
-/

namespace EndpointRouting.Http
open Text

/-- The verb of a request. -/
inductive Verb where
  | get | post | put | delete | head | options | trace
  deriving DecidableEq, Repr

def Verb.all : List Verb := [.get, .post, .put, .delete, .head, .options, .trace]

def Verb.name : Verb → String
  | .get => "GET"
  | .post => "POST"
  | .put => "PUT"
  | .delete => "DELETE"
  | .head => "HEAD"
  | .options => "OPTIONS"
  | .trace => "TRACE"

/-- The verb of the given name, in any ASCII case. -/
def Verb.ofName? (name : String) : Option Verb := Verb.all.find? (sameName ·.name name)

/-- A verb that routes are declared for. -/
inductive RouteVerb where
  | get | post | put | delete
  deriving DecidableEq, Repr

namespace RouteVerb

/-- The order in which routes are listed. -/
def all : List RouteVerb := [.get, .post, .put, .delete]

def toVerb : RouteVerb → Verb
  | .get => .get
  | .post => .post
  | .put => .put
  | .delete => .delete

def name (v : RouteVerb) : String := v.toVerb.name

/-- The attribute that declares a route for the verb. -/
def attributeName : RouteVerb → String
  | .get => "get"
  | .post => "post"
  | .put => "put"
  | .delete => "delete"

def ofAttribute? (name : String) : Option RouteVerb := all.find? (·.attributeName == name)

theorem mem_all (v : RouteVerb) : v ∈ all := by cases v <;> decide

end RouteVerb

/-- The verb as one that carries routes. -/
def Verb.route? : Verb → Option RouteVerb
  | .get => some .get
  | .post => some .post
  | .put => some .put
  | .delete => some .delete
  | .head | .options | .trace => none

def Verb.isRoutable (v : Verb) : Bool := v.route?.isSome

theorem route?_toVerb (v : RouteVerb) : v.toVerb.route? = some v := by cases v <;> rfl

end EndpointRouting.Http
