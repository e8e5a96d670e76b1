import EndpointRouting.Http.Fields
import EndpointRouting.Http.Verb

/-!
# Requests

What a request addresses and carries. Attributes are written while it is routed; parameters and
headers come with it. Header names are compared up to ASCII case.
-/

namespace EndpointRouting.Http
open Text

/-- A request. `path` is what follows the base path of the endpoint. -/
structure Request where
  verb : Verb
  path : Option String := none
  attributes : Fields := {}
  parameters : Fields := {}
  headers : Fields := {}
  deriving DecidableEq, Repr

namespace Request

def attribute? (r : Request) (name : String) : Option String := r.attributes.get? name

def setAttribute (r : Request) (name value : String) : Request :=
  { r with attributes := r.attributes.set name value }

def parameter? (r : Request) (name : String) : Option String := r.parameters.get? name

def setParameter (r : Request) (name value : String) : Request :=
  { r with parameters := r.parameters.set name value }

def header? (r : Request) (name : String) : Option String := r.headers.get? (caseKey name)

def setHeader (r : Request) (name value : String) : Request :=
  { r with headers := r.headers.set (caseKey name) value }

/-- The request addresses the endpoint itself. -/
def isRoot (r : Request) : Bool :=
  match r.path with
  | none => true
  | some path => path == "" || path == "/"

theorem attribute?_setAttribute (r : Request) (name value other : String) :
    (r.setAttribute name value).attribute? other =
      if other = name then some value else r.attribute? other :=
  Fields.get?_set _ _ _ _

end Request

end EndpointRouting.Http
