import EndpointRouting.Http.Request
import EndpointRouting.Route.Table
import EndpointRouting.Text.Graphic

/-!
# Path matchers

A matcher accepts requests by their path. One with parameters writes what its groups captured into
the attributes of the request it accepts; a request that is not accepted stays as it is.
-/

namespace EndpointRouting.Route
open Http Text

inductive Matcher where
  | index
  | fixed (uri path : String)
  | parameterized (uri pattern : String) (regex : Regex) (parameters : List String)
  deriving Repr

namespace Matcher

/-- A matcher for an expression, which has to match the whole path. -/
def parameterized? (uri pattern expression : String) (parameters : List String) :
    Except Regex.CompileError Matcher :=
  (Regex.compile (anchored expression).toList).map fun r => .parameterized uri pattern r parameters

/-- The alarm of a matcher whose expression was taken for checked. -/
def alarm (uri pattern : String) : String :=
  "path template " ++ quote pattern ++ " of " ++ uri ++ " failed to compile"

def isIndex : Matcher → Bool
  | index => true
  | _ => false

def uri? : Matcher → Option String
  | index => none
  | fixed uri _ => some uri
  | parameterized uri .. => some uri

def parameterNames : Matcher → List String
  | parameterized _ _ _ parameters => parameters
  | _ => []

/-- What the groups of the given names captured; a group that took no part has nothing. -/
def captures (regex : Regex) (parameters : List String) (path : String) :
    Option (List (String × String)) :=
  (regex.search? path.toList).map fun found =>
    parameters.filterMap fun name =>
      (regex.captured? found name.toList).map fun value => (name, String.ofList value)

def writeAttributes (r : Request) (values : List (String × String)) : Request :=
  values.foldl (fun r (name, value) => r.setAttribute name value) r

/-- The request after the matcher accepted it. -/
def accept? : Matcher → Request → Option Request
  | index, r => if r.isRoot then some r else none
  | fixed _ path, r => if r.path = some path then some r else none
  | parameterized _ _ regex parameters, r =>
    if r.isRoot then none
    else r.path.bind fun path => (captures regex parameters path).map (writeAttributes r)

/-- Fixed matchers are told apart by where they are mounted, parameterized ones by template. -/
def same : Matcher → Matcher → Bool
  | index, index => true
  | fixed a _, fixed b _ => a == b
  | parameterized _ a _ _, parameterized _ b _ _ => a == b
  | _, _ => false

/-- The matcher of a route that is not the index. -/
def ofRoute (r : Route) : Except Regex.CompileError Matcher :=
  match r.expression with
  | none => .ok (.fixed r.path r.pattern)
  | some e => parameterized? r.path r.pattern e r.parameters

end Matcher

end EndpointRouting.Route
