import EndpointRouting.Http.Response
import EndpointRouting.Route.Router
import EndpointRouting.Text.Basic
import EndpointRouting.Value.Reader

/-!
# Actions

Handlers and hooks that are made of one step: a fixed answer, a failure, or a value of the request
that is read and shown.
-/

namespace EndpointRouting.Service
open Http Route Text Value

/-- A value that an action reads. -/
inductive Reading where
  | path (v : PathVariable)
  | query (p : QueryParameter)
  deriving DecidableEq, Repr

def Reading.read : Reading → Request → Except Failure Value
  | path v, r => v.read r
  | query p, r => p.read r

/-- How a value is shown: as a text, or as JSON. -/
inductive Shown where
  | text (s : String)
  | json (s : String)
  deriving DecidableEq, Repr

def present : Value → Shown
  | .text s => .text s
  | .list items => .json (jsonStrings items)
  | .url u => .text u.write
  | .char c => .text (String.singleton c)
  | .truth b => .json (if b then "true" else "false")
  | .integer n => .text (toString n)
  | .float x => .text x.text

inductive Action where
  | text (body : String)
  | html (body : String)
  | json (body : String)
  | status (s : Status)
  | redirect (s : Status) (location : String)
  | notFound
  | unprocessableEntity
  | fail (reason : String)
  | read (reading : Reading)
  deriving DecidableEq, Repr

def Action.reply : Action → Reply
  | text body, _, response => (response.writeText body, none)
  | html body, _, response => (response.writeHtml body, none)
  | json body, _, response => (response.writeJson body, none)
  | status s, _, response => (response.setStatus s, none)
  | redirect s location, _, response => (response.redirect s location, none)
  | notFound, _, response => (response.notFound, none)
  | unprocessableEntity, _, response => (response.unprocessableEntity, none)
  | fail reason, _, response => (response, some (.handler reason))
  | read reading, request, response =>
    match reading.read request with
    | .error e => (response, some e)
    | .ok v =>
      match present v with
      | .text s => (response.writeText (request.verb.name ++ " " ++ s), none)
      | .json s => (response.writeJson s, none)

/-- An endpoint whose handlers and hooks are actions. A verb without a hook is not allowed. -/
structure Script where
  definition : Definition
  handlers : List (Token.Identifier × Action)
  hooks : List (Verb × Action)
  deriving Repr

/-- The user of a request is named by a header. -/
def currentUser (r : Request) : Option String := r.header? "X-Role"

def Script.behavior (s : Script) : Behavior where
  currentUser := currentUser
  handle name request response :=
    match s.handlers.lookup name with
    | some action => action.reply request response
    | none => (response, none)
  unhandled verb request response :=
    match s.hooks.lookup verb with
    | some action => action.reply request response
    | none => (response.methodNotAllowed, none)

end EndpointRouting.Service
