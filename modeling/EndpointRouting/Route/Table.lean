import EndpointRouting.Regex.Match
import EndpointRouting.Route.Definition
import EndpointRouting.Route.Mount

/-!
# Route tables

A definition yields one route for each verb declaration, or all the reasons why it does not.
Routes are grouped by verb and keep the order of their declarations within a group.
-/

namespace EndpointRouting
open Http Token

/-- A template under a verb, with the handler that answers and what it demands. -/
structure Route where
  verb : RouteVerb
  path : String
  pattern : String
  expression : Option String
  parameters : List String
  handler : Identifier
  authorization : Route.Authorization
  deriving DecidableEq, Repr

namespace Route

def ofTemplate (verb : RouteVerb) (t : Template) (handler : Identifier) (a : Authorization) :
    Route :=
  ⟨verb, t.path, t.text, t.expression, t.parameters, handler, a⟩

/-- The route answers requests for the endpoint itself. -/
def isIndex (r : Route) : Bool := Template.isRoot r.pattern

/-- Routes are told apart by verb and template. -/
def same (a b : Route) : Bool := a.verb == b.verb && a.pattern == b.pattern

/-- An expression that has to match a text from its start to its end. -/
def anchored (expression : String) : String := "^(?:" ++ expression ++ ")$"

/-- Why a declaration yields no route. -/
inductive TableError where
  | conflictingRoles
  | duplicate (verb : RouteVerb) (pattern : String) (previous : Identifier)
  | malformed (pattern expression : String) (error : Regex.CompileError)
  deriving DecidableEq, Repr

namespace TableError

def message : TableError → String
  | conflictingRoles =>
    "cannot require both logged and not-logged user: allowed_roles demands a logged user while " ++
      "rejected_roles(\"*\") demands none"
  | duplicate verb pattern previous =>
    "duplicate route " ++ verb.name ++ " \"" ++ pattern ++ "\": already declared by \x60" ++
      previous.spelling ++ "\x60"
  | malformed pattern expression error =>
    "invalid path template \"" ++ pattern ++ "\": " ++ error.message (anchored expression)

end TableError

/-- What is wrong with the expression of a template. -/
def malformed? (t : Template) : Option TableError :=
  t.expression.bind fun e =>
    match Regex.compile (anchored e).toList with
    | .ok _ => none
    | .error error => some (.malformed t.text e error)

/-- A table that is being built. -/
structure Draft where
  errors : List TableError := []
  /-- Who first declared a verb with a template. -/
  seen : List ((RouteVerb × String) × Identifier) := []
  routes : List Route := []
  deriving Repr

namespace Draft

def fail (d : Draft) (e : TableError) : Draft := { d with errors := d.errors ++ [e] }

/-- One verb declaration of a handler. -/
def declare (base : String) (handler : Identifier) (a : Authorization) (d : Draft)
    (v : VerbDeclaration) : Draft :=
  let pattern := handlerTemplate handler v.path
  match d.seen.lookup (v.verb, pattern) with
  | some previous => d.fail (.duplicate v.verb pattern previous)
  | none =>
    let d := { d with seen := d.seen ++ [((v.verb, pattern), handler)] }
    let t := Template.compile (joinPath base pattern) pattern
    match malformed? t with
    | some e => d.fail e
    | none => { d with routes := d.routes ++ [ofTemplate v.verb t handler a] }

/-- The declarations of a handler. Its own roles replace those of the endpoint. -/
def addHandler (base : String) (byDefault : Authorization) (d : Draft) (h : Handler) : Draft :=
  match h.loggedUser with
  | none => h.verbs.foldl (declare base h.name byDefault) d
  | some roles =>
    match Authorization.ofRoles? roles with
    | some a => h.verbs.foldl (declare base h.name a) d
    | none => d.fail .conflictingRoles

end Draft

/-- The routes of an endpoint under its base path. -/
structure Table where
  base : String
  routes : List Route
  deriving DecidableEq, Repr

namespace Table

/-- The draft before the first handler, and the authorization of handlers without roles. -/
def start (loggedUser : Option LoggedUser) : Draft × Authorization :=
  match loggedUser with
  | none => ({}, .open)
  | some roles =>
    match Authorization.ofRoles? roles with
    | some a => ({}, a)
    | none => (({} : Draft).fail .conflictingRoles, .open)

def draft (d : Definition) : Draft :=
  let base := basePath d.type d.options.path d.options.stem
  let (first, byDefault) := start d.loggedUser
  d.handlers.foldl (Draft.addHandler base byDefault) first

def build (d : Definition) : Except (List TableError) Table :=
  let done := draft d
  if done.errors.isEmpty then
    .ok {
      base := basePath d.type d.options.path d.options.stem
      routes := RouteVerb.all.flatMap fun v => done.routes.filter (·.verb == v) }
  else .error done.errors

/-- The paths that the endpoint answers. -/
def mapping (t : Table) : String := joinPath t.base "/*"

def routesFor (t : Table) (v : RouteVerb) : List Route := t.routes.filter (·.verb == v)

/-- One route for each template that is not the endpoint itself. -/
def matchers (t : Table) : List Route :=
  t.routes.foldl (fun known r =>
    if r.isIndex || known.any (·.pattern == r.pattern) then known else known ++ [r]) []

end Table

end Route

end EndpointRouting
