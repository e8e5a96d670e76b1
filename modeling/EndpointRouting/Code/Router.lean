import EndpointRouting.Block.Impl
import EndpointRouting.Code.Builder
import EndpointRouting.Route.Info
import EndpointRouting.Route.Plan

/-!
# The code of a router

The implementation of the router trait that carries out a dispatch plan: the shared matchers, the
descriptions of the routes, and a method for each verb.
-/

namespace EndpointRouting.Code
open Http Route Token

/-- A path in the library that the code runs on. -/
def runtime (names : List String) : Trees := path ("barman" :: names)

def variantName : RouteVerb → String
  | .get => "Get"
  | .post => "Post"
  | .put => "Put"
  | .delete => "Delete"

def verbPath (v : RouteVerb) : Trees := runtime ["http", "Verb", variantName v]

/-! ### Names of the code -/

def pathsName : Tree := word "__BARMAN_PATHS"
def userName : Tree := word "__barman_user"
def roleName : Tree := word "__barman_role"
def request : Tree := word "request"
def response : Tree := word "response"
def self : Tree := word "self"
def selfType : Tree := word "Self"

def option : Trees := path ["core", "option", "Option"]

def optionSome : Trees := option ++ mark "::" ++ [word "Some"]

/-- A list of arguments. -/
def call (arguments : List Trees) : Trees := parens (separate "," arguments)

/-- A method of the endpoint trait. -/
def endpointMethod (name : String) : Trees :=
  mark "<" ++ [selfType, word "as"] ++ runtime ["router", "Endpoint"] ++ mark ">" ++ mark "::" ++
    [word name]

/-! ### Matchers -/

def matcherCode (r : Route) : Trees :=
  let texts := [[string r.path], [string r.pattern]]
  match r.expression with
  | some e =>
    runtime ["path", "Path", "precompiled"] ++ call (texts ++ [[string e], strings r.parameters])
  | none => runtime ["path", "Path", "fixed"] ++ call texts

/-- The array of the shared matchers, if there are any. -/
def pathsCode (owners : List Route) : Trees :=
  if owners.isEmpty then []
  else
    let lazy := runtime ["__private", "LazyLock"]
    let array := brackets (runtime ["path", "Path"] ++ mark ";" ++ [size owners.length])
    [word "static", pathsName] ++ mark ":" ++ lazy ++ mark "<" ++ array ++ mark ">" ++ mark "=" ++
      lazy ++ mark "::" ++ [word "new"] ++
      parens (mark "||" ++ brackets (separate "," (owners.map matcherCode))) ++ mark ";"

/-! ### Route descriptions -/

def field (name : String) (value : Trees) : Trees := [word name] ++ mark ":" ++ value

def infoCode (r : Route) : Trees :=
  let i := Info.ofRoute r
  runtime ["router", "RouteInfo"] ++ braces (separate "," [
    field "verb" (verbPath r.verb), field "path" [string i.path],
    field "pattern" [string i.pattern], field "handler" [string i.handler],
    field "parameters" (strings i.parameters), field "allowed_roles" (strings i.allowed),
    field "rejected_roles" (strings i.rejected)])

/-! ### Guards -/

/-- Rejects the request. -/
def rejection : Trees :=
  braces ([word "return"] ++ runtime ["response", "not_authorized"] ++
    call [mark "&*" ++ [request], [response]] ++ mark ";")

def testCode : RoleTest → Trees
  | .equals role => [roleName] ++ mark "==" ++ optionSome ++ parens [string role]
  | .oneOf roles =>
    let alternatives := separate "|" (roles.map fun s => [string s])
    path ["core", "matches"] ++ mark "!" ++ call [[roleName], optionSome ++ parens alternatives]

/-- A call of a method without arguments on the user. -/
def onUser (method : String) : Trees := [userName] ++ mark "." ++ [word method] ++ parens []

def guardsCode (g : Guards) : Trees :=
  (if g.loggedUser then [word "if"] ++ onUser "is_none" ++ rejection else []) ++
  (if g.anonymous then [word "if"] ++ onUser "is_some" ++ rejection else []) ++
  (match g.allowed with
    | some test => [word "if"] ++ mark "!" ++ parens (testCode test) ++ rejection
    | none => []) ++
  match g.rejected with
    | some test => [word "if"] ++ testCode test ++ rejection
    | none => []

/-! ### Methods -/

def matcherRefCode : MatcherRef → Trees
  | .index => runtime ["path", "Path", "Index"]
  | .slot n => [pathsName] ++ brackets [size n]

/-- The arguments that every handler and hook gets. -/
def exchange : Trees := call [[self], [request], [response]]

def branchCode (b : Branch) : Trees :=
  [word "if"] ++ matcherRefCode b.matcher ++ mark "." ++ [word "matches"] ++ parens [request] ++
    braces (guardsCode b.guards ++ [word "return", selfType] ++ mark "::" ++
      [.ident b.route.handler] ++ exchange ++ mark ";")

/-- Lets scripts of any origin read the answer. -/
def originCode : Trees :=
  runtime ["response", "set_header"] ++
    call [[response],
      mark "&" ++ runtime ["registry", "Header", "ACCESS_CONTROL_ALLOW_ORIGIN"], [string "*"]] ++
    mark "?;"

/-- Binds the user of the request. -/
def userCode : Trees :=
  [word "let", userName] ++ mark "=" ++ endpointMethod "current_user" ++
    call [[self], mark "&*" ++ [request]] ++ mark ";"

/-- Binds the role of the user. -/
def roleCode : Trees :=
  [word "let", roleName] ++ mark ":" ++ option ++ mark "<" ++ mark "&" ++ [word "str"] ++
    mark ">" ++ mark "=" ++ onUser "as_ref" ++ mark "." ++ [word "map"] ++
    parens (runtime ["router", "HasUserRole", "role"]) ++ mark ";"

/-- Logs that no route matched. -/
def logCode (v : RouteVerb) : Trees :=
  let shown := [request] ++ mark "." ++ [word "path_info"] ++ parens [] ++ mark "." ++
    [word "unwrap_or"] ++ parens [string "/"]
  runtime ["__private", "tracing", "debug"] ++ mark "!" ++
    call [[word "verb"] ++ mark "=" ++ [string v.name], [word "path"] ++ mark "=" ++ shown,
      [string "no route matched"]] ++ mark ";"

/-- The statements of a verb's method. -/
def verbBody (p : VerbPlan) : Trees :=
  (if p.development then originCode else []) ++ (if p.needsUser then userCode else []) ++
    (if p.needsRole then roleCode else []) ++ guardsCode p.hoisted ++
    p.branches.flatMap branchCode ++ logCode p.verb ++
    endpointMethod ("unhandled_" ++ p.verb.attributeName) ++ exchange

/-- A parameter behind a mutable reference to any implementation of a trait. -/
def dynParameter (name : Tree) (trait : String) : Trees :=
  [name] ++ mark ":" ++ mark "&" ++ [word "mut", word "dyn"] ++ runtime ["http", trait]

def verbMethod (p : VerbPlan) : Trees :=
  [word "fn", word ("do_" ++ p.verb.attributeName)] ++
    call [mark "&" ++ [self], dynParameter request "Request", dynParameter response "Response"] ++
    mark "->" ++ runtime ["Result"] ++ mark "<" ++ parens [] ++ mark ">" ++ braces (verbBody p)

/-! ### The router -/

def constCode (name : String) (type value : Trees) : Trees :=
  [word "const", word name] ++ mark ":" ++ type ++ mark "=" ++ value ++ mark ";"

/-- The members of the implementation. -/
def routerMembers (t : Table) (p : Plan) : Trees :=
  constCode "MAPPING" (staticRef [word "str"]) [string t.mapping] ++
    constCode "ROUTES" (staticRef (brackets (runtime ["router", "RouteInfo"])))
      (mark "&" ++ brackets (separate "," (t.routes.map infoCode))) ++
    p.verbs.flatMap verbMethod

/-- The router of an implementation block. -/
def routerCode (b : Block.Impl) (t : Table) (p : Plan) : Trees :=
  [word "const", word "_"] ++ mark ":" ++ parens [] ++ mark "=" ++
    braces (pathsCode p.owners ++ mark "#" ++ brackets [word "automatically_derived"] ++
      [word "impl"] ++ Grammar.introduceParameters b.parameters ++ runtime ["router", "Router"] ++
      [word "for"] ++ b.type ++ b.bounds ++ braces (routerMembers t p)) ++
    mark ";"

end EndpointRouting.Code
