import EndpointRouting.Block.Arguments
import EndpointRouting.Block.Impl
import EndpointRouting.Text.Basic

/-!
# The definition in a block

Reads the handlers and the roles of an endpoint from the attributes of its implementation block.
What is wrong with one attribute does not keep the others from being read.
-/

namespace EndpointRouting.Block
open Grammar Http Route Text Token

/-- An option of `logged_user`. -/
inductive RoleOption where
  | allowed
  | rejected
  deriving DecidableEq, Repr

def RoleOption.name : RoleOption → String
  | allowed => "allowed_roles"
  | rejected => "rejected_roles"

def RoleOption.ofName? (name : String) : Option RoleOption :=
  [RoleOption.allowed, .rejected].find? (·.name == name)

/-- What is wrong with a block. -/
inductive BlockError where
  | implementsTrait
  | unnamedType
  | duplicateLoggedUser
  | strayLoggedUser
  | valueLoggedUser
  | valueVerb (v : RouteVerb)
  | noReceiver
  | unread (f : Fault)
  | qualifiedOption
  | unknownOption (name : String)
  | emptyRole (o : RoleOption)
  | mixedAnyRole (o : RoleOption)
  deriving DecidableEq, Repr

def BlockError.message : BlockError → String
  | implementsTrait =>
    "#[endpoint] must be placed on an inherent impl block, not a trait impl"
  | unnamedType => "#[endpoint] requires a named type"
  | duplicateLoggedUser => "duplicate #[logged_user] attribute"
  | strayLoggedUser => "#[logged_user] requires a verb attribute on the same method"
  | valueLoggedUser => "logged_user must use parentheses: logged_user(allowed_roles(\"...\"))"
  | valueVerb v =>
    "expected #[" ++ v.attributeName ++ "] or #[" ++ v.attributeName ++ "(\"/path\")]"
  | noReceiver => "handler methods must take \x60&self\x60"
  | unread f => f.message
  | qualifiedOption => "expected identifier"
  | unknownOption name =>
    "unknown logged_user option '" ++ name ++ "', expected: allowed_roles, rejected_roles"
  | emptyRole o => o.name ++ " must not contain empty role names"
  | mixedAnyRole o => o.name ++ ": wildcard \"*\" cannot be combined with other roles"

/-! ### Verbs -/

/-- What an attribute for a verb declares. -/
def readVerb (v : RouteVerb) (form : AttributeForm) : Except BlockError VerbDeclaration :=
  match form with
  | .bare => .ok ⟨v, none⟩
  | .value _ => .error (.valueVerb v)
  | .list _ content =>
    match stringLiteral content with
    | .error f => .error (.unread f)
    | .ok (path, []) => .ok ⟨v, some path⟩
    | .ok _ => .error (.unread .excess)

/-! ### Roles -/

/-- Takes the name of an option: whether it is a single word, and that word. -/
def optionWords : Nat → List Tree → Except Fault (List Identifier × List Tree)
  | 0, ts => .error (.at .word ts)
  | fuel + 1, ts =>
    match anyWord ts with
    | none => .error (.at .word ts)
    | some (i, rest) =>
      match mark "::" rest with
      | none => .ok ([i], rest)
      | some rest => (optionWords fuel rest).map fun (is, rest) => (i :: is, rest)

/-- Takes the path of an option. Without leading colons a single word is its name. -/
def optionPath (ts : List Tree) : Except Fault (Option Identifier × List Tree) :=
  let start := skipMark "::" ts
  if (anyWord start).isSome then
    (optionWords (start.length + 1) start).map fun (is, rest) =>
      (match is with | [i] => if startsMark "::" ts then none else some i | _ => none, rest)
  else if start.isEmpty then .error (.ended .itemName)
  else if startsLiteral start then .error .literalItem
  else .error .unnamedItem

/-- Role names with commas between them. -/
def roleNames : Nat → List Tree → Except Fault (List String)
  | 0, _ | _ + 1, [] => .ok []
  | fuel + 1, ts => do
    let (role, rest) ← stringLiteral ts
    if rest.isEmpty then return [role]
    return role :: (← roleNames fuel (← comma rest))

/-- What is wrong with the roles of an option. -/
def roleErrors (o : RoleOption) (roles : List String) : List BlockError :=
  (roles.filter isBlank).map (fun _ => .emptyRole o) ++
    if 1 < roles.length && roles.contains anyRole then [.mixedAnyRole o] else []

/-- Takes an option: its roles. -/
def roleOption (ts : List Tree) :
    Except (List BlockError) ((RoleOption × List String) × List Tree) := do
  let (name, rest) ← (optionPath ts).mapError fun f => [.unread f]
  match name with
  | none => .error [.qualifiedOption]
  | some i =>
    match RoleOption.ofName? i.spelling with
    | none => .error [.unknownOption i.spelling]
    | some o =>
      match group .parenthesis rest with
      | none => .error [.unread (.at .parentheses rest)]
      | some (content, rest) =>
        let roles ← (roleNames (content.length + 1) content).mapError fun f => [.unread f]
        let errors := roleErrors o roles
        if errors.isEmpty then .ok ((o, roles), rest) else .error errors

/-- Roles with those of one option replaced. -/
def setRoles (u : LoggedUser) : RoleOption × List String → LoggedUser
  | (.allowed, roles) => { u with allowed := roles }
  | (.rejected, roles) => { u with rejected := roles }

/-- The options with commas between them. The first fault ends the reading. -/
def roleOptions : Nat → LoggedUser → List Tree → Except (List BlockError) LoggedUser
  | 0, u, _ | _ + 1, u, [] => .ok u
  | fuel + 1, u, ts => do
    let (o, rest) ← roleOption ts
    let u := setRoles u o
    if rest.isEmpty then return u
    roleOptions fuel u (← (comma rest).mapError fun f => [.unread f])

/-- The roles that a `logged_user` attribute lists. Without a list it allows any role. -/
def readLoggedUser (form : AttributeForm) : Except (List BlockError) LoggedUser :=
  match form with
  | .bare => .ok ⟨[anyRole], []⟩
  | .value _ => .error [.valueLoggedUser]
  | .list _ content => roleOptions (content.length + 1) ⟨[], []⟩ content

/-! ### Handlers and blocks -/

/-- What attributes are found to say: the errors, the latest `logged_user` if it could be read,
and the verbs. -/
structure Notes where
  errors : List BlockError := []
  loggedUser : Option LoggedUser := none
  verbs : List VerbDeclaration := []

namespace Notes

def fail (n : Notes) (es : List BlockError) : Notes := { n with errors := n.errors ++ es }

def addLoggedUser (n : Notes) (a : Attribute) : Notes :=
  let n := if n.loggedUser.isSome then n.fail [.duplicateLoggedUser] else n
  match readLoggedUser a.form with
  | .ok u => { n with loggedUser := some u }
  | .error es => { n.fail es with loggedUser := none }

def addVerb (n : Notes) (v : RouteVerb) (a : Attribute) : Notes :=
  match readVerb v a.form with
  | .ok d => { n with verbs := n.verbs ++ [d] }
  | .error e => n.fail [e]

/-- An attribute of a method. -/
def add (n : Notes) (a : Attribute) : Notes :=
  if isLoggedUser a then n.addLoggedUser a
  else match verbOf a with
    | some v => n.addVerb v a
    | none => n

end Notes

/-- The handler that a method is, or none if it declares no verb. -/
def Method.handler (m : Method) : Except (List BlockError) (Option Handler) :=
  let n := m.attributes.foldl Notes.add {}
  let fault :=
    if n.verbs.isEmpty then n.loggedUser.map fun _ => BlockError.strayLoggedUser
    else if m.takesSelf then none
    else some .noReceiver
  let n := n.fail fault.toList
  if !n.errors.isEmpty then .error n.errors
  else if n.verbs.isEmpty then .ok none
  else .ok (some ⟨m.name, n.verbs, n.loggedUser⟩)

def Member.handler : Member → Except (List BlockError) (Option Handler)
  | method m => m.handler
  | other _ => .ok none

/-- The roles of a block. -/
def Impl.loggedUserNotes (b : Impl) : Notes :=
  (b.attributes.filter isLoggedUser).foldl Notes.addLoggedUser {}

/-- The definition of the endpoint that a block is. Without a name for its type nothing else is
looked at. -/
def Impl.definition (b : Impl) (options : Options) : Except (List BlockError) Definition :=
  match b.typeName with
  | none => .error [.unnamedType]
  | some type =>
    let notes := b.loggedUserNotes
    let handlers := b.members.map (·.handler)
    let errors := (if b.implements.isSome then [BlockError.implementsTrait] else []) ++
      notes.errors ++ handlers.flatMap fun
        | .error es => es
        | .ok _ => []
    if !errors.isEmpty then .error errors
    else .ok {
      type, options
      loggedUser := notes.loggedUser
      handlers := handlers.filterMap fun
        | .ok h => h
        | .error _ => none }

end EndpointRouting.Block
