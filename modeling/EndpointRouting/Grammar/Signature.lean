import EndpointRouting.Grammar.Type

/-!
# Signatures and definitions

The parts that functions, constants and types have in common, wherever they are defined.
-/

namespace EndpointRouting.Grammar
open Token

/-- Takes a visibility, if there is one. -/
def visibility (c : Cursor) : Option Cursor :=
  match c.word "pub" with
  | none => some c
  | some c =>
    match group .parenthesis c.ahead with
    | none => some c
    | some (content, _) =>
      let inside := Cursor.start content
      if startsWord "in" inside.ahead then
        c.within .parenthesis (whole fun c => plainPath c.next)
      else if startsAnyWord ["crate", "self", "super"] inside.ahead && inside.next.rest.isEmpty then
        some c.next
      else some c

def nameOrBlank (c : Cursor) : Option Cursor :=
  if startsWord "_" c.ahead then some c.next else c.name.map (·.2)

/-! ### Functions -/

def receiver (g : Recognisers) (c : Cursor) : Option Cursor :=
  match c.mark "&" with
  | some c => (c.skipLifetime.skipWord "mut").word "self"
  | none => ((c.skipWord "mut").word "self").bind (afterMark ":" (g.plainType true))

/-- Takes the dots that stand for any further arguments. Only a comma may follow. -/
def variadic (c : Cursor) : Option Cursor :=
  (c.mark "...").filter fun c => (c.skipMark ",").rest.isEmpty

/-- Takes an argument that is no receiver. One without a pattern, whose type has arguments of its
own, gets a blank one. -/
def typedArgument (g : Recognisers) (c : Cursor) : Option Cursor := do
  if startsName c.ahead && startsMark "<" c.beyond then
    g.plainType true (c.write [.ident ⟨"_", false⟩, .punct ':' false])
  else
    let c ← (← c.read (g.pattern false)).mark ":"
    if startsMark "..." c.ahead then variadic c else g.plainType true c

def laterArgument (g : Recognisers) (c : Cursor) : Option Cursor := do
  let c ← skipAttributes g c
  if startsMark "..." c.ahead then variadic c
  else if (receiver g c).isSome then none
  else typedArgument g c

/-- The content of a function's parentheses: whether there is a receiver, and how it is
printed. -/
def signatureArguments (g : Recognisers) (ts : List Tree) : Option (Bool × List Tree) := do
  match receiver g (← skipAttributes g (.start ts)) with
  | some c =>
    let d ← afterMark "," (chain (laterArgument g) "," List.isEmpty) c
    d.finish.map (true, ·)
  | none => (commaSeparated (laterArgument g) ts).map (false, ·)

/-- What there is to know about a function besides its tokens. -/
structure Signature where
  name : Identifier
  takesSelf : Bool

/-- The words before `fn`. -/
def functionModifiers (c : Cursor) : Cursor :=
  abi (((c.skipWord "const").skipWord "async").skipWord "unsafe")

def startsFunction (c : Cursor) : Bool := startsWord "fn" (functionModifiers c).ahead

/-- Takes a function up to its body. -/
def signature (g : Recognisers) (c : Cursor) : Option (Signature × Cursor) := do
  let (name, c) ← (← (functionModifiers c).word "fn").name
  let c ← generics g c
  let (content, _) ← group .parenthesis c.ahead
  let (takesSelf, _) ← signatureArguments g content
  let c ← c.within .parenthesis fun ts => (signatureArguments g ts).map (·.2)
  let c ← whereClause g (← afterMark "->" (g.plainType true) c)
  return (⟨name, takesSelf⟩, c)

/-! ### Constants and types -/

/-- Takes a constant after its first word. The flag says that it is printed as it is written,
because it is generic or, where a value is needed, has none. -/
def constant (g : Recognisers) (valued : Bool) (c : Cursor) : Option (Bool × Cursor) := do
  let named ← nameOrBlank c
  let typed ← g.plainType true (← (← generics g named).mark ":")
  let defined ← afterMark "=" (·.read (g.expr true)) typed
  let c ← (← whereClause g defined).mark ";"
  let generic := startsMark "<" named.ahead || startsWord "where" defined.ahead
  return (generic || valued && !startsMark "=" typed.ahead, c)

/-- Where the where clause of a type stands: before its definition, after it, or in one of these
places. -/
structure ClausePlace where
  before : Bool
  after : Bool

/-- What a type has that is defined by name. -/
structure TypeDefinition where
  bounded : Bool
  defined : Bool

/-- Takes a where clause where one may stand. -/
def clauseWhere (g : Recognisers) (allowed : Bool) (c : Cursor) : Option Cursor :=
  if allowed then whereClause g c else some c

/-- Takes the definition of a type after its first word. -/
def typeDefinition (g : Recognisers) (place : ClausePlace) (c : Cursor) :
    Option (TypeDefinition × Cursor) := do
  let (_, c) ← c.name
  let head ← generics g c
  let stop (ts : List Tree) : Bool := startsWord "where" ts || startsAnyMark ["=", ";"] ts
  let bounded ← colonBounds (·.read g.bound) stop head
  let c ← clauseWhere g place.before bounded
  let closed := startsWord "where" bounded.ahead
  let defined ← afterMark "=" (g.plainType true) c
  let d ← clauseWhere g (place.after && !(place.before && closed)) defined
  return (⟨startsMark ":" head.ahead, startsMark "=" c.ahead⟩, ← d.mark ";")

/-! ### Macros -/

/-- Takes a macro that stands for items, after its outer attributes. It may have a name where
`named` holds; without braces a semicolon has to end it. -/
def itemMacro (named : Bool) (c : Cursor) : Option Cursor := do
  let c ← (← plainPath c).mark "!"
  let c := if named && (startsName c.ahead || startsWord "try" c.ahead) then c.next else c
  let (d, c) ← c.anyGroup
  if d = .brace then some c else c.mark ";"

/-- A macro that stands for items can start here. -/
def startsItemMacro (c : Cursor) : Bool :=
  startsName c.ahead || startsAnyWord ["self", "super", "crate"] c.ahead || startsMark "::" c.ahead

end EndpointRouting.Grammar
