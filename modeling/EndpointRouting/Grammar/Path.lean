import EndpointRouting.Grammar.Attribute

/-!
# Paths, bounds and generic parameters

What stands between angles is printed with lifetimes first. A colon, a pair of angles and the word
of a where clause are printed only where something comes with them.
-/

namespace EndpointRouting.Grammar
open Token

/-! ### Between angles -/

/-- What stands between angles: whether it is a lifetime, how it is printed, and whether a comma
follows it. -/
structure Angled where
  lifetime : Bool
  printed : List Tree
  comma : Bool

def separator : Tree := .punct ',' false

/-- An item with its comma. -/
def Angled.written (a : Angled) : List Tree := a.printed ++ if a.comma then [separator] else []

/-- Items with the lifetimes first. -/
def lifetimesFirst (items : List Angled) : List Tree :=
  let lifetimes := items.filter (·.lifetime)
  let others := items.filter (!·.lifetime)
  let joint := if !others.isEmpty && lifetimes.getLast?.any (!·.comma) then [separator] else []
  lifetimes.flatMap (·.written) ++ joint ++ others.flatMap (·.written)

/-- Takes angles with items between them, each of which is a lifetime or not. -/
def angled (item : List Tree → Option (Bool × Cursor)) (c : Cursor) : Option Cursor := do
  let c ← c.mark "<"
  let reading := angledFrom fun ts =>
    (item ts).map fun (lifetime, d) => (Angled.mk lifetime d.printed, d)
  let (items, d) ← reading (c.size + 1) (.start c.rest)
  return c.resume d (lifetimesFirst items ++ [.punct '>' false])

/-! ### Arguments -/

/-- Takes a constant argument: a literal or a block. -/
def constArgument (g : Recognisers) (c : Cursor) : Option Cursor :=
  c.literal.or (attributedBlock g c)

def startsConstArgument (ts : List Tree) : Bool := startsLiteral ts || startsGroup .brace ts

def argument (g : Recognisers) (c : Cursor) : Option Cursor := do
  if startsConstArgument c.ahead then constArgument g c
  else
    let (form, c) ← g.typeForm true c
    match form with
    | .path _ true =>
      match c.mark "=" with
      | some c => if startsConstArgument c.ahead then constArgument g c else g.plainType true c
      | none =>
        match c.mark ":" with
        | some c => chain (·.read g.bound) "+" (startsAnyMark [",", ">"]) c
        | none => some c
    | _ => some c

/-- Takes arguments between angles; colons may stand in front. -/
def angleArguments (g : Recognisers) (c : Cursor) : Option Cursor :=
  let item (ts : List Tree) : Option (Bool × Cursor) :=
    let c := Cursor.start ts
    if startsLifetime c.ahead && !startsMark "+" c.beyond then c.lifetime.map (true, ·)
    else (argument g c).map (false, ·)
  angled item (c.skipMark "::")

/-! ### Segments -/

/-- How the arguments of a segment are written. -/
inductive Arguments where
  | none
  | angle
  | parenthesized
  deriving DecidableEq

/-- What was taken of a path. -/
structure PathForm where
  last : Identifier
  /-- How many segments there are, after the qualifier if the path has one. -/
  size : Nat
  leading : Bool
  qualified : Bool
  arguments : Arguments
  /-- There is neither a qualifier nor a segment with arguments. -/
  plain : Bool

section
variable (g : Recognisers)

/-- Takes a segment: its name, and whether it has arguments. -/
def segment (inExpr : Bool) (c : Cursor) : Option (Identifier × Bool × Cursor) := do
  let (i, d) ← c.anyWord
  if startsAnyWord ["super", "self", "crate", "try"] c.ahead then some (i, false, d)
  else if !isName i && !startsWord "Self" c.ahead then .none
  else
    let angle := !inExpr && startsMark "<" d.ahead && !startsAnyMark ["<=", "<<="] d.ahead
    let turbofish := startsMark "::" d.ahead && startsMark "<" (d.skipMark "::").ahead
    if angle || turbofish then (angleArguments g d).map fun d => (i, true, d)
    else some (i, false, d)

/-- A path of one segment. -/
def PathForm.single (i : Identifier) (has leading qualified : Bool) : PathForm :=
  { last := i, size := 1, leading, qualified, arguments := if has then .angle else .none
    plain := !has && !qualified }

def moreSegments (inExpr : Bool) : Nat → PathForm → Cursor → Option (PathForm × Cursor)
  | 0, _, _ => .none
  | fuel + 1, p, c =>
    match c.mark "::" with
    | .none => some (p, c)
    | some d =>
      if startsGroup .parenthesis d.ahead && !p.qualified then some (p, c)
      else do
        let (i, has, d) ← segment g inExpr d
        moreSegments inExpr fuel
          { p with
            last := i, size := p.size + 1
            arguments := if has then .angle else .none, plain := p.plain && !has }
          d

/-- Takes a path without parenthesized arguments. -/
def path (inExpr : Bool) (c : Cursor) : Option (PathForm × Cursor) := do
  let (i, has, d) ← segment g inExpr (c.skipMark "::")
  moreSegments g inExpr (d.size + 1) (.single i has (startsMark "::" c.ahead) false) d

/-- Takes the start of a qualified path, up to the colons after its angles. -/
def qualifier (c : Cursor) : Option Cursor := do
  let c ← g.plainType true (← c.mark "<")
  let c ← match c.word "as" with
    | some c => (path g false c).map (·.2)
    | .none => some c
  (← c.mark ">").mark "::"

/-- Takes a path that may be qualified. -/
def qualifiedPath (inExpr : Bool) (c : Cursor) : Option (PathForm × Cursor) :=
  if startsMark "<" c.ahead then do
    let (i, has, d) ← segment g inExpr (← qualifier g c)
    moreSegments g inExpr (d.size + 1) (.single i has false true) d
  else path g inExpr c

/-- Takes types in parentheses and the result type after them. The flag says that the result is
absent or in parentheses itself. -/
def parenthesizedArguments (c : Cursor) : Option (Bool × Cursor) := do
  let c ← c.within .parenthesis (commaSeparated (g.plainType true))
  match c.mark "->" with
  | .none => some (true, c)
  | some c =>
    let (form, c) ← g.typeForm false c
    some (match form with | .parenthesized _ => true | _ => false, c)

/-- Arguments in parentheses start here; colons in front of them are not printed. -/
def startsParenthesized (c : Cursor) : Bool :=
  startsGroup .parenthesis c.ahead || startsGroup .parenthesis (c.dropMark "::").ahead

/-- Takes parenthesized arguments after a path, and the segments that may follow them. -/
def callSegments : Nat → PathForm → Cursor → Option (PathForm × Cursor)
  | 0, _, _ => .none
  | fuel + 1, p, c =>
    if p.arguments = .none && startsParenthesized c then do
      let (more, c) ← parenthesizedArguments g (c.dropMark "::")
      let p := { p with arguments := .parenthesized, plain := false }
      if more then
        let (p, c) ← moreSegments g false (c.size + 1) p c
        callSegments fuel p c
      else some (p, c)
    else some (p, c)

def typePath (c : Cursor) : Option (PathForm × Cursor) := do
  let (p, c) ← qualifiedPath g false c
  callSegments g (c.size + 1) p c

end

/-! ### Bounds -/

/-- Takes a colon and the items after it, with `+` between them. Without items the colon is not
printed. -/
def colonBounds (item : Cursor → Option Cursor) (stop : List Tree → Bool) (c : Cursor) :
    Option Cursor :=
  match mark ":" c.ahead with
  | none => some c
  | some rest =>
    if stop (Tree.front rest) then some (c.drop rest) else chain item "+" stop (c.upTo rest)

/-- Takes a lifetime and the lifetimes that bound it. -/
def boundedLifetime (c : Cursor) : Option Cursor := do
  colonBounds (·.lifetime) (startsAnyMark [",", ">"]) (← c.lifetime)

/-- Takes bound lifetimes, if there are any. -/
def boundLifetimes (g : Recognisers) (c : Cursor) : Option Cursor :=
  match c.word "for" with
  | none => some c
  | some c => do
    let opened ← c.mark "<"
    let item (c : Cursor) : Option Cursor := do boundedLifetime (← skipAttributes g c)
    let d ← chain item "," (startsMark ">") (.start opened.rest)
    (opened.follow d).mark ">"

/-- Takes the path of a trait, perhaps with arguments in parentheses. -/
def traitPath (g : Recognisers) (c : Cursor) : Option Cursor := do
  let (p, c) ← path g false c
  if p.arguments = .none && startsParenthesized c then
    (parenthesizedArguments g (c.dropMark "::")).map (·.2)
  else some c

/-- Takes a trait as a bound. The mark of a relaxed bound is printed before bound lifetimes. -/
def traitBound (g : Recognisers) (c : Cursor) : Option Cursor := do
  let lifetimes ← boundLifetimes g (.start c.rest)
  match mark "?" lifetimes.ahead with
  | none => traitPath g (c.follow lifetimes)
  | some rest =>
    let c := (c.write [.punct '?' false]).follow (lifetimes.drop rest)
    if lifetimes.source.isEmpty then (boundLifetimes g c).bind (traitPath g) else traitPath g c

/-- Takes a bound: a lifetime or a trait. -/
def bound (g : Recognisers) (c : Cursor) : Option Cursor :=
  if startsLifetime c.ahead then c.lifetime
  else if startsGroup .parenthesis c.ahead then c.within .parenthesis (whole (traitBound g))
  else traitBound g c

/-- Takes the names that an opaque type may use. -/
def captures (c : Cursor) : Option Cursor := do
  let item (ts : List Tree) : Option (Bool × Cursor) :=
    let c := Cursor.start ts
    match c.lifetime with
    | some c => some (true, c)
    | none => ((c.word "Self").or (c.name.map (·.2))).map (false, ·)
  angled item (← c.word "use")

def startsBound (ts : List Tree) : Bool :=
  (anyWord ts).isSome || startsAnyMark ["::", "?"] ts || startsLifetime ts ||
    startsGroup .parenthesis ts

/-- Takes bounds with `+` between them, among which captures may be. The flag says that one of
them is a trait. -/
def boundsFrom (g : Recognisers) (plus opaque? : Bool) : Nat → Cursor → Option (Bool × Cursor)
  | 0, _ => none
  | fuel + 1, c => do
    -- a lifetime or captured names alone do not make an opaque type
    let captured := opaque? && startsWord "use" c.ahead
    let trait := !captured && !startsLifetime c.ahead
    let c ← if captured then captures c else c.read g.bound
    match if plus then c.mark "+" else none with
    | none => some (trait, c)
    | some c =>
      if startsBound c.ahead then
        (boundsFrom g plus opaque? fuel c).map fun (others, c) => (trait || others, c)
      else some (trait, c)

/-- Takes bounds, at least one of them a trait. -/
def bounds (g : Recognisers) (plus opaque? : Bool) (c : Cursor) : Option Cursor := do
  let (trait, c) ← boundsFrom g plus opaque? (c.size + 1) c
  if trait then some c else none

/-! ### Generic parameters -/

inductive ParameterKind where
  | lifetime
  | type
  | const
  deriving DecidableEq

/-- A generic parameter: what it is, its declaration, its default with the equality sign, and
whether a comma follows it. -/
structure Parameter where
  kind : ParameterKind
  declaration : List Tree
  fallback : List Tree := []
  comma : Bool

/-- Takes what a mark introduces, if the mark is there. -/
def afterMark (s : String) (item : Cursor → Option Cursor) (c : Cursor) : Option Cursor :=
  match c.mark s with
  | none => some c
  | some c => item c

/-- Takes a parameter and its default, up to the comma. -/
def parameter (g : Recognisers) (ts : List Tree) : Option ((Bool → Parameter) × Cursor) := do
  let c ← skipAttributes g (.start ts)
  if startsLifetime c.ahead then
    let c ← boundedLifetime c
    return (Parameter.mk .lifetime c.printed [], c)
  else if startsName c.ahead then
    let c ← colonBounds (·.read g.bound) (startsAnyMark [",", ">", "="]) c.next
    let d ← afterMark "=" (g.plainType true) (.start c.rest)
    return (Parameter.mk .type c.printed d.printed, c.follow d)
  else if startsWord "const" c.ahead then
    let (_, c) ← c.next.name
    let c ← g.plainType true (← c.mark ":")
    let value (c : Cursor) := (c.name.map (·.2)).or (constArgument g c)
    let d ← afterMark "=" value (.start c.rest)
    return (Parameter.mk .const c.printed d.printed, c.follow d)
  else if startsWord "_" c.ahead then return (Parameter.mk .type c.next.printed [], c.next)
  else none

/-- Takes generic parameters, if there are any. -/
def parameters (g : Recognisers) (c : Cursor) : Option (List Parameter × Cursor) :=
  match c.mark "<" with
  | none => some ([], c)
  | some c => angledFrom (parameter g) (c.size + 1) c

/-- Parameters between angles; nothing if there are none. -/
def writeParameters (text : Parameter → List Tree) (ps : List Parameter) : List Tree :=
  if ps.isEmpty then []
  else
    let items := ps.map fun p => ⟨p.kind == .lifetime, text p, p.comma⟩
    [.punct '<' false] ++ lifetimesFirst items ++ [.punct '>' false]

/-- Parameters as they are declared. -/
def declareParameters : List Parameter → List Tree :=
  writeParameters fun p => p.declaration ++ p.fallback

/-- Parameters at the head of an implementation, without their defaults. -/
def introduceParameters : List Parameter → List Tree := writeParameters (·.declaration)

/-- Takes generic parameters and prints them as they are declared. -/
def generics (g : Recognisers) (c : Cursor) : Option Cursor :=
  (parameters g (.start c.rest)).map fun (ps, d) => c.resume d (declareParameters ps)

/-! ### Where clauses -/

def endsPredicate (ts : List Tree) : Bool :=
  ts.isEmpty || startsGroup .brace ts || startsAnyMark [",", ";", "="] ts ||
    (startsMark ":" ts && !startsMark "::" ts)

def predicate (g : Recognisers) (c : Cursor) : Option Cursor := do
  if startsLifetime c.ahead && startsMark ":" c.beyond then
    chain (·.lifetime) "+" endsPredicate (← c.next.mark ":")
  else
    let c ← g.plainType true (← boundLifetimes g c)
    chain (·.read g.bound) "+" endsPredicate (← c.mark ":")

/-- What comes after a where clause starts here. -/
def endsClause (ts : List Tree) : Bool := startsGroup .brace ts || startsAnyMark [";", "="] ts

/-- Takes a where clause, if there is one. Without predicates its word is not printed. -/
def whereClause (g : Recognisers) (c : Cursor) : Option Cursor :=
  match word "where" c.ahead with
  | none => some c
  | some rest =>
    if endsClause (Tree.front rest) then some (c.drop rest)
    else chain (·.read g.predicate) "," endsPredicate (c.upTo rest)

end EndpointRouting.Grammar
