import EndpointRouting.Grammar.Path

/-!
# Types
-/

namespace EndpointRouting.Grammar
open Token

/-- Takes the name of a calling convention, if there is one. -/
def abi (c : Cursor) : Cursor :=
  match c.word "extern" with
  | none => c
  | some c =>
    match c.ahead with
    | .literal ⟨.string _, _⟩ :: rest => c.upTo rest
    | _ => c

/-- Takes an argument of a function type: perhaps a name and a colon, and a type. -/
def functionArgument (g : Recognisers) (c : Cursor) : Option Cursor := do
  let c ← skipAttributes g c
  let d := c.skipWord "mut"
  let named := (startsName d.ahead || startsAnyWord ["_", "self"] d.ahead) &&
    startsMark ":" d.beyond && !startsMark "::" d.beyond
  let c := if named then d.next.skipMark ":" else c
  match c.mark "..." with
  | some c => if c.rest.isEmpty then some c else none
  | none => g.plainType true c

def functionType (g : Recognisers) (c : Cursor) : Option Cursor := do
  let c ← (abi (c.skipWord "unsafe")).word "fn"
  let c ← c.within .parenthesis (commaSeparated (functionArgument g))
  afterMark "->" (g.plainType false) c

/-- Takes further bounds after the first one, if `+` follows. -/
def moreBounds (g : Recognisers) (c : Cursor) : Option Cursor :=
  afterMark "+" (chain (·.read g.bound) "+" (!startsBound ·)) c

/-- Takes a type in parentheses or a tuple of types. -/
def groupedType (g : Recognisers) (plus : Bool) (content : List Tree) (c : Cursor) :
    Option (TypeForm × Cursor) :=
  let ahead := Tree.front content
  if content.isEmpty then some (.other, c.next)
  else if startsLifetime ahead then
    (c.within .parenthesis (whole (bounds g true false))).map (.parenthesized none, ·)
  else if startsMark "?" ahead then
    ((c.within .parenthesis (whole (bound g))).bind (moreBounds g)).map (.other, ·)
  else match g.type true content with
    | none => none
    | some (form, d) =>
      if d.rest.isEmpty then do
        let c ← c.within .parenthesis fun _ => some d.printed
        match form with
        | .path _ _ =>
          if plus && startsMark "+" c.ahead then (moreBounds g c).map (.other, ·)
          else some (.parenthesized form.last?, c)
        | _ => some (.parenthesized form.last?, c)
      else do
        let elements ← chain (g.plainType true) "," List.isEmpty (← d.mark ",")
        let c ← c.within .parenthesis fun _ => elements.finish
        return (.other, c)

/-- Takes a type that starts with a path: the path, a macro, or bounds without a keyword. -/
def namedType (g : Recognisers) (plus bound? : Bool) (c : Cursor) :
    Option (TypeForm × Cursor) := do
  let (p, c) ← typePath g c
  if p.qualified then some (.other, c)
  else if startsMark "!" c.ahead && !startsMark "!=" c.ahead && p.plain then
    ((c.skipMark "!").anyGroup).map fun (_, c) => (.other, c)
  else if plus && startsMark "+" c.ahead then (moreBounds g c).map (.other, ·)
  else if bound? then some (.other, c)
  else some (.path p.last (p.size = 1 && !p.leading && p.arguments != .parenthesized), c)

/-- Takes the type of an element, and the number of elements if there is one. -/
def elementType (g : Recognisers) (c : Cursor) : Option Cursor := do
  afterMark ";" (·.read (g.expr true)) (← g.plainType true c)

/-- Takes a type that does not start with a group between nothing. -/
def bareType (g : Recognisers) (plus : Bool) (c : Cursor) : Option (TypeForm × Cursor) := do
  let bound? := startsWord "for" c.ahead
  let c ← boundLifetimes g c
  let other (c : Option Cursor) : Option (TypeForm × Cursor) := c.map (.other, ·)
  let ts := c.ahead
  match group .parenthesis ts with
  | some (content, _) => if bound? then none else groupedType g plus content c
  | none =>
    if startsAnyWord ["fn", "unsafe", "extern"] ts then other (functionType g c)
    else if startsName ts || startsAnyWord ["super", "self", "Self", "crate"] ts then
      namedType g plus bound? c
    else if bound? then none
    else if startsAnyMark ["::", "<"] ts then namedType g plus bound? c
    else if startsWord "dyn" ts then other (bounds g plus false (c.next.skipMark "*"))
    else if startsWord "impl" ts then other (bounds g plus true c.next)
    else if startsWord "_" ts then some (.other, c.next)
    else if startsLifetime ts then other (bounds g true false c)
    else if startsMark "*" ts then
      let c := c.skipMark "*"
      if startsAnyWord ["const", "mut"] c.ahead then other (g.plainType false c.next) else none
    else if startsMark "&" ts then
      other (g.plainType false (((c.skipMark "&").skipLifetime).skipWord "mut"))
    else if startsMark "!" ts && !startsMark "!=" ts then some (.other, c.next)
    else other (c.within .bracket (whole (elementType g)))

/-- Takes a type. One between nothing goes on like the path that it is; one that is no path is
put between angles before colons. -/
def type (g : Recognisers) (plus : Bool) (c : Cursor) : Option (TypeForm × Cursor) :=
  match c.rest with
  | .group .none content :: rest =>
    match g.type true content with
    | some (form, ⟨_, printed, []⟩) =>
      let after := Cursor.start rest
      let member := startsMark "::" after.ahead && (anyWord (after.skipMark "::").ahead).isSome
      if form.isPath && (member || startsMark "<" after.ahead ||
          startsMark "<" (after.skipMark "::").ahead) then namedType g plus false c
      else
        let c : Cursor := { c with source := c.source ++ [.group .none content], rest }
        if member then do
          let c := c.write ([.punct '<' false] ++ printed ++ [.punct '>' false])
          let (_, c) ← path g false c
          return (.other, c)
        else some (.grouped form, c.write [.group .none printed])
    | _ => bareType g plus c
  | _ => bareType g plus c

end EndpointRouting.Grammar
