import EndpointRouting.Grammar.Path

/-!
# Patterns
-/

namespace EndpointRouting.Grammar
open Token

/-- Takes the end of a range, if there is one: a literal or a path. -/
def rangeEnd (g : Recognisers) (c : Cursor) : Option Cursor :=
  if startsLiteral c.ahead then c.literal
  else if startsName c.ahead || startsAnyWord ["self", "Self", "super", "crate"] c.ahead ||
      startsAnyMark ["::", "<"] c.ahead then
    (qualifiedPath g true c).map (·.2)
  else some c

/-- Takes the end of a range that has to have one. -/
def closedRangeEnd (g : Recognisers) (c : Cursor) : Option Cursor :=
  (rangeEnd g c).filter (·.size < c.size)

/-- Takes a range after its start, if a range follows. -/
def rangeAfter (g : Recognisers) (c : Cursor) : Option Cursor :=
  match (c.mark "..=").or (c.mark "..."), c.mark ".." with
  | some c, _ => closedRangeEnd g c
  | none, some c => rangeEnd g c
  | none, none => some c

/-- Takes a member that is a number, which is printed in decimal digits. -/
def indexMember (c : Cursor) : Option Cursor :=
  match c.ahead with
  | .literal ⟨.integer, text⟩ :: rest =>
    (index? text.toList).map fun n => (c.drop rest).write [indexToken n]
  | _ => none

def fieldPattern (g : Recognisers) (c : Cursor) : Option Cursor := do
  let c ← skipAttributes g c
  match c.mark ".." with
  | some c => if c.rest.isEmpty then some c else none
  | none =>
    let d := ((c.skipWord "box").skipWord "ref").skipWord "mut"
    if d.size < c.size then d.name.map (·.2)
    else match indexMember c with
      | some c => (← c.mark ":").read (g.pattern true)
      | none =>
        let (_, c) ← c.name
        afterMark ":" (·.read (g.pattern true)) c

def pathPattern (g : Recognisers) (c : Cursor) : Option Cursor := do
  let (p, c) ← qualifiedPath g true c
  if startsMark "!" c.ahead && !startsMark "!=" c.ahead && p.plain then
    ((c.skipMark "!").anyGroup).map (·.2)
  else if startsGroup .brace c.ahead then c.within .brace (commaSeparated (fieldPattern g))
  else if startsGroup .parenthesis c.ahead then
    c.within .parenthesis (commaSeparated (·.read (g.pattern true)))
  else rangeAfter g c

/-- Takes a name that is bound, with the words that may stand before it. -/
def binding (c : Cursor) : Option Cursor :=
  let c := (c.skipWord "ref").skipWord "mut"
  if startsWord "self" c.ahead then some c.next else c.name.map (·.2)

/-- Takes a pattern that is no reference, no box and binds no name to another pattern. -/
def barePattern (g : Recognisers) (c : Cursor) : Option Cursor := do
  let ts := c.ahead
  let after := c.beyond
  if (startsName ts && (startsAnyMark ["::", "!", ".."] after || startsGroup .brace after ||
        startsGroup .parenthesis after)) ||
      (startsWord "self" ts && startsMark "::" after) || startsAnyMark ["::", "<"] ts ||
      startsAnyWord ["Self", "super", "crate"] ts then
    pathPattern g c
  else if startsWord "_" ts then some c.next
  else if startsLiteral ts then rangeAfter g (← c.literal)
  else if startsWord "const" ts then c.verbatim fun c => g.block c.next
  else if (binding c).isSome then binding c
  else if startsMark "..=" ts then closedRangeEnd g (c.skipMark "..=")
  else if startsMark ".." ts && !startsMark "..." ts then rangeEnd g (c.skipMark "..")
  else
    let inside := commaSeparated (·.read (g.pattern true))
    (c.within .parenthesis inside).or (c.within .bracket inside)

/-- Takes a pattern without bars outside its groups. A boxed one is printed as it is written. -/
def singlePatternFrom (g : Recognisers) : Nat → Cursor → Option Cursor
  | 0, _ => none
  | fuel + 1, c =>
    if startsMark "&" c.ahead then singlePatternFrom g fuel ((c.skipMark "&").skipWord "mut")
    else if startsWord "box" c.ahead then c.verbatim fun c => singlePatternFrom g fuel c.next
    else match (binding c).bind (·.mark "@") with
      | some c => singlePatternFrom g fuel c
      | none => barePattern g c

def singlePattern (g : Recognisers) (c : Cursor) : Option Cursor :=
  singlePatternFrom g (c.size + 1) c

/-- Takes the patterns after a bar. -/
def morePatterns (g : Recognisers) : Nat → Cursor → Option Cursor
  | 0, _ => none
  | fuel + 1, c =>
    if startsMark "|" c.ahead && !startsAnyMark ["||", "|="] c.ahead then do
      morePatterns g fuel (← singlePattern g (c.skipMark "|"))
    else some c

/-- Takes a pattern; where bars are allowed one may stand in front. -/
def pattern (g : Recognisers) (bars : Bool) (c : Cursor) : Option Cursor :=
  if bars then do
    let c ← singlePattern g (if startsMark "||" c.ahead then c else c.skipMark "|")
    morePatterns g (c.size + 1) c
  else singlePattern g c

end EndpointRouting.Grammar
