import EndpointRouting.Grammar.Pattern

/-!
# Expressions

Operators are taken one after the other: what they bind more tightly does not change which tokens
belong to an expression.
-/

namespace EndpointRouting.Grammar
open Token

/-! ### Parts -/

def startsExpression (ts : List Tree) : Bool :=
  ((anyWord ts).isSome && !startsWord "as" ts) || (anyGroup ts).isSome || startsLiteral ts ||
    (startsMark "!" ts && !startsMark "!=" ts) ||
    (startsMark "-" ts && !startsAnyMark ["-=", "->"] ts) ||
    (startsMark "*" ts && !startsMark "*=" ts) || (startsMark "|" ts && !startsMark "|=" ts) ||
    (startsMark "&" ts && !startsMark "&=" ts) ||
    (startsMark "<" ts && !startsAnyMark ["<=", "<<="] ts) ||
    startsAnyMark ["..", "::", "#"] ts || startsLifetime ts

/-- Expressions with commas between them, as they are printed. -/
def arguments (g : Recognisers) : List Tree → Option (List Tree) :=
  commaSeparated (·.read (g.expr true))

/-- Takes a member: a name or a number. -/
def member (c : Cursor) : Option Cursor := (indexMember c).or (c.name.map (·.2))

def fieldValue (g : Recognisers) (c : Cursor) : Option Cursor := do
  let c ← skipAttributes g c
  match c.mark ".." with
  | some c => if c.rest.isEmpty then some c else (c.read (g.expr true)).filter (·.rest.isEmpty)
  | none =>
    let d ← member c
    match d.mark ":" with
    | some d => d.read (g.expr true)
    | none => if startsName c.ahead then some d else none

def closureArgument (g : Recognisers) (c : Cursor) : Option Cursor := do
  let c ← singlePattern g (← skipAttributes g c)
  afterMark ":" (g.plainType true) c

def startsClosure (c : Cursor) : Bool :=
  let ts := c.ahead
  let after := c.beyond
  let third := c.next.beyond
  startsMark "|" ts || startsAnyWord ["move", "static"] ts ||
    (startsWord "for" ts && startsMark "<" after &&
      (startsLifetime third || startsMark ">" third)) ||
    (startsWord "const" ts && !startsGroup .brace after) ||
    (startsWord "async" ts && (startsMark "|" after || startsWord "move" after))

def closure (g : Recognisers) (structs : Bool) (c : Cursor) : Option Cursor := do
  let c ← boundLifetimes g c
  let c := (((c.skipWord "const").skipWord "static").skipWord "async").skipWord "move"
  let c ← chain (closureArgument g) "," (startsMark "|") (← c.mark "|")
  let c ← c.mark "|"
  match c.mark "->" with
  | some c => g.block (← g.plainType true c)
  | none => c.read (g.expr structs)

/-! ### Control flow -/

/-- Takes a conditional, after its first word. -/
def conditional (g : Recognisers) (c : Cursor) : Option Cursor := do
  let c ← g.block (← c.read (g.expr false))
  match c.word "else" with
  | none => some c
  | some c => if startsWord "if" c.ahead then c.read (g.expr true) else g.block c

/-- Takes the condition of an arm, if there is one. -/
def armCondition (g : Recognisers) (c : Cursor) : Option Cursor :=
  match c.word "if" with
  | none => some c
  | some c => c.read (g.expr true)

def matchArms (g : Recognisers) : Nat → Cursor → Option Cursor
  | 0, _ => none
  | fuel + 1, c =>
    if c.rest.isEmpty then some c
    else do
      let c ← (← skipAttributes g c).read (g.pattern true)
      let c ← (← armCondition g c).mark "=>"
      let (closed, d) ← g.standing c.rest
      let c := c.follow d
      match c.mark "," with
      | some c => matchArms g fuel c
      | none => if closed || c.rest.isEmpty then matchArms g fuel c else none

/-- The content of a match, as it is printed. -/
def matchContent (g : Recognisers) (ts : List Tree) : Option (List Tree) := do
  let (_, c) ← innerAttributes g (.start ts)
  (← matchArms g (c.size + 1) c).finish

/-- Takes a loop over what a pattern stands for, after its first word. -/
def iteration (g : Recognisers) (c : Cursor) : Option Cursor := do
  let c ← (← c.read (g.pattern true)).word "in"
  attributedBlock g (← c.read (g.expr false))

/-- Takes a loop or a block, which may have a label. -/
def labelled (g : Recognisers) (c : Cursor) : Option Cursor := do
  if startsWord "while" c.ahead then attributedBlock g (← c.next.read (g.expr false))
  else if startsWord "for" c.ahead then iteration g c.next
  else if startsWord "loop" c.ahead then attributedBlock g c.next
  else attributedBlock g c

/-- Takes a construct that ends with its own block. -/
def blockLike (g : Recognisers) (c : Cursor) : Option Cursor := do
  if startsWord "if" c.ahead then conditional g c.next
  else if startsWord "match" c.ahead then
    (← c.next.read (g.expr false)).within .brace (matchContent g)
  else if startsAnyWord ["unsafe", "const"] c.ahead then attributedBlock g c.next
  else if startsWord "try" c.ahead then g.block c.next
  else if startsLifetime c.ahead then labelled g (← c.next.mark ":")
  else labelled g c

/-- A construct that ends with its own block starts here. -/
def startsBlockLike (c : Cursor) : Bool :=
  let ts := c.ahead
  startsAnyWord ["if", "match", "while", "loop", "unsafe"] ts ||
    (startsWord "for" ts && !startsMark "<" c.beyond) ||
    (startsAnyWord ["try", "const"] ts && startsGroup .brace c.beyond) ||
    startsGroup .brace ts || startsLifetime ts

/-! ### Expressions -/

/-- Takes the end of a range, if there is one. -/
def rangeStop (g : Recognisers) (structs closed : Bool) (c : Cursor) : Option Cursor :=
  if !closed && (!startsExpression c.ahead || (!structs && startsGroup .brace c.ahead)) then some c
  else c.read (g.rangeOperand structs)

/-- Goes on after a path: with the group of a macro or of a struct literal. -/
def afterPath (g : Recognisers) (structs : Bool) (p : PathForm) (c : Cursor) : Option Cursor :=
  if startsMark "!" c.ahead && !startsMark "!=" c.ahead && p.plain then
    ((c.skipMark "!").anyGroup).map (·.2)
  else if structs && startsGroup .brace c.ahead then
    c.within .brace (commaSeparated (fieldValue g))
  else some c

/-- Takes a path with what may belong to it. -/
def pathExpression (g : Recognisers) (structs : Bool) (c : Cursor) : Option Cursor := do
  let (p, c) ← qualifiedPath g true c
  afterPath g structs p c

/-- Takes an expression between nothing. A path there goes on after its group. -/
def unmarkedGroup (g : Recognisers) (structs : Bool) (content rest : List Tree) (c : Cursor) :
    Option Cursor :=
  let c : Cursor := { c with source := c.source ++ [.group .none content], rest }
  match qualifiedPath g true (.start content) with
  | some (p, ⟨_, printed, []⟩) => do
    let c := c.write printed
    let (p, c) ← moreSegments g true (c.size + 1) p c
    afterPath g structs p c
  | _ => (whole (·.read (g.expr true)) content).map fun inside => c.write [.group .none inside]

/-- Takes an expression after a word, if there is one. -/
def operand? (g : Recognisers) (structs : Bool) (c : Cursor) : Option Cursor :=
  if startsExpression c.ahead && (structs || !startsGroup .brace c.ahead) then
    c.read (g.expr structs)
  else some c

/-- The content of an array, as it is printed: its elements, or one of them and their number. -/
def arrayContent (g : Recognisers) (ts : List Tree) : Option (List Tree) :=
  let repeated (c : Cursor) : Option Cursor := do
    (← (← c.read (g.expr true)).mark ";").read (g.expr true)
  (arguments g ts).or (whole repeated ts)

/-- Takes an expression without operators before or after it. -/
def atom (g : Recognisers) (structs : Bool) (c : Cursor) : Option Cursor := do
  let ts := c.ahead
  if startsLiteral ts then c.literal
  else if startsWord "async" ts && (startsGroup .brace c.beyond ||
      (startsWord "move" c.beyond && startsGroup .brace c.next.beyond)) then
    g.block (c.next.skipWord "move")
  else if startsClosure c then closure g structs c
  else if startsBlockLike c then blockLike g c
  else if startsName ts || startsAnyMark ["::", "<"] ts ||
      startsAnyWord ["self", "Self", "super", "crate"] ts then
    pathExpression g structs c
  else if startsWord "break" ts then operand? g structs c.next.skipLifetime
  else if startsWord "continue" ts then some c.next.skipLifetime
  else if startsAnyWord ["return", "yield"] ts then operand? g structs c.next
  else if startsWord "become" ts then c.verbatim fun c => c.next.read (g.expr structs)
  else if startsWord "let" ts then
    (← (← c.next.read (g.pattern true)).mark "=").read (g.expr structs)
  else if startsMark "..=" ts then rangeStop g structs true (c.skipMark "..=")
  else if startsMark ".." ts then rangeStop g structs false (c.skipMark "..")
  else if startsWord "_" ts then some c.next
  else (c.within .parenthesis (arguments g)).or (c.within .bracket (arrayContent g))

/-- Takes a member access by name or number after its point. -/
def namedAccess (g : Recognisers) (c : Cursor) : Option Cursor := do
  if startsWord "await" c.ahead then some c.next
  else
    let named := startsName c.ahead
    let d ← member c
    if named && startsMark "::" d.ahead then
      (← angleArguments g d).within .parenthesis (arguments g)
    else if named && startsGroup .parenthesis d.ahead then d.within .parenthesis (arguments g)
    else some d

/-- Takes a member access after its point. Two numbers with a point between them look like one. -/
def access (g : Recognisers) (c : Cursor) : Option Cursor :=
  match c.ahead with
  | .literal ⟨.float, text⟩ :: rest => do
    let first ← index? (text.toList.takeWhile (· != '.'))
    let c := (c.drop rest).write [indexToken first, .punct '.' false]
    match text.toList.dropWhile (· != '.') with
    | [] => none
    | [_] => namedAccess g c
    | _ :: others => (index? others).map fun second => c.write [indexToken second]
  | _ => namedAccess g c

/-- Takes calls, indexes, members and question marks after an expression. -/
def trailers (g : Recognisers) : Nat → Cursor → Option Cursor
  | 0, _ => none
  | fuel + 1, c =>
    if startsGroup .parenthesis c.ahead then do
      trailers g fuel (← c.within .parenthesis (arguments g))
    else if startsGroup .bracket c.ahead then do
      trailers g fuel (← c.within .bracket (whole (·.read (g.expr true))))
    else if startsMark "?" c.ahead then trailers g fuel c.next
    else if startsMark "." c.ahead && !startsMark ".." c.ahead then do
      trailers g fuel (← access g c.next)
    else some c

/-- Takes operators and attributes before an expression. A group between nothing is an
expression of its own. -/
def prefixes (g : Recognisers) : Nat → Cursor → Option Cursor
  | 0, _ => none
  | fuel + 1, c =>
    if startsGroup .none c.rest then some c
    else if startsMark "#" c.ahead then (skipAttributes g c).bind (prefixes g fuel)
    else if startsMark "&" c.ahead then
      let c := c.next
      if startsWord "raw" c.ahead && startsAnyWord ["const", "mut"] c.beyond then
        prefixes g fuel c.next.next
      else prefixes g fuel (c.skipWord "mut")
    else if startsAnyMark ["*", "!", "-"] c.ahead then prefixes g fuel c.next
    else some c

/-- Operators between two expressions, longer ones first. -/
def operators : List String :=
  ["<<=", ">>=", "&&", "||", "<<", ">>", "==", "<=", "!=", ">=", "+=", "-=", "*=", "/=", "%=", "^=",
   "&=", "|=", "+", "-", "*", "/", "%", "^", "&", "|", "<", ">", "="]

def comparisons : List String := ["==", "!=", "<=", ">=", "<", ">"]

def assignments : List String :=
  ["=", "<<=", ">>=", "+=", "-=", "*=", "/=", "%=", "^=", "&=", "|="]

/-- Takes an operator; gives it with what follows. -/
def operator (c : Cursor) : Option (String × Cursor) :=
  if startsMark "=>" c.ahead then none
  else operators.findSome? fun mark => (c.mark mark).map (mark, ·)

/-- Takes an expression without prefixes or trailers. -/
def primary (g : Recognisers) (structs : Bool) (c : Cursor) : Option Cursor :=
  match c.rest with
  | .group .none content :: rest => unmarkedGroup g structs content rest c
  | _ => atom g structs c

/-- Takes an expression with its own prefixes and trailers. -/
def operand (g : Recognisers) (structs : Bool) (c : Cursor) : Option Cursor := do
  let c ← primary g structs (← prefixes g (c.size + 1) c)
  trailers g (c.size + 1) c

/-- Takes operators and expressions after an expression, which is `compared` if a comparison is
among its operands. A range takes no operator after it, and its end no assignment or range. -/
def operations (g : Recognisers) (structs ending : Bool) : Nat → (compared : Bool) → Cursor →
    Option Cursor
  | 0, _, _ => none
  | fuel + 1, compared, c =>
    match c.word "as" with
    | some c => do operations g structs ending fuel compared (← g.plainType false c)
    | none =>
      if startsMark ".." c.ahead then
        if ending then some c
        else if startsMark "..=" c.ahead then rangeStop g structs true (c.skipMark "..=")
        else rangeStop g structs false (c.skipMark "..")
      else match operator c with
        | none => some c
        | some (mark, d) =>
          let compares := comparisons.contains mark
          if ending && assignments.contains mark then some c
          -- one comparison is never an operand of another
          else if compares && compared then none
          else do
            let looser := assignments.contains mark || ["&&", "||"].contains mark
            operations g structs ending fuel (compares || (compared && !looser))
              (← operand g structs d)

def expression (g : Recognisers) (structs : Bool) (c : Cursor) : Option Cursor := do
  let d ← operand g structs c
  if startsMark ".." c.ahead then some d else operations g structs false (d.size + 1) false d

/-- Takes what a range ends with. -/
def rangeOperand (g : Recognisers) (structs : Bool) (c : Cursor) : Option Cursor := do
  let c ← operand g structs c
  operations g structs true (c.size + 1) false c

/-- Takes an expression that stands by itself. -/
def standing (g : Recognisers) (c : Cursor) : Option (Bool × Cursor) := do
  let d ← skipAttributes g c
  if !startsGroup .none d.rest && startsBlockLike d then
    let d ← blockLike g d
    if (startsMark "." d.ahead && !startsMark ".." d.ahead) || startsMark "?" d.ahead then
      let d ← trailers g (d.size + 1) d
      (operations g true false (d.size + 1) false d).map (false, ·)
    else some (true, d)
  else (expression g true c).map (false, ·)

end EndpointRouting.Grammar
