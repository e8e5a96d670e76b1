import EndpointRouting.Grammar.Expression
import EndpointRouting.Grammar.Item

/-!
# Statements

The content of a block, and the readers of all constructs.
-/

namespace EndpointRouting.Grammar
open Token

def startsItem (c : Cursor) : Bool :=
  let ts := c.ahead
  let after := c.beyond
  startsAnyWord ["pub", "extern", "use", "fn", "mod", "type", "struct", "enum", "trait", "impl",
      "macro"] ts ||
    (startsWord "crate" ts && !startsMark "::" after) ||
    (startsWord "static" ts && (startsWord "mut" after || startsName after)) ||
    (startsWord "const" ts && !(startsGroup .brace after || startsMark "|" after ||
      startsAnyWord ["static", "move"] after ||
      (startsWord "async" after && !startsAnyWord ["unsafe", "extern", "fn"] c.next.beyond))) ||
    (startsWord "unsafe" ts && !startsGroup .brace after) ||
    (startsWord "async" ts && startsAnyWord ["unsafe", "extern", "fn"] after) ||
    (startsWord "union" ts && startsName after) ||
    (startsWord "auto" ts && startsWord "trait" after) ||
    (startsWord "default" ts && startsAnyWord ["unsafe", "impl"] after)

/-- Takes a macro that is a statement by itself. -/
def macroStatement (c : Cursor) : Option Cursor := do
  let d ← (← plainPath c).mark "!"
  if startsName d.ahead || startsWord "try" d.ahead then itemMacro true c
  else if startsGroup .brace d.ahead then
    let d := d.next
    if (startsMark "." d.ahead && !startsMark ".." d.ahead) || startsMark "?" d.ahead then none
    else some (d.skipMark ";")
  else none

def endsWithBlock (ts : List Tree) : Bool :=
  match ts.getLast? with
  | some (.group .brace _) => true
  | _ => false

/-- Takes the value of a declaration, with the block for what its pattern does not fit. -/
def declaredValue (g : Recognisers) (c : Cursor) : Option Cursor := do
  let c ← c.read (g.expr true)
  -- after a block `else` would look like a part of the value
  if endsWithBlock c.source then some c
  else match c.word "else" with
    | some c => g.block c
    | none => some c

/-- Takes a declaration, after its first word. -/
def declaration (g : Recognisers) (c : Cursor) : Option Cursor := do
  let c ← afterMark ":" (g.plainType true) (← singlePattern g c)
  (← afterMark "=" (declaredValue g) c).mark ";"

/-- Takes a statement. The flag says that a semicolon has to come before the next one. -/
def statement (g : Recognisers) (c : Cursor) : Option (Bool × Cursor) := do
  let start ← skipAttributes g c
  match macroStatement start with
  | some c => some (false, c)
  | none =>
    if startsWord "let" start.ahead then (declaration g start.next).map (false, ·)
    else if startsItem start then (item g c).map (false, ·)
    else
      let (closed, c) ← standing g c
      match c.mark ";" with
      | some c => some (false, c)
      | none => some (!closed, c)

def statementsFrom (g : Recognisers) : Nat → Cursor → Option Cursor
  | 0, _ => none
  | fuel + 1, c =>
    if c.rest.isEmpty then some c
    else match c.mark ";" with
      | some c => statementsFrom g fuel c
      | none => do
        let (open?, c) ← statement g c
        if open? && !c.rest.isEmpty then none else statementsFrom g fuel c

/-- The content of a block, as it is printed. -/
def statements (g : Recognisers) (ts : List Tree) : Option (List Tree) := do
  let c := Cursor.start ts
  (← statementsFrom g (c.size + 1) c).finish

/-! ### All constructs -/

/-- The readers of constructs up to a depth. -/
def level : Nat → Recognisers
  | 0 => .none
  | depth + 1 =>
    let g := level depth
    { type := fun plus ts => type g plus (.start ts)
      bound := fun ts => bound g (.start ts)
      predicate := fun ts => predicate g (.start ts)
      expr := fun structs ts => expression g structs (.start ts)
      rangeOperand := fun structs ts => rangeOperand g structs (.start ts)
      standing := fun ts => standing g (.start ts)
      pattern := fun bars ts => pattern g bars (.start ts)
      item := fun ts => item g (.start ts)
      statements := statements g }

/-- The readers of all constructs that the tokens can hold: each token opens a few at most. -/
def recognisersFor (ts : List Tree) : Recognisers := level (6 * (Tree.leavesOf ts).length + 6)

end EndpointRouting.Grammar
