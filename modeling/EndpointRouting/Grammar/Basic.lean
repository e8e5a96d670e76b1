import EndpointRouting.Token.Tree

/-!
# Reading source text

Readers take what they know from the front of a token list. Most constructs are printed as they
are written, but some have a form in which they are always printed: a reader tells which tokens it
took, how they are printed, and which tokens are left. The readers of types, expressions, patterns
and items need each other: `Recognisers` are those for what is nested inside a construct, and
every construct is read over them.
-/

namespace EndpointRouting.Grammar
open Token Tree

/-- The words that are no names unless they are written raw. -/
def keywords : List String :=
  ["_", "abstract", "as", "async", "await", "become", "box", "break", "const", "continue", "crate",
   "do", "dyn", "else", "enum", "extern", "false", "final", "fn", "for", "if", "impl", "in", "let",
   "loop", "macro", "match", "mod", "move", "mut", "override", "priv", "pub", "ref", "return",
   "Self", "self", "static", "struct", "super", "trait", "true", "try", "type", "typeof", "unsafe",
   "unsized", "use", "virtual", "where", "while", "yield"]

def isName (i : Identifier) : Bool := i.raw || !keywords.contains i.text

/-! ### Single tokens -/

/-- Takes one given word, not in raw form. -/
def word (w : String) : List Tree → Option (List Tree)
  | .ident i :: rest => if !i.raw && i.text == w then some rest else none
  | _ => none

/-- Takes a name that is no keyword. -/
def name : List Tree → Option (Identifier × List Tree)
  | .ident i :: rest => if isName i then some (i, rest) else none
  | _ => none

def anyWord : List Tree → Option (Identifier × List Tree)
  | .ident i :: rest => some (i, rest)
  | _ => none

/-- Takes punctuation whose characters stand together. -/
def punctChars : List Char → List Tree → Option (List Tree)
  | [], ts => some ts
  | [c], .punct d _ :: rest => if c = d then some rest else none
  | c :: cs, .punct d joint :: rest => if c = d && joint then punctChars cs rest else none
  | _, _ => none

def mark (s : String) : List Tree → Option (List Tree) := punctChars s.toList

/-- Takes a quote mark and the name after it. -/
def lifetime : List Tree → Option (List Tree)
  | .punct '\'' _ :: .ident _ :: rest => some rest
  | _ => none

/-- Takes a group: its content, and the rest. -/
def group (d : Delimiter) : List Tree → Option (List Tree × List Tree)
  | .group e content :: rest => if d = e then some (content, rest) else none
  | _ => none

def anyGroup : List Tree → Option (Delimiter × List Tree)
  | .group d _ :: rest => some (d, rest)
  | _ => none

/-- Takes a literal: a number may have a minus sign, and the words of truth count. -/
def literal : List Tree → Option (List Tree)
  | .literal _ :: rest => some rest
  | .punct '-' _ :: .literal ⟨.integer, _⟩ :: rest => some rest
  | .punct '-' _ :: .literal ⟨.float, _⟩ :: rest => some rest
  | ts => (word "true" ts).or (word "false" ts)

/-! ### Looking ahead -/

def startsWord (w : String) (ts : List Tree) : Bool := (word w ts).isSome
def startsAnyWord (ws : List String) (ts : List Tree) : Bool := ws.any (startsWord · ts)
def startsName (ts : List Tree) : Bool := (name ts).isSome
def startsMark (s : String) (ts : List Tree) : Bool := (mark s ts).isSome
def startsAnyMark (ss : List String) (ts : List Tree) : Bool := ss.any (startsMark · ts)
def startsLifetime (ts : List Tree) : Bool := (lifetime ts).isSome
def startsGroup (d : Delimiter) (ts : List Tree) : Bool := (group d ts).isSome
def startsLiteral (ts : List Tree) : Bool := (literal ts).isSome

def skipMark (s : String) (ts : List Tree) : List Tree := (mark s ts).getD ts

/-- The tokens after the first one; a lifetime is one token. -/
def next (ts : List Tree) : List Tree := (lifetime ts).getD ts.tail

/-- The tokens that were taken where `rest` is left. -/
def taken (ts rest : List Tree) : List Tree := ts.take (ts.length - rest.length)

/-! ### Numbers of members -/

def digit? (c : Char) : Option Nat :=
  if c.isDigit then some (c.toNat - 48)
  else if 'a' ≤ c && c ≤ 'f' then some (c.toNat - 87)
  else if 'A' ≤ c && c ≤ 'F' then some (c.toNat - 55)
  else none

/-- The number that digits write after others that write `n`. Underscores do not count. -/
def digitsValue (base n : Nat) : List Char → Option Nat
  | [] => some n
  | c :: cs =>
    if c = '_' then digitsValue base n cs
    else match digit? c with
      | some d => if d < base then digitsValue base (n * base + d) cs else none
      | none => none

/-- The index that a text writes: a number without a suffix, of 32 bits. -/
def index? (text : List Char) : Option Nat :=
  let value := match text with
    | '0' :: 'x' :: cs => digitsValue 16 0 cs
    | '0' :: 'o' :: cs => digitsValue 8 0 cs
    | '0' :: 'b' :: cs => digitsValue 2 0 cs
    | cs => digitsValue 10 0 cs
  value.filter (· < UInt32.size)

/-- An index as it is printed, in decimal digits. -/
def indexToken (n : Nat) : Tree := .literal ⟨.integer, toString n⟩

/-! ### Cursors -/

/-- Where a reader stands: the tokens that it took, how they are printed, and what is left. -/
structure Cursor where
  source : List Tree
  printed : List Tree
  rest : List Tree

namespace Cursor

def start (ts : List Tree) : Cursor := ⟨[], [], ts⟩

/-- How many tokens are left. -/
def size (c : Cursor) : Nat := (leavesOf c.rest).length

/-- The tokens that come next. -/
def ahead (c : Cursor) : List Tree := front c.rest

/-- The tokens after the next one. -/
def beyond (c : Cursor) : List Tree := front (next c.ahead)

/-- Goes on where `d` stands, which started here. The tokens that `d` took are printed as
given. -/
def resume (c d : Cursor) (printed : List Tree) : Cursor :=
  ⟨c.source ++ d.source, c.printed ++ printed, d.rest⟩

/-- Goes on where `d` stands, which started here. -/
def follow (c d : Cursor) : Cursor := c.resume d d.printed

/-- Prints tokens that are not in the source. -/
def write (c : Cursor) (ts : List Tree) : Cursor := { c with printed := c.printed ++ ts }

/-- Leaves the tokens before `rest` out. -/
def drop (c : Cursor) (rest : List Tree) : Cursor :=
  ⟨c.source ++ taken c.ahead rest, c.printed, rest⟩

/-- Takes the tokens before `rest` as they are. -/
def upTo (c : Cursor) (rest : List Tree) : Cursor := (c.drop rest).write (taken c.ahead rest)

def word (w : String) (c : Cursor) : Option Cursor := (Grammar.word w c.ahead).map c.upTo
def mark (s : String) (c : Cursor) : Option Cursor := (Grammar.mark s c.ahead).map c.upTo
def lifetime (c : Cursor) : Option Cursor := (Grammar.lifetime c.ahead).map c.upTo
def literal (c : Cursor) : Option Cursor := (Grammar.literal c.ahead).map c.upTo

def name (c : Cursor) : Option (Identifier × Cursor) :=
  (Grammar.name c.ahead).map fun (i, rest) => (i, c.upTo rest)

def anyWord (c : Cursor) : Option (Identifier × Cursor) :=
  (Grammar.anyWord c.ahead).map fun (i, rest) => (i, c.upTo rest)

def anyGroup (c : Cursor) : Option (Delimiter × Cursor) :=
  (Grammar.anyGroup c.ahead).map fun (d, rest) => (d, c.upTo rest)

/-- Takes the next token as it is. -/
def next (c : Cursor) : Cursor := c.upTo (Grammar.next c.ahead)

def skipWord (w : String) (c : Cursor) : Cursor := (c.word w).getD c
def skipMark (s : String) (c : Cursor) : Cursor := (c.mark s).getD c
def skipLifetime (c : Cursor) : Cursor := c.lifetime.getD c

/-- Leaves a mark out if it is there. -/
def dropMark (s : String) (c : Cursor) : Cursor := ((Grammar.mark s c.ahead).map c.drop).getD c

/-- Takes a group whose content is printed by `inside`. -/
def within (d : Delimiter) (inside : List Tree → Option (List Tree)) (c : Cursor) :
    Option Cursor := do
  let (content, rest) ← Grammar.group d c.ahead
  let printed ← inside content
  return ⟨c.source ++ [.group d content], c.printed ++ [.group d printed], rest⟩

/-- Takes what a reader of token lists knows. -/
def read (f : List Tree → Option Cursor) (c : Cursor) : Option Cursor := (f c.rest).map c.follow

/-- Takes what a reader knows, and prints it as it is written. -/
def verbatim (f : Cursor → Option Cursor) (c : Cursor) : Option Cursor :=
  (f (start c.rest)).map fun d => c.resume d d.source

end Cursor

/-! ### Repeated parts -/

/-- How all tokens are printed, if none is left. -/
def Cursor.finish (c : Cursor) : Option (List Tree) :=
  if c.rest.isEmpty then some c.printed else none

/-- How the tokens are printed if a reader takes them all. -/
def whole (f : Cursor → Option Cursor) (ts : List Tree) : Option (List Tree) :=
  (f (.start ts)).bind (·.finish)

/-- Takes items with a mark between them until one is expected and `stop` holds, or no mark
follows. -/
def chainFrom (item : Cursor → Option Cursor) (sep : String) (stop : List Tree → Bool) :
    Nat → Cursor → Option Cursor
  | 0, _ => none
  | fuel + 1, c =>
    if stop c.ahead then some c
    else do
      let c ← item c
      match c.mark sep with
      | some c => chainFrom item sep stop fuel c
      | none => some c

def chain (item : Cursor → Option Cursor) (sep : String) (stop : List Tree → Bool) (c : Cursor) :
    Option Cursor :=
  chainFrom item sep stop (c.size + 1) c

/-- How the tokens are printed if they are items with commas between them; one may stand at the
end. -/
def commaSeparated (item : Cursor → Option Cursor) : List Tree → Option (List Tree) :=
  whole (chain item "," List.isEmpty)

/-- Takes items up to a closing angle. What an item becomes depends on whether a comma follows
it. -/
def angledFrom {α : Type} (item : List Tree → Option ((Bool → α) × Cursor)) :
    Nat → Cursor → Option (List α × Cursor)
  | 0, _ => none
  | fuel + 1, c =>
    match c.mark ">" with
    | some c => some ([], c)
    | none => do
      let (make, d) ← item c.rest
      let c := c.follow d
      match c.mark "," with
      | some c =>
        let (others, c) ← angledFrom item fuel c
        return (make true :: others, c)
      | none => return ([make false], ← c.mark ">")

/-! ### Nested constructs -/

/-- How types end up being used: what their last name is, and whether they are plain paths. -/
inductive TypeForm where
  /-- A path without a qualified self; `single` if it is one name, perhaps with arguments. -/
  | path (last : Identifier) (single : Bool)
  /-- A type in parentheses, with the last name of the type inside if it has one. -/
  | parenthesized (last : Option Identifier)
  /-- A type between nothing. -/
  | grouped (inside : TypeForm)
  | other

/-- The last name of a type that is a path, perhaps in parentheses. -/
def TypeForm.last? : TypeForm → Option Identifier
  | path last _ => some last
  | parenthesized last => last
  | grouped inside => inside.last?
  | other => none

/-- The type is a path, perhaps between nothing. -/
def TypeForm.isPath : TypeForm → Bool
  | path _ _ => true
  | grouped inside => inside.isPath
  | _ => false

/-- The readers for what is nested inside a construct. -/
structure Recognisers where
  /-- A type; bounds may be added to it with `+` where that is allowed. -/
  type : (plus : Bool) → List Tree → Option (TypeForm × Cursor)
  bound : List Tree → Option Cursor
  /-- A predicate of a where clause. -/
  predicate : List Tree → Option Cursor
  /-- An expression; a brace after a path belongs to it where struct literals are allowed. -/
  expr : (structs : Bool) → List Tree → Option Cursor
  /-- An expression without assignments and ranges outside its groups, as a range ends with. -/
  rangeOperand : (structs : Bool) → List Tree → Option Cursor
  /-- An expression that is a statement or an arm. One that ends with its own block goes on only
  with a member or a question mark; the flag says that it ended with its block. -/
  standing : List Tree → Option (Bool × Cursor)
  /-- A pattern, or patterns with bars between them where that is allowed. -/
  pattern : (bars : Bool) → List Tree → Option Cursor
  /-- An item with its attributes. -/
  item : List Tree → Option Cursor
  /-- The content of a block, as it is printed. -/
  statements : List Tree → Option (List Tree)

/-- Nothing is recognised. -/
def Recognisers.none : Recognisers :=
  { type := fun _ _ => .none, bound := fun _ => .none, predicate := fun _ => .none
    expr := fun _ _ => .none, rangeOperand := fun _ _ => .none, standing := fun _ => .none
    pattern := fun _ _ => .none, item := fun _ => .none, statements := fun _ => .none }

namespace Recognisers

def typeForm (g : Recognisers) (plus : Bool) (c : Cursor) : Option (TypeForm × Cursor) :=
  (g.type plus c.rest).map fun (form, d) => (form, c.follow d)

/-- Takes a type and drops what form it has. -/
def plainType (g : Recognisers) (plus : Bool) (c : Cursor) : Option Cursor :=
  (g.typeForm plus c).map (·.2)

def block (g : Recognisers) (c : Cursor) : Option Cursor := c.within .brace g.statements

end Recognisers

end EndpointRouting.Grammar
