import EndpointRouting.Block.Fault
import EndpointRouting.Block.Similarity
import EndpointRouting.Grammar.Statement
import EndpointRouting.Route.Definition

/-!
# Endpoint arguments

The arguments of an endpoint: a path, whether it is an administration endpoint, and its
environment. Each may be given once. A fault between the items hides the items; otherwise every
item that is not right is reported.
-/

namespace EndpointRouting.Block
open Grammar Route Token

/-- What an item has after its name. Of a value it is told whether it ends the list. -/
inductive ItemForm where
  | word
  | list (content : List Tree)
  | value (trees : List Tree) (last : Bool)

/-- An item of a list: a literal, or a name with what it has. -/
inductive Item where
  | literal
  | named (name : String) (form : ItemForm)

/-- Takes the words of an item's path. -/
def itemWords : Nat → List Tree → Except Fault (List Identifier × List Tree)
  | 0, ts => .error (.at .segment ts)
  | fuel + 1, ts =>
    match anyWord ts with
    | none => .error (.at .segment ts)
    | some (i, rest) =>
      match mark "::" rest with
      | none => .ok ([i], rest)
      | some rest => (itemWords fuel rest).map fun (others, rest) => (i :: others, rest)

/-- Takes what follows the name of an item. -/
def itemForm (g : Recognisers) (ts : List Tree) : Except Fault (ItemForm × List Tree) :=
  match ts with
  | .group _ content :: rest => .ok (.list content, rest)
  | _ =>
    match mark "=" ts with
    | none => .ok (.word, ts)
    | some value =>
      match attributeValue g (.start value) with
      | some c => .ok (.value c.source c.rest.isEmpty, c.rest)
      | none => .error (.at .expression value)

/-- Takes an item. -/
def item (g : Recognisers) (ts : List Tree) : Except Fault (Item × List Tree) :=
  let isTruth := startsWord "true" ts || startsWord "false" ts
  if startsLiteral ts && !(isTruth && startsMark "=" (next ts)) then
    match Grammar.literal ts with
    | some rest => .ok (.literal, rest)
    | none => .error (.at .item ts)
  else if (anyWord (skipMark "::" ts)).isSome then do
    let (is, rest) ← itemWords (ts.length + 1) (skipMark "::" ts)
    let (form, rest) ← itemForm g rest
    return (.named ("::".intercalate (is.map (·.spelling))) form, rest)
  else .error (.at .item ts)

/-- The items of a list. -/
def itemsFrom (g : Recognisers) : Nat → List Tree → Except Fault (List Item)
  | 0, _ | _ + 1, [] => .ok []
  | fuel + 1, ts => do
    let (i, rest) ← item g ts
    if rest.isEmpty then return [i]
    return i :: (← itemsFrom g fuel (← comma rest))

def items (ts : List Tree) : Except Fault (List Item) :=
  itemsFrom (recognisersFor ts) (ts.length + 1) ts

/-! ### Kinds of values -/

def literalKindName : LiteralKind → String
  | .string _ => "string"
  | .byteString => "byte string"
  | .cString => "verbatim"
  | .byte => "byte"
  | .char => "char"
  | .integer => "int"
  | .float => "float"

/-- What kind of expression the tokens are, by their start and by what a path is followed by. -/
def expressionKindName (g : Recognisers) (ts : List Tree) : String :=
  let afterPath : Option (List Tree) := (qualifiedPath g true (.start ts)).map fun (_, c) => c.rest
  match afterPath with
  | some [] => "path"
  | some (.punct '!' _ :: [.group _ _]) => "macro"
  | some [.group .parenthesis _] => "call"
  | some [.group .brace _] => "struct"
  | _ =>
    match ts with
    | .punct c _ :: _ =>
      if c = '-' || c = '!' || c = '*' then "unary" else if c = '&' then "reference"
      else if c = '|' then "closure" else "binary"
    | [.group .parenthesis content] =>
      if (whole (·.read (g.expr true)) content).isSome then "paren" else "tuple"
    | [.group .bracket content] =>
      if (Grammar.arguments g content).isSome then "array" else "repeat"
    | [.group .brace _] => "block"
    | [.ident ⟨"_", _⟩] => "infer"
    | .ident i :: _ =>
      if i.text = "for" then "for_loop"
      else if i.text = "move" || i.text = "static" then "closure"
      else if ["if", "match", "while", "loop", "unsafe", "return", "break", "continue", "let",
          "async", "const", "yield"].contains i.text then i.text
      else "binary"
    | _ => "binary"

/-- A value that an argument can have, or its kind. -/
inductive ArgumentValue where
  | text (s : String)
  | truth (b : Bool)
  | other (kind : String)

/-- A sign belongs to a number only at the end of a list. -/
def argumentValue (ts : List Tree) (last : Bool) : ArgumentValue :=
  match ts with
  | [.literal ⟨.string s, _⟩] => .text s
  | [.literal l] => .other (literalKindName l.kind)
  | [.punct '-' _, .literal l] =>
    .other (if last && (l.kind = .integer || l.kind = .float) then literalKindName l.kind
      else "unary")
  | [.ident ⟨"true", false⟩] => .truth true
  | [.ident ⟨"false", false⟩] => .truth false
  | _ => .other (expressionKindName (recognisersFor ts) ts)

/-! ### Arguments -/

inductive ArgumentName where
  | path
  | admin
  | environment
  deriving DecidableEq, Repr

def ArgumentName.all : List ArgumentName := [path, admin, environment]

def ArgumentName.text : ArgumentName → String
  | path => "path"
  | admin => "admin"
  | environment => "environment"

/-- Why the form or the value of an argument is not right. -/
inductive ValueError where
  | unread (f : Fault)
  | form (name : String)
  | kind (name : String)
  | unknown (value : String)
  deriving DecidableEq, Repr

def ValueError.message : ValueError → String
  | unread f => f.message
  | form name => "Unexpected meta-item format \x60" ++ name ++ "\x60"
  | kind name => "Unexpected type \x60" ++ name ++ "\x60"
  | unknown value => "Unknown value: \x60" ++ value ++ "\x60"

inductive ArgumentError where
  | unread (f : Fault)
  | literal
  | duplicate (name : ArgumentName)
  | unknown (name : String)
  | value (name : ArgumentName) (e : ValueError)
  deriving DecidableEq, Repr

namespace ArgumentError

/-- The message. What is wrong with a value can name its argument. -/
def message (placed : Bool) : ArgumentError → String
  | unread f => f.message
  | literal => (ValueError.form "literal").message
  | duplicate name => "Duplicate field \x60" ++ name.text ++ "\x60"
  | unknown name =>
    "Unknown field: \x60" ++ name ++ "\x60. " ++
      match mostSimilar name (ArgumentName.all.map (·.text)) with
      | some other => "Did you mean \x60" ++ other ++ "\x60?"
      | none => "Available values: \x60admin\x60, \x60environment\x60, \x60path\x60"
  | value name e => if placed then e.message ++ " at " ++ name.text else e.message

end ArgumentError

/-- The options with one argument set. -/
def setArgument (o : Options) (name : ArgumentName) (form : ItemForm) : Except ValueError Options :=
  match name, form with
  | _, .list content =>
    match items content with
    | .error f => .error (.unread f)
    | .ok _ => .error (.form "list")
  | .admin, .word => .ok { o with admin := true }
  | _, .word => .error (.form "word")
  | name, .value trees last =>
    match name, argumentValue trees last with
    | .path, .text s => .ok { o with path := some s }
    | .admin, .truth b => .ok { o with admin := b }
    | .admin, .text s =>
      if s = "true" then .ok { o with admin := true }
      else if s = "false" then .ok { o with admin := false }
      else .error (.unknown s)
    | .environment, .text s =>
      match Environment.ofName? s with
      | some e => .ok { o with environment := some e }
      | none => .error (.unknown s)
    | _, .truth _ => .error (.kind "bool")
    | _, .other kind => .error (.kind kind)

/-- Options that are being read: what is wrong, and which arguments were seen. -/
structure ArgumentDraft where
  errors : List ArgumentError := []
  seen : List ArgumentName := []
  options : Options := {}

namespace ArgumentDraft

def fail (d : ArgumentDraft) (e : ArgumentError) : ArgumentDraft :=
  { d with errors := d.errors ++ [e] }

def add (d : ArgumentDraft) : Item → ArgumentDraft
  | .literal => d.fail .literal
  | .named text form =>
    match ArgumentName.all.find? (·.text == text) with
    | none => d.fail (.unknown text)
    | some name =>
      if d.seen.contains name then d.fail (.duplicate name)
      else
        let d := { d with seen := name :: d.seen }
        match setArgument d.options name form with
        | .ok options => { d with options }
        | .error e => d.fail (.value name e)

end ArgumentDraft

/-- The options that the arguments give. -/
def readArguments (ts : List Tree) : Except (List ArgumentError) Options :=
  match items (Tree.flat ts) with
  | .error f => .error [.unread f]
  | .ok list =>
    let d := list.foldl ArgumentDraft.add {}
    if d.errors.isEmpty then .ok d.options else .error d.errors

end EndpointRouting.Block
