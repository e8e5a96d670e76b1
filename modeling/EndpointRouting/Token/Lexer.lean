import EndpointRouting.Text.Basic
import EndpointRouting.Text.Graphic
import EndpointRouting.Token.Literal

/-!
# Token trees of a source text

Blank characters and comments separate tokens; a documentation comment stands for an attribute.
Every group has to be closed by its own delimiter.
-/

namespace EndpointRouting.Token
open Text

/-! ### Identifiers -/

/-- Names that have no raw form. -/
def neverRaw : List String := ["_", "super", "self", "Self", "crate"]

/-- The identifier that `cs` starts with, and the rest. -/
def readIdentifier : List Char → Option (Identifier × List Char)
  | 'r' :: '#' :: rest =>
    match readName rest with
    | some (name, rest) =>
      let text := String.ofList name
      if neverRaw.contains text then none else some (⟨text, true⟩, rest)
    | none => none
  | cs => (readName cs).map fun (name, rest) => (⟨String.ofList name, false⟩, rest)

/-- How literals start that could be taken for a name. -/
def literalStarts : List (List Char) :=
  ["r\"", "r#\"", "r##", "b\"", "b'", "br\"", "br#", "c\"", "cr\"", "cr#"].map String.toList

/-! ### Blanks and comments -/

/-- A blank character between tokens: White_Space, or a mark of the writing direction. -/
def separates (c : Char) : Bool := isBlankChar c || c.toNat == 0x200e || c.toNat == 0x200f

/-- What a line comment covers, and the rest. -/
def splitLine : List Char → List Char × List Char
  | [] => ([], [])
  | '\n' :: rest => ([], '\n' :: rest)
  | '\r' :: '\n' :: rest => ([], '\n' :: rest)
  | c :: rest => let (line, r) := splitLine rest; (c :: line, r)

/-- What a block comment covers, after its opening, and the rest; comments nest. -/
def splitBlock : Nat → List Char → Option (List Char × List Char)
  | depth, '/' :: '*' :: rest =>
    (splitBlock (depth + 1) rest).map fun (body, r) => ('/' :: '*' :: body, r)
  | 0, '*' :: '/' :: rest => some ([], rest)
  | depth + 1, '*' :: '/' :: rest =>
    (splitBlock depth rest).map fun (body, r) => ('*' :: '/' :: body, r)
  | depth, c :: rest => (splitBlock depth rest).map fun (body, r) => (c :: body, r)
  | _, [] => none

/-- What is left after the plain comment that `cs` starts with. -/
def skipComment : List Char → Option (List Char)
  | '/' :: '/' :: '!' :: _ => none
  | '/' :: '/' :: '/' :: '/' :: rest => some (splitLine rest).2
  | '/' :: '/' :: '/' :: _ => none
  | '/' :: '/' :: rest => some (splitLine rest).2
  | '/' :: '*' :: '!' :: _ => none
  | '/' :: '*' :: '*' :: '/' :: rest => some rest
  | '/' :: '*' :: '*' :: '*' :: rest => (splitBlock 0 ('*' :: '*' :: rest)).map (·.2)
  | '/' :: '*' :: '*' :: _ => none
  | '/' :: '*' :: rest => (splitBlock 0 rest).map (·.2)
  | _ => none

/-- A carriage return that ends no line. -/
def hasBareReturn : List Char → Bool
  | [] => false
  | '\r' :: '\n' :: rest => hasBareReturn rest
  | c :: rest => c == '\r' || hasBareReturn rest

/-- A documentation comment. -/
structure Doc where
  text : List Char
  inner : Bool

/-- The documentation comment that `cs` starts with, and the rest. -/
def readDoc (cs : List Char) : Option (Doc × List Char) :=
  let block (inner : Bool) (mark : Char) (rest : List Char) :=
    (splitBlock 0 (mark :: rest)).map fun (body, r) => (Doc.mk (body.drop 1) inner, r)
  let found : Option (Doc × List Char) := match cs with
    | '/' :: '/' :: '!' :: rest => let (line, r) := splitLine rest; some (⟨line, true⟩, r)
    | '/' :: '*' :: '!' :: rest => block true '!' rest
    | '/' :: '/' :: '/' :: '/' :: _ => none
    | '/' :: '/' :: '/' :: rest => let (line, r) := splitLine rest; some (⟨line, false⟩, r)
    | '/' :: '*' :: '*' :: '*' :: _ => none
    | '/' :: '*' :: '*' :: rest => block false '*' rest
    | _ => none
  found.filter fun (doc, _) => !hasBareReturn doc.text

/-- The attribute that a documentation comment stands for. -/
def Doc.trees (doc : Doc) : List Tree :=
  let text := String.ofList doc.text
  let content : List Tree :=
    [.ident ⟨"doc", false⟩, .punct '=' false, .literal ⟨.string text, stringLiteral text⟩]
  [.punct '#' false] ++ (if doc.inner then [.punct '!' false] else []) ++
    [.group .bracket content]

/-! ### Tokens -/

def punctuation : List Char := "~!@#$%^&*-=+|;:,<.>/?'".toList

/-- `cs` starts with punctuation, and not with a comment. -/
def startsPunct : List Char → Bool
  | '/' :: '/' :: _ | '/' :: '*' :: _ => false
  | c :: _ => punctuation.contains c
  | [] => false

/-- A quote mark before a name that no other quote mark follows. -/
def startsLifetime (rest : List Char) : Bool :=
  match readIdentifier rest with
  | some (i, '#' :: _) => i.raw
  | some (_, '\'' :: _) => false
  | some _ => true
  | none => false

/-- The punctuation character that `cs` starts with, and the rest. -/
def readPunct (cs : List Char) : Option (Tree × List Char) :=
  match cs with
  | c :: rest =>
    if !startsPunct cs then none
    else if c = '\'' then if startsLifetime rest then some (.punct c true, rest) else none
    else some (.punct c (startsPunct rest), rest)
  | [] => none

/-- The token that `cs` starts with, and the rest. -/
def readToken (cs : List Char) : Option (Tree × List Char) :=
  match readLiteral cs with
  | some (l, rest) => some (.literal l, rest)
  | none =>
    match readPunct cs with
    | some found => some found
    | none =>
      if literalStarts.any (·.isPrefixOf cs) then none
      else (readIdentifier cs).map fun (i, rest) => (.ident i, rest)

/-! ### Groups -/

/-- A group that is open: its delimiter, and what stands before it, latest first. -/
structure OpenGroup where
  delimiter : Delimiter
  before : List Tree

/-- What one step does with the front of the text. -/
inductive Step where
  | skip
  | emit (trees : List Tree)
  | openGroup (d : Delimiter)
  | closeGroup (d : Delimiter)

/-- The step that `cs` starts with, and the rest. -/
def readStep (cs : List Char) : Option (Step × List Char) :=
  match cs with
  | [] => none
  | c :: rest =>
    if separates c then some (.skip, rest)
    else match skipComment cs with
      | some rest => some (.skip, rest)
      | none =>
        match readDoc cs with
        | some (doc, rest) => some (.emit doc.trees, rest)
        | none =>
          match Delimiter.all.find? (·.opening? == some c), Delimiter.all.find? (·.closing? == some c) with
          | some d, _ => some (.openGroup d, rest)
          | none, some d => some (.closeGroup d, rest)
          | none, none => (readToken cs).map fun (t, rest) => (.emit [t], rest)

/-- The trees of `cs` after the trees `done`, latest first, inside the open groups. Every step
has to shorten the text. -/
def readTrees (done : List Tree) (groups : List OpenGroup) (cs : List Char) :
    Option (List Tree) :=
  if cs.isEmpty then if groups.isEmpty then some done.reverse else none
  else match readStep cs with
    | none => none
    | some (step, rest) =>
      if rest.length < cs.length then
        match step, groups with
        | .skip, _ => readTrees done groups rest
        | .emit trees, _ => readTrees (trees.reverse ++ done) groups rest
        | .openGroup d, _ => readTrees [] (⟨d, done⟩ :: groups) rest
        | .closeGroup d, g :: outer =>
          if g.delimiter = d then readTrees (.group d done.reverse :: g.before) outer rest
          else none
        | .closeGroup _, [] => none
      else none
  termination_by cs.length

/-- The token trees of a source text. A byte order mark at its start does not count. -/
def Tree.read (source : String) : Option (List Tree) :=
  let cs := source.toList
  readTrees [] [] (if cs.head? = some (Char.ofNat 0xfeff) then cs.tail else cs)

/-- The identifier that a text is. -/
def Identifier.read (source : String) : Option Identifier :=
  match Tree.read source with
  | some [.ident i] => some i
  | _ => none

end EndpointRouting.Token
