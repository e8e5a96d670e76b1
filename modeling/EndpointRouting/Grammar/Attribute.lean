import EndpointRouting.Grammar.Basic

/-!
# Attributes

An attribute has a path and may have a group or a value after it.
-/

namespace EndpointRouting.Grammar
open Token

/-- What follows the path of an attribute. -/
inductive AttributeForm where
  | bare
  | list (d : Delimiter) (content : List Tree)
  | value (trees : List Tree)

structure Attribute where
  inner : Bool
  path : List Tree
  form : AttributeForm

namespace Attribute

def formTrees : AttributeForm → List Tree
  | .bare => []
  | .list d content => [.group d content]
  | .value trees => .punct '=' false :: trees

/-- The tokens of an attribute. -/
def trees (a : Attribute) : List Tree :=
  [.punct '#' false] ++ (if a.inner then [.punct '!' false] else []) ++
    [.group .bracket (a.path ++ formTrees a.form)]

/-- The name of an attribute whose path is one identifier. -/
def name? (a : Attribute) : Option Identifier :=
  match a.path with
  | [.ident i] => some i
  | _ => none

def isNamed (a : Attribute) (name : String) : Bool := a.name?.any (·.spelling == name)

end Attribute

/-- Takes the names of a path without arguments, after its leading colons. -/
def plainSegments : Nat → Cursor → Option Cursor
  | 0, _ => none
  | fuel + 1, c => do
    let (i, c) ← c.anyWord
    if !isName i && !(["super", "self", "Self", "crate"].contains i.text) then none
    match c.mark "::" with
    | some c => plainSegments fuel c
    | none => some c

/-- Takes a path without arguments. -/
def plainPath (c : Cursor) : Option Cursor := plainSegments (c.size + 1) (c.skipMark "::")

/-- The value of an attribute, after the equality sign: one literal, or an expression that does
not start with an attribute. -/
def attributeValue (g : Recognisers) (c : Cursor) : Option Cursor :=
  match c.literal with
  | some ⟨source, printed, []⟩ => some ⟨source, printed, []⟩
  | _ =>
    if startsMark "#" c.ahead && startsGroup .bracket c.beyond then none else c.read (g.expr true)

/-- What follows the path of an attribute or of one of its items. A list is taken as it is. -/
def attributeForm (g : Recognisers) (c : Cursor) : Option (AttributeForm × Cursor) :=
  match c.ahead with
  | .group d content :: rest => some (.list d (Tree.flat content), c.upTo rest)
  | _ =>
    match c.mark "=" with
    | some c => (attributeValue g (.start c.rest)).map fun d => (.value d.printed, c.follow d)
    | none => some (.bare, c)

/-- The content of an attribute's brackets. -/
def attributeContent (g : Recognisers) (inner : Bool) (ts : List Tree) : Option Attribute := do
  let c := Cursor.start ts
  let path ← if startsWord "unsafe" c.ahead then some c.next else plainPath c
  match ← attributeForm g path with
  | (form, ⟨_, _, []⟩) => some ⟨inner, path.printed, form⟩
  | _ => none

/-- Takes the attributes in front of something. -/
def outerFrom (g : Recognisers) : Nat → Cursor → Option (List Attribute × Cursor)
  | 0, _ => none
  | fuel + 1, c =>
    match mark "#" c.ahead with
    | none => some ([], c)
    | some rest => do
      let c := c.drop rest
      let (content, rest) ← group .bracket c.ahead
      let a ← attributeContent g false content
      let (others, c) ← outerFrom g fuel ((c.drop rest).write a.trees)
      return (a :: others, c)

def outerAttributes (g : Recognisers) (c : Cursor) : Option (List Attribute × Cursor) :=
  outerFrom g (c.size + 1) c

/-- Takes the attributes in front of something and drops them. -/
def skipAttributes (g : Recognisers) (c : Cursor) : Option Cursor :=
  (outerAttributes g c).map (·.2)

/-- Takes the attributes that a block starts with. -/
def innerFrom (g : Recognisers) : Nat → Cursor → Option (List Attribute × Cursor)
  | 0, _ => none
  | fuel + 1, c =>
    match mark "#" c.ahead with
    | none => some ([], c)
    | some rest =>
      let opened := c.drop rest
      match mark "!" opened.ahead with
      | none => some ([], c)
      | some rest => do
        let c := opened.drop rest
        let (content, rest) ← group .bracket c.ahead
        let a ← attributeContent g true content
        let (others, c) ← innerFrom g fuel ((c.drop rest).write a.trees)
        return (a :: others, c)

def innerAttributes (g : Recognisers) (c : Cursor) : Option (List Attribute × Cursor) :=
  innerFrom g (c.size + 1) c

/-- The content of a block that attributes may start, as it is printed. -/
def blockContent (g : Recognisers) (ts : List Tree) : Option (List Tree) := do
  let (_, c) ← innerAttributes g (.start ts)
  (g.statements c.rest).map (c.printed ++ ·)

/-- Takes a block that attributes may start. -/
def attributedBlock (g : Recognisers) (c : Cursor) : Option Cursor :=
  c.within .brace (blockContent g)

end EndpointRouting.Grammar
