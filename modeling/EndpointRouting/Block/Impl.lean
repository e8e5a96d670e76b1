import EndpointRouting.Grammar.Signature
import EndpointRouting.Http.Verb

/-!
# Implementation blocks

An implementation block with its attributes, its members and their attributes, each as it is
printed. Routing attributes can be told from the others, and be left out when the block is printed.
-/

namespace EndpointRouting.Block
open Grammar Http Token

/-- A method with a body. Its attributes include those that its body starts with. -/
structure Method where
  attributes : List Attribute
  name : Identifier
  takesSelf : Bool
  head : List Tree
  body : List Tree

inductive Member where
  | method (m : Method)
  | other (trees : List Tree)

structure Impl where
  attributes : List Attribute
  modifiers : List Tree
  parameters : List Parameter
  /-- The tokens between the parameters and the type, where a trait is implemented. -/
  implements : Option (List Tree)
  type : List Tree
  /-- The last name of the type, if it has one. -/
  typeName : Option Identifier
  bounds : List Tree
  members : List Member

/-! ### Writing -/

def outerTrees (as : List Attribute) : List Tree := (as.filter (!·.inner)).flatMap (·.trees)

def innerTrees (as : List Attribute) : List Tree := (as.filter (·.inner)).flatMap (·.trees)

def Method.trees (m : Method) : List Tree :=
  outerTrees m.attributes ++ m.head ++ [.group .brace (innerTrees m.attributes ++ m.body)]

def Member.trees : Member → List Tree
  | method m => m.trees
  | other trees => trees

def Impl.trees (b : Impl) : List Tree :=
  outerTrees b.attributes ++ b.modifiers ++ [.ident ⟨"impl", false⟩] ++
    declareParameters b.parameters ++ b.implements.getD [] ++ b.type ++ b.bounds ++
    [.group .brace (innerTrees b.attributes ++ b.members.flatMap (·.trees))]

/-! ### Members -/

/-- Takes a method up to its end; `c` stands before its modifiers. One without a body is no
method of the block. -/
def method (g : Recognisers) (outer : List Attribute) (c : Cursor) :
    Option (Option Method × Cursor) := do
  let (s, c) ← signature g c
  match c.mark ";" with
  | some c => some (none, c)
  | none =>
    let (content, rest) ← group .brace c.ahead
    let (inner, inside) ← innerAttributes g (.start content)
    let body ← g.statements inside.rest
    let m : Method :=
      { attributes := outer ++ inner, name := s.name, takesSelf := s.takesSelf
        head := c.printed, body }
    some (some m, c.drop rest)

/-- Takes a member of a block. What is no method is printed as it is written where it is more than
the language allows. -/
def member (g : Recognisers) (ts : List Tree) : Option (Member × Cursor) := do
  let (outer, attributed) ← outerAttributes g (.start ts)
  let start := Cursor.start attributed.rest
  let shown ← visibility start
  let isDefault := startsWord "default" shown.ahead && !startsMark "!" shown.beyond
  let c := if isDefault then shown.next else shown
  let other (raw : Bool) (d : Cursor) : Member × Cursor :=
    let c := attributed.follow d
    (.other (if raw then c.source else c.printed), c)
  if startsFunction c then
    match ← method g outer c with
    | (some m, d) => some (.method m, attributed.follow d)
    | (none, d) => some (other true d)
  else if startsWord "const" c.ahead then
    (constant g true c.next).map fun (raw, d) => other raw d
  else if startsWord "type" c.ahead then
    (typeDefinition g ⟨false, true⟩ c.next).map fun (t, d) => other (t.bounded || !t.defined) d
  else if startsItemMacro c && !startsWord "pub" start.ahead && !isDefault then
    (itemMacro false c).map (other false)
  else none

/-- All tokens are members. -/
def membersFrom (g : Recognisers) : Nat → List Tree → Option (List Member)
  | 0, _ => none
  | _ + 1, [] => some []
  | fuel + 1, ts => do
    let (m, c) ← member g ts
    return m :: (← membersFrom g fuel c.rest)

/-! ### Blocks -/

/-- Generic parameters start here, and not a qualified path. -/
def startsParameters (c : Cursor) : Bool :=
  let second := c.beyond
  let third := c.next.beyond
  startsMark "<" c.ahead && (startsAnyMark [">", "#"] second || startsWord "const" second ||
    ((startsLifetime second || startsName second) &&
      (startsAnyMark [">", ",", "="] third || (startsMark ":" third && !startsMark "::" third))))

/-- Takes the generic parameters of a block, if there are any. -/
def blockParameters (g : Recognisers) (c : Cursor) : Option (List Parameter × Cursor) :=
  if startsParameters c then Grammar.parameters g c else some ([], c)

/-- What comes between the parameters and the where clause. -/
structure Target where
  implements : Option (List Tree)
  type : List Tree
  typeName : Option Identifier

/-- Takes the type of a block, and the trait that is implemented if there is one. -/
def target (g : Recognisers) (ts : List Tree) : Option (Target × Cursor) := do
  let c := Cursor.start ts
  let negative := startsMark "!" c.ahead && !startsGroup .brace c.beyond
  let (form, d) ← g.typeForm true (if negative then c.next else c)
  match d.word "for" with
  | none =>
    if negative then some (⟨none, d.source, none⟩, d) else some (⟨none, d.printed, form.last?⟩, d)
  | some d =>
    if !form.isPath then none
    else
      let (form, t) ← g.typeForm true (.start d.rest)
      some (⟨some d.printed, t.printed, form.last?⟩, d.follow t)

/-- Takes an implementation block. -/
def Impl.take (g : Recognisers) (ts : List Tree) : Option (Impl × Cursor) := do
  let (outer, attributed) ← outerAttributes g (.start ts)
  let modified := ((Cursor.start attributed.rest).skipWord "default").skipWord "unsafe"
  let opened ← modified.word "impl"
  let (ps, declared) ← blockParameters g (.start opened.rest)
  let (target, aimed) ← target g declared.rest
  let bounds ← whereClause g (.start aimed.rest)
  let (content, rest) ← group .brace bounds.ahead
  let (inner, inside) ← innerAttributes g (.start content)
  let members ← membersFrom g (inside.size + 1) inside.rest
  let b : Impl :=
    { attributes := outer ++ inner
      modifiers := modified.printed
      parameters := ps
      implements := target.implements
      type := target.type
      typeName := target.typeName
      bounds := bounds.printed
      members }
  let c := attributed.follow (opened.follow (declared.follow (aimed.follow (bounds.drop rest))))
  return (b, ⟨c.source, b.trees, c.rest⟩)

/-- The implementation block that the tokens are. -/
def Impl.readOver (g : Recognisers) (ts : List Tree) : Option Impl :=
  match Impl.take g ts with
  | some (b, ⟨_, _, []⟩) => some b
  | _ => none

/-! ### Routing attributes -/

/-- The verb that an attribute declares a route for. -/
def verbOf (a : Attribute) : Option RouteVerb :=
  a.name?.bind fun i => RouteVerb.ofAttribute? i.spelling

def isLoggedUser (a : Attribute) : Bool := a.isNamed "logged_user"

def isRouting (a : Attribute) : Bool := (verbOf a).isSome || isLoggedUser a

def Method.strip (m : Method) : Method :=
  { m with attributes := m.attributes.filter (!isRouting ·) }

def Member.strip : Member → Member
  | method m => .method m.strip
  | other trees => .other trees

/-- The block without the routing attributes of itself and of its methods. -/
def Impl.strip (b : Impl) : Impl :=
  { b with
    attributes := b.attributes.filter (!isRouting ·)
    members := b.members.map (·.strip) }

end EndpointRouting.Block
