import EndpointRouting.Block.Impl

/-!
# Items inside blocks

Items are printed in one form, except those that no program may hold, which are printed as they
are written: each reader's flag says so.
-/

namespace EndpointRouting.Grammar
open Token

/-- Takes what a reader knows, and prints it as it is written if the reader says so. -/
def formed (f : Cursor → Option (Bool × Cursor)) (c : Cursor) : Option Cursor :=
  (f (.start c.rest)).map fun (raw, d) => c.resume d (if raw then d.source else d.printed)

/-! ### Fields -/

def namedField (g : Recognisers) (c : Cursor) : Option Cursor := do
  let c ← nameOrBlank (← visibility (← skipAttributes g c))
  g.plainType true (← c.mark ":")

def plainField (g : Recognisers) (c : Cursor) : Option Cursor := do
  g.plainType true (← visibility (← skipAttributes g c))

def namedFields (g : Recognisers) (c : Cursor) : Option Cursor :=
  c.within .brace (commaSeparated (namedField g))

def plainFields (g : Recognisers) (c : Cursor) : Option Cursor :=
  c.within .parenthesis (commaSeparated (plainField g))

/-! ### Types -/

/-- Takes a struct after its first word. -/
def structItem (g : Recognisers) (c : Cursor) : Option Cursor := do
  let c ← generics g (← c.name).2
  if startsGroup .parenthesis c.ahead then (← whereClause g (← plainFields g c)).mark ";"
  else
    let c ← whereClause g c
    if startsGroup .brace c.ahead then namedFields g c else c.mark ";"

/-- Takes the name of a variant. Its visibility is not printed. -/
def variantName (c : Cursor) : Option Cursor := do
  let seen ← visibility (.start c.rest)
  (c.resume seen []).name.map (·.2)

/-- Takes the fields of a variant, if there are any. -/
def variantFields (g : Recognisers) (c : Cursor) : Option Cursor :=
  if startsGroup .brace c.ahead then namedFields g c
  else if startsGroup .parenthesis c.ahead then plainFields g c
  else some c

def variant (g : Recognisers) (c : Cursor) : Option Cursor := do
  let c ← variantFields g (← variantName (← skipAttributes g c))
  afterMark "=" (·.read (g.expr true)) c

/-- Takes an enumeration after its first word. -/
def enumItem (g : Recognisers) (c : Cursor) : Option Cursor := do
  let c ← whereClause g (← generics g (← c.name).2)
  c.within .brace (commaSeparated (variant g))

/-- Takes a union after its first word. -/
def unionItem (g : Recognisers) (c : Cursor) : Option Cursor := do
  namedFields g (← whereClause g (← generics g (← c.name).2))

/-! ### Functions -/

/-- Takes what ends a function: a semicolon, or its block. The flag says that it is a block. -/
def functionEnd (g : Recognisers) (c : Cursor) : Option (Bool × Cursor) :=
  match c.mark ";" with
  | some c => some (false, c)
  | none => (attributedBlock g c).map (true, ·)

def functionItem (g : Recognisers) (c : Cursor) : Option (Bool × Cursor) := do
  (functionEnd g (← signature g c).2).map fun (body, c) => (!body, c)

/-! ### Traits -/

def traitMember (g : Recognisers) (c : Cursor) : Option (Bool × Cursor) := do
  let c ← skipAttributes g c
  let shown ← visibility c
  let d := shown.skipWord "default"
  let more := d.size < c.size
  if startsFunction d then
    (functionEnd g (← signature g d).2).map fun (_, c) => (more, c)
  else if startsWord "const" d.ahead then
    (constant g false d.next).map fun (raw, c) => (raw || more, c)
  else if startsWord "type" d.ahead then
    (typeDefinition g ⟨false, true⟩ d.next).map fun (_, c) => (more, c)
  else if startsItemMacro d && !more then (itemMacro false d).map (false, ·)
  else none

/-- All tokens are items after attributes, as they are printed. -/
def itemsFrom (item : Cursor → Option Cursor) : Nat → Cursor → Option Cursor
  | 0, _ => none
  | fuel + 1, c => if c.rest.isEmpty then some c else do itemsFrom item fuel (← item c)

/-- The content of a group of items that attributes may start, as it is printed. -/
def itemsContent (g : Recognisers) (item : Cursor → Option Cursor) (ts : List Tree) :
    Option (List Tree) := do
  let (_, c) ← innerAttributes g (.start ts)
  (← itemsFrom item (c.size + 1) c).finish

/-- Takes a trait, or another name for bounds, after the word. -/
def traitItem (g : Recognisers) (aliases : Bool) (c : Cursor) : Option Cursor := do
  let c ← generics g (← c.name).2
  let bounded (close : List Tree → Bool) (ts : List Tree) : Bool :=
    startsWord "where" ts || close ts
  if aliases && startsMark "=" c.ahead then
    let c ← chain (·.read g.bound) "+" (bounded (startsMark ";")) (c.skipMark "=")
    (← whereClause g c).mark ";"
  else
    let c ← colonBounds (·.read g.bound) (bounded (startsGroup .brace)) c
    (← whereClause g c).within .brace (itemsContent g (formed (traitMember g)))

/-! ### Modules, and what comes from elsewhere -/

/-- Takes a module after its first word. -/
def moduleItem (g : Recognisers) (c : Cursor) : Option Cursor := do
  let c ← if startsWord "try" c.ahead then some c.next else c.name.map (·.2)
  (c.mark ";").or (c.within .brace (itemsContent g (·.read g.item)))

/-- Takes a declaration of another language. -/
def foreignMember (g : Recognisers) (c : Cursor) : Option (Bool × Cursor) := do
  let c ← skipAttributes g c
  let shown ← visibility c
  let safe := startsWord "safe" shown.ahead &&
    startsAnyWord ["extern", "fn", "static"] shown.beyond
  let d := if safe then shown.next else shown
  let dangerous := startsWord "unsafe" d.ahead && startsWord "static" d.beyond
  let d := if dangerous then d.next else d
  if startsFunction d then
    (functionEnd g (← signature g d).2).map fun (body, c) => (safe || body, c)
  else if startsWord "static" d.ahead then
    let typed ← g.plainType true (← (← (d.next.skipWord "mut").name).2.mark ":")
    let c ← (← afterMark "=" (·.read (g.expr true)) typed).mark ";"
    return (safe || dangerous || startsMark "=" typed.ahead, c)
  else if startsWord "type" d.ahead then
    (typeDefinition g ⟨true, true⟩ d.next).map fun (t, c) => (t.bounded || t.defined, c)
  else if startsItemMacro d && !(shown.size < c.size) then (itemMacro false d).map (false, ·)
  else none

/-- Takes declarations of another language. -/
def foreignItem (g : Recognisers) (c : Cursor) : Option Cursor :=
  (abi c).within .brace (itemsContent g (formed (foreignMember g)))

/-- Takes another name, if there is one. -/
def renamed (c : Cursor) : Option Cursor :=
  match c.word "as" with
  | none => some c
  | some c => nameOrBlank c

/-- Takes the name of a crate and perhaps another one, after `extern crate`. -/
def crateItem (c : Cursor) : Option Cursor := do
  let c ← if startsWord "self" c.ahead then some c.next else c.name.map (·.2)
  (← renamed c).mark ";"

def useTree : Nat → Cursor → Option Cursor
  | 0, _ => none
  | fuel + 1, c =>
    if startsMark "*" c.ahead then some c.next
    else if startsGroup .brace c.ahead then
      c.within .brace (commaSeparated fun c => useTree fuel (c.skipMark "::"))
    else do
      let c ← if startsAnyWord ["self", "super", "crate", "try"] c.ahead then some c.next
        else c.name.map (·.2)
      match c.mark "::" with
      | some c => useTree fuel c
      | none => renamed c

/-- Takes names from elsewhere, after the first word. -/
def useItem (c : Cursor) : Option Cursor := do
  (← useTree (c.size + 1) (c.skipMark "::")).mark ";"

/-! ### All items -/

/-- Takes a static variable after its first word. -/
def staticItem (g : Recognisers) (c : Cursor) : Option (Bool × Cursor) := do
  let (_, c) ← (c.skipWord "mut").name
  let typed ← afterMark ":" (g.plainType true) c
  let d ← (← afterMark "=" (·.read (g.expr true)) typed).mark ";"
  return (!startsMark ":" c.ahead || !startsMark "=" typed.ahead, d)

/-- Takes the definition of a macro after its first word. -/
def macroItem (c : Cursor) : Option Cursor := do
  let (_, c) ← c.name
  let c := if startsGroup .parenthesis c.ahead then c.next else c
  if startsGroup .brace c.ahead then some c.next else none

/-- Takes an item that may be unsafe as a whole, after its visibility. -/
def unsafeItem (g : Recognisers) (shown : Bool) (c : Cursor) : Option Cursor := do
  let d := c.skipWord "unsafe"
  let bare := !(d.size < c.size)
  if startsWord "mod" d.ahead then moduleItem g d.next
  else if startsWord "trait" d.ahead then traitItem g bare d.next
  else if startsWord "auto" d.ahead && startsWord "trait" d.beyond then
    traitItem g false d.next.next
  else if startsWord "extern" d.ahead && !shown then foreignItem g d
  else if startsAnyWord ["impl", "default"] d.ahead && !startsMark "!" d.beyond && !shown then
    c.read fun ts => (Block.Impl.take g ts).map (·.2)
  else none

/-- Takes an item with its attributes. -/
def anyItem (g : Recognisers) (c : Cursor) : Option (Bool × Cursor) := do
  let c ← skipAttributes g c
  let d ← visibility c
  let shown := d.size < c.size
  let plain (c : Option Cursor) : Option (Bool × Cursor) := c.map (false, ·)
  let ts := d.ahead
  if startsFunction d then functionItem g d
  else if startsWord "extern" ts && startsWord "crate" d.beyond then plain (crateItem d.next.next)
  else if startsWord "use" ts then plain (useItem d.next)
  else if startsWord "static" ts then staticItem g d.next
  else if startsWord "const" ts then constant g true d.next
  else if startsWord "type" ts then
    (typeDefinition g ⟨true, false⟩ d.next).map fun (t, c) => (t.bounded || !t.defined, c)
  else if startsWord "struct" ts then plain (structItem g d.next)
  else if startsWord "enum" ts then plain (enumItem g d.next)
  else if startsWord "union" ts && startsName d.beyond then plain (unionItem g d.next)
  else if startsWord "macro" ts then (macroItem d.next).map (true, ·)
  else if startsAnyWord ["unsafe", "mod", "trait", "extern", "impl"] ts ||
      (startsWord "auto" ts && startsWord "trait" d.beyond) ||
      (startsWord "default" ts && !startsMark "!" d.beyond) then
    plain (unsafeItem g shown d)
  else if startsItemMacro d && !shown then plain (itemMacro true d)
  else none

/-- Takes an item with its attributes, in the form in which it is printed. -/
def item (g : Recognisers) (c : Cursor) : Option Cursor := formed (anyItem g) c

end EndpointRouting.Grammar
