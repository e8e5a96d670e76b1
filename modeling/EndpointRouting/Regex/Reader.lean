import EndpointRouting.Regex.Pattern

/-!
# Reading a pattern

`Pattern.read` turns the text of a pattern into its tree, or says what is wrong with it first.
The reader keeps the parts of the innermost open group and a stack of what is open around it,
so each character is looked at once.
-/

namespace EndpointRouting.Regex
open Text

/-! ### Blanks and comments -/

/-- Drops blanks and comments; `inComment` says whether the text starts within one. -/
def dropComments : Bool → List Char → List Char
  | _, [] => []
  | true, c :: rest => dropComments (c != '\n') rest
  | false, c :: rest =>
    if isBlankChar c then dropComments false rest
    else if c == '#' then dropComments true rest
    else c :: rest

/-- In a verbose pattern blanks and comments stand for nothing. -/
def skip (verbose : Bool) (cs : List Char) : List Char :=
  if verbose then dropComments false cs else cs

/-- The characters at the start that satisfy `p`, blanks and comments between them dropped in a
verbose pattern. -/
def takeLike (p : Char → Bool) (verbose : Bool) : Nat → List Char → List Char × List Char
  | 0, cs => ([], cs)
  | fuel + 1, cs =>
    match cs with
    | [] => ([], [])
    | c :: rest =>
      if p c then
        let (taken, rest) := takeLike p verbose fuel (skip verbose rest)
        (c :: taken, rest)
      else ([], c :: rest)

/-! ### Escapes -/

/-- What one escape or one plain character stands for. -/
inductive Primitive where
  | char (c : Char)
  | byte (c : Char)
  | dot
  | anchor (a : Anchor)
  | shorthand (kind : Shorthand) (negated : Bool)
  | property (name : PropertyName) (negated : Bool)
  deriving Repr

def isMeta (c : Char) : Bool :=
  ['\\', '.', '+', '*', '?', '(', ')', '|', '[', ']', '\x7b', '\x7d', '^', '$', '#', '&', '-',
    '~'].contains c

/-- Characters that an escape leaves as they are. -/
def isEscapable (c : Char) : Bool :=
  isMeta c || (c.toNat < 0x80 && !c.isAlphanum && c != '<' && c != '>')

def hexValue (c : Char) : Nat :=
  if c.isDigit then c.toNat - 48 else c.toLower.toNat - 87

def hexNumber (ds : List Char) : Nat := ds.foldl (fun n d => n * 16 + hexValue d) 0

/-- `count` hexadecimal digits. -/
def readHexDigits (verbose : Bool) : Nat → List Char → Except PatternError (List Char × List Char)
  | 0, cs => .ok ([], cs)
  | _ + 1, [] => .error (.on .escapeEnd [] [])
  | count + 1, d :: rest =>
    if isHexDigit d then do
      let (ds, rest) ← readHexDigits verbose count (skip verbose rest)
      .ok (d :: ds, rest)
    else .error (.on .hexDigit (d :: rest) rest)

/-- The characters up to a closing brace, blanks and comments dropped; `none` at the end of the
text. -/
def takeBraced (verbose : Bool) : Nat → List Char → Option (List Char × List Char)
  | 0, _ => none
  | fuel + 1, cs =>
    match skip verbose cs with
    | [] => none
    | '\x7d' :: rest => some ([], '\x7d' :: rest)
    | c :: rest => (takeBraced verbose fuel rest).map fun (taken, rest) => (c :: taken, rest)

/-- The text from the first character that is no hexadecimal digit on, within braces. -/
def badHexDigit (verbose : Bool) : Nat → List Char → Option (List Char)
  | 0, _ => none
  | fuel + 1, cs =>
    match skip verbose cs with
    | [] => none
    | c :: rest =>
      if c == '\x7d' then none
      else if isHexDigit c then badHexDigit verbose fuel rest
      else some (c :: rest)

def readScalar (start stop digits : List Char) : Except PatternError Char :=
  if (hexNumber digits).isValidChar then .ok (Char.ofNat (hexNumber digits))
  else .error (.on .hexNotScalar start stop)

/-- A code point in hexadecimal; `kind` is the letter after the backslash. -/
def readHex (verbose : Bool) (kind : Char) (rest : List Char) :
    Except PatternError (Primitive × List Char) :=
  match skip verbose rest with
  | [] => .error (.on .escapeEnd [] [])
  | '\x7b' :: inner =>
    match badHexDigit verbose (inner.length + 1) inner with
    | some bad => .error (.on .hexDigit bad (bad.drop 1))
    | none =>
      match takeBraced verbose (inner.length + 1) inner with
      | none => .error (.on .escapeEnd ('\x7b' :: inner) [])
      | some (digits, close) =>
        let rest := skip verbose (close.drop 1)
        if digits.isEmpty then .error (.on .hexEmpty ('\x7b' :: inner) rest)
        else do
          let c ← readScalar inner close digits
          .ok (.char c, rest)
  | start => do
    let (digits, stop) ←
      readHexDigits verbose (if kind == 'x' then 2 else if kind == 'u' then 4 else 8) start
    let c ← readScalar start stop digits
    .ok (if kind == 'x' then .byte c else .char c, stop)

/-- The name of a property, after the letter that starts its escape. -/
def readProperty (verbose negated : Bool) (rest : List Char) :
    Except PatternError (Primitive × List Char) :=
  match skip verbose rest with
  | [] => .error (.on .escapeEnd [] [])
  | '\x7b' :: inner =>
    match takeBraced verbose (inner.length + 1) inner with
    | none => .error (.on .escapeEnd [] [])
    | some (name, close) =>
      let read := PropertyName.read name
      .ok (.property read.1 (negated != read.2), close.drop 1)
  | c :: after =>
    if c == '\\' then .error (.on .propertyName (c :: after) after)
    else .ok (.property (.plain [c]) negated, skip verbose after)

/-- The kinds of word boundary that are named in braces. -/
def Anchor.ofName? (name : List Char) : Option Anchor :=
  match String.ofList name with
  | "start" => some .wordStart
  | "end" => some .wordEnd
  | "start-half" => some .wordStartHalf
  | "end-half" => some .wordEndHalf
  | _ => none

def isBoundaryChar (c : Char) : Bool := c.isAlpha || c == '-'

/-- What follows a plain word boundary: a name in braces makes it another anchor. -/
def readBoundary (verbose : Bool) (escape rest : List Char) :
    Except PatternError (Anchor × List Char) :=
  match rest with
  | '\x7b' :: inner =>
    match skip verbose inner with
    | [] => .error (.on .boundaryEnd escape [])
    | name@(c :: _) =>
      if isBoundaryChar c then
        match takeLike isBoundaryChar verbose name.length name with
        | (taken, '\x7d' :: after) =>
          match Anchor.ofName? taken with
          | some a => .ok (a, after)
          | none => .error (.on .boundaryUnknown name ('\x7d' :: after))
        | (_, stop) => .error (.on .boundaryUnclosed rest stop)
      else .ok (.wordBoundary, rest)
  | _ => .ok (.wordBoundary, rest)

/-- The escape whose backslash is the first character of `escape`, and `after` the rest. -/
def readEscape (verbose : Bool) (escape after : List Char) :
    Except PatternError (Primitive × List Char) :=
  match after with
  | [] => .error (.on .escapeEnd escape [])
  | c :: rest =>
    if c.isDigit then .error (.on .backreference escape rest)
    else if isEscapable c then .ok (.char c, rest)
    else match c with
      | 'x' | 'u' | 'U' => readHex verbose c rest
      | 'p' => readProperty verbose false rest
      | 'P' => readProperty verbose true rest
      | 'd' => .ok (.shorthand .digit false, rest)
      | 'D' => .ok (.shorthand .digit true, rest)
      | 's' => .ok (.shorthand .space false, rest)
      | 'S' => .ok (.shorthand .space true, rest)
      | 'w' => .ok (.shorthand .word false, rest)
      | 'W' => .ok (.shorthand .word true, rest)
      | 'a' => .ok (.char (Char.ofNat 7), rest)
      | 'f' => .ok (.char (Char.ofNat 12), rest)
      | 't' => .ok (.char '\t', rest)
      | 'n' => .ok (.char '\n', rest)
      | 'r' => .ok (.char '\r', rest)
      | 'v' => .ok (.char (Char.ofNat 11), rest)
      | 'A' => .ok (.anchor .textStart, rest)
      | 'z' => .ok (.anchor .textEnd, rest)
      | 'B' => .ok (.anchor .notWordBoundary, rest)
      | '<' => .ok (.anchor .wordStart, rest)
      | '>' => .ok (.anchor .wordEnd, rest)
      | 'b' => (readBoundary verbose escape rest).map fun (a, rest) => (.anchor a, rest)
      | _ => .error (.on .escapeUnknown escape rest)

/-- One character or escape outside brackets. -/
def readPrimitive (verbose : Bool) (c : Char) (rest : List Char) :
    Except PatternError (Primitive × List Char) :=
  match c with
  | '\\' => readEscape verbose (c :: rest) rest
  | '.' => .ok (.dot, rest)
  | '^' => .ok (.anchor .lineStart, rest)
  | '$' => .ok (.anchor .lineEnd, rest)
  | _ => .ok (.char c, rest)

def Primitive.toPattern (span : Span) : Primitive → Pattern
  | .char c => .char c
  | .byte c => .byte c span
  | .dot => .dot
  | .anchor a => .anchor a
  | .shorthand kind negated => .set (.shorthand kind negated) span
  | .property name negated => .set (.bracket negated (.property name span)) span

/-! ### Bracketed sets -/

/-- The operators between parts of a bracketed set. -/
inductive SetOp where
  | inter | diff | symm
  deriving DecidableEq, Repr

def SetOp.apply : SetOp → CharSet → CharSet → CharSet
  | .inter, left, right => .inter left right
  | .diff, left, right => .diff left right
  | .symm, left, right => .symm left right

/-- What is open around the part of a set that is being read. -/
inductive SetFrame where
  | bracket (outer : CharSet) (negated : Bool) (span : Span)
  | operand (op : SetOp) (left : CharSet)
  deriving Repr

def CharSet.add : CharSet → CharSet → CharSet
  | .nothing, item => item
  | items, item => .union items item

/-- Applies the operator that waits for `right`, if there is one. -/
def applyPending (frames : List SetFrame) (right : CharSet) : CharSet × List SetFrame :=
  match frames with
  | .operand op left :: rest => (op.apply left right, rest)
  | _ => (right, frames)

def unclosedSet (frames : List SetFrame) : PatternError :=
  match frames.findSome? fun | .bracket _ _ span => some span | .operand .. => none with
  | some span => ⟨.classUnclosed, span, none⟩
  | none => .on .classUnclosed [] []

/-- Hyphens at the start of a set stand for themselves. -/
def readHyphens (verbose : Bool) : Nat → CharSet → List Char → CharSet × List Char
  | 0, items, cs => (items, cs)
  | fuel + 1, items, cs =>
    match cs with
    | '-' :: rest => readHyphens verbose fuel (items.add (.range '-' '-')) (skip verbose rest)
    | _ => (items, cs)

/-- Whether a set is negated, and the text after that. -/
def readNegation (verbose : Bool) (cs : List Char) : Bool × List Char :=
  match cs with
  | '^' :: rest => (true, skip verbose rest)
  | _ => (false, cs)

/-- The items that only the start of a set can have: hyphens, or a bracket that does not close. -/
def openItems (verbose : Bool) (start inner : List Char) :
    Except PatternError (CharSet × List Char) :=
  match readHyphens verbose inner.length .nothing inner with
  | (_, []) => .error (.on .classUnclosed start start)
  | (.nothing, ']' :: after) =>
    match skip verbose after with
    | [] => .error (.on .classUnclosed start [])
    | left => .ok (.range ']' ']', left)
  | (items, left) => .ok (items, left)

/-- An opening bracket with all that may only follow it directly. -/
def openSet (verbose : Bool) (start rest : List Char) :
    Except PatternError ((Bool × CharSet × Span) × List Char) := do
  let (negated, inner) := readNegation verbose (skip verbose rest)
  if inner.isEmpty then .error (.on .classUnclosed start [])
  else do
    let (items, left) ← openItems verbose start inner
    .ok ((negated, items, .between start left), left)

/-- The name of an ASCII class, with the colon and the bracket that end it. -/
def readClassName (negated : Bool) (cs : List Char) : Option (CharSet × List Char) :=
  match cs.dropWhile (· != ':') with
  | ':' :: ']' :: after =>
    (AsciiClass.ofName? (cs.takeWhile (· != ':'))).map fun kind =>
      (if negated then .bracket true (.ascii kind) else .ascii kind, after)
  | _ => none

/-- A named ASCII class, after its opening bracket; `none` when there is none. -/
def readAsciiClass? : List Char → Option (CharSet × List Char)
  | ':' :: '^' :: rest => readClassName true rest
  | ':' :: rest => readClassName false rest
  | _ => none

/-- One end of a range, or an item by itself, with the text it starts at. -/
def readSetItem (verbose : Bool) (c : Char) (rest : List Char) :
    Except PatternError (Primitive × List Char) :=
  if c == '\\' then readEscape verbose (c :: rest) rest else .ok (.char c, rest)

def Primitive.toSet (start stop : List Char) : Primitive → Except PatternError CharSet
  | .char c | .byte c => .ok (.range c c)
  | .shorthand kind negated => .ok (.shorthand kind negated)
  | .property name negated => .ok (.bracket negated (.property name (.between start stop)))
  | .dot | .anchor _ => .error (.on .classEscape start stop)

def Primitive.toBound (start stop : List Char) : Primitive → Except PatternError Char
  | .char c | .byte c => .ok c
  | _ => .error (.on .classRangeBoundary start stop)

/-- An item or a range of a set. -/
def readSetRange (verbose : Bool) (frames : List SetFrame) (c : Char) (rest : List Char) :
    Except PatternError (CharSet × List Char) := do
  let start := c :: rest
  let (first, stop) ← readSetItem verbose c rest
  match skip verbose stop with
  | [] => .error (unclosedSet frames)
  | '-' :: after =>
    match skip verbose after with
    | ']' :: _ | '-' :: _ => do .ok (← first.toSet start stop, skip verbose stop)
    | [] => .error (unclosedSet frames)
    | d :: rest' => do
      let (last, stop') ← readSetItem verbose d rest'
      let lo ← first.toBound start stop
      let hi ← last.toBound (d :: rest') stop'
      if lo ≤ hi then .ok (.range lo hi, stop') else .error (.on .classRangeOrder start stop')
  | left => do .ok (← first.toSet start stop, left)

/-- The rest of a bracketed set. Each step consumes a character, so `fuel` is the length of the
text. -/
def readSetLoop (verbose : Bool) :
    Nat → CharSet → List SetFrame → List Char → Except PatternError (CharSet × List Char)
  | 0, _, frames, _ => .error (unclosedSet frames)
  | fuel + 1, items, frames, cs =>
    let operator (op : SetOp) (rest : List Char) :=
      let (left, frames) := applyPending frames items
      readSetLoop verbose fuel .nothing (.operand op left :: frames) rest
    match skip verbose cs with
    | [] => .error (unclosedSet frames)
    | '[' :: rest =>
      match readAsciiClass? rest with
      | some (named, rest) => readSetLoop verbose fuel (items.add named) frames rest
      | none => do
        let ((negated, inner, span), rest) ← openSet verbose ('[' :: rest) rest
        readSetLoop verbose fuel inner (.bracket items negated span :: frames) rest
    | ']' :: rest =>
      match applyPending frames items with
      | (body, .bracket outer negated _ :: frames) =>
        if frames.isEmpty then .ok (.bracket negated body, rest)
        else readSetLoop verbose fuel (outer.add (.bracket negated body)) frames rest
      | _ => .error (unclosedSet frames)
    | '&' :: '&' :: rest => operator .inter rest
    | '-' :: '-' :: rest => operator .diff rest
    | '~' :: '~' :: rest => operator .symm rest
    | c :: rest => do
      let (item, rest) ← readSetRange verbose frames c rest
      readSetLoop verbose fuel (items.add item) frames rest

/-- A bracketed set; `start` begins with its opening bracket. -/
def readSet (verbose : Bool) (start rest : List Char) :
    Except PatternError (CharSet × List Char) := do
  let ((negated, items, span), left) ← openSet verbose start rest
  readSetLoop verbose (left.length + 1) items [.bracket .nothing negated span] left

/-! ### Counts -/

/-- Drops blanks, and comments between them in a verbose pattern. -/
def dropBlanks (verbose : Bool) : Nat → List Char → List Char
  | 0, cs => cs
  | fuel + 1, cs =>
    match cs with
    | [] => []
    | c :: rest => if isBlankChar c then dropBlanks verbose fuel (skip verbose rest) else c :: rest

def decimalNumber (ds : List Char) : Nat := ds.foldl (fun n d => n * 10 + (d.toNat - 48)) 0

/-- A number between blanks. The error is returned beside the rest, because the reader of a count
looks at what follows first. -/
def readDecimal (verbose : Bool) (cs : List Char) : Except PatternError Nat × List Char :=
  let start := cs.dropWhile isBlankChar
  let (ds, stop) := takeLike Char.isDigit verbose start.length start
  let rest := dropBlanks verbose stop.length stop
  if ds.isEmpty then (.error (.on .countDecimal start stop), rest)
  else if decimalNumber ds < Nat.pow 2 32 then (.ok (decimalNumber ds), rest)
  else (.error (.on .decimalTooLarge start stop), rest)

/-- A repetition is lazy when a question mark follows it. -/
def readLazy (cs : List Char) : Bool × List Char :=
  match cs with
  | '?' :: rest => (false, rest)
  | _ => (true, cs)

/-- The bounds of a count, up to the closing brace, which they leave. -/
def readBounds (verbose : Bool) (start rest : List Char) :
    Except PatternError (Count × List Char) :=
  let unclosed : PatternError := .on .countUnclosed start []
  match skip verbose rest with
  | [] => .error unclosed
  | inner =>
    let (least, rest) := readDecimal verbose inner
    match rest with
    | [] => .error unclosed
    | ',' :: after =>
      match skip verbose after with
      | [] => .error unclosed
      | '\x7d' :: close => do .ok (⟨← least, none⟩, '\x7d' :: close)
      | after => do
        let least ← least
        let (most, rest) := readDecimal verbose after
        .ok (⟨least, some (← most)⟩, rest)
    | rest => do
      let n ← least
      .ok (⟨n, some n⟩, rest)

/-- A count in braces; `start` begins with the opening brace. -/
def readCount (verbose : Bool) (start rest : List Char) :
    Except PatternError ((Count × Bool) × List Char) := do
  let (count, stop) ← readBounds verbose start rest
  match stop with
  | '\x7d' :: after =>
    let (greedy, rest) := readLazy (skip verbose after)
    if count.most.any (· < count.least) then .error (.on .countOrder start rest)
    else .ok ((count, greedy), rest)
  | _ => .error (.on .countUnclosed start stop)

/-! ### Groups -/

/-- The name of a group, up to the closing angle bracket, which it leaves. -/
def readName (first : Bool) : List Char → Except PatternError (List Char × List Char)
  | [] => .error (.on .nameEnd [] [])
  | c :: rest =>
    if c == '>' then .ok ([], c :: rest)
    else if c == '_' || isAlphabetic c ||
        (!first && (c == '.' || c == '[' || c == ']' || isAlphanumeric c)) then do
      let (name, rest) ← readName false rest
      .ok (c :: name, rest)
    else .error (.on .nameCharacter (c :: rest) rest)

/-- A flag or a negation that was read, by its span. -/
abbrev FlagItem := Option Flag × Span

/-- The flags up to a colon or a closing parenthesis, which it leaves. Items are newest first. -/
def readFlags : List FlagItem → List Char → Except PatternError (List FlagItem × List Char)
  | _, [] => .error (.on .flagEnd [] [])
  | items, c :: rest =>
    if c == ':' || c == ')' then
      match items with
      | (none, span) :: _ => .error ⟨.flagDanglingNegation, span, none⟩
      | _ => .ok (items, c :: rest)
    else
      let span := Span.between (c :: rest) rest
      if c == '-' then
        match items.find? (·.1 == none) with
        | some (_, earlier) => .error ⟨.flagRepeatedNegation, span, some earlier⟩
        | none => readFlags ((none, span) :: items) rest
      else
        match Flag.ofChar? c with
        | none => .error ⟨.flagUnknown, span, none⟩
        | some f =>
          match items.find? (·.1 == some f) with
          | some (_, earlier) => .error ⟨.flagDuplicate, span, some earlier⟩
          | none => readFlags ((some f, span) :: items) rest

/-- The settings made by flags in order: those after a negation are switched off. -/
def settingsOf : Bool → List FlagItem → Settings
  | _, [] => []
  | _, (none, _) :: rest => settingsOf false rest
  | value, (some f, _) :: rest => (f, value) :: settingsOf value rest

/-- A group that is open. -/
inductive GroupKind where
  | capture (index : Nat)
  | plain (settings : Settings)
  deriving Repr

/-- What is open around the parts that are being read. Parts and branches are newest first. -/
inductive Frame where
  | group (parts : List Pattern) (kind : GroupKind) (verbose : Bool) (span : Span)
  | branches (alternatives : List Pattern)
  deriving Repr

/-- The name of a group, its index, and where it is written. -/
structure GroupName where
  name : List Char
  index : Nat
  span : Span
  deriving Repr

/-- The state of the reader. Parts, frames and names are newest first. -/
structure Reader where
  parts : List Pattern := []
  frames : List Frame := []
  names : List GroupName := []
  captures : Nat := 0
  verbose : Bool := false

namespace Reader

def push (r : Reader) (p : Pattern) : Reader := { r with parts := p :: r.parts }

/-- The parts read so far, as one pattern. -/
def row (r : Reader) : Pattern := .ofParts r.parts.reverse

def openGroup (r : Reader) (kind : GroupKind) (verbose : Bool) (span : Span) : Reader :=
  { r with parts := [], frames := .group r.parts kind r.verbose span :: r.frames, verbose }

/-- Opens a group that captures under the next index. -/
def openCapture (r : Reader) (span : Span) : Reader :=
  { r.openGroup (.capture (r.captures + 1)) r.verbose span with captures := r.captures + 1 }

/-- A named group, after its opening angle bracket. -/
def openNamed (r : Reader) (span : Span) (cs : List Char) :
    Except PatternError (Reader × List Char) := do
  match cs with
  | [] => .error (.on .nameEnd [] [])
  | _ =>
    let (name, close) ← readName true cs
    let after := close.drop 1
    if name.isEmpty then .error (.on .nameEmpty cs cs)
    else
      let here := Span.between cs close
      match r.names.find? (·.name == name) with
      | some earlier => .error ⟨.nameDuplicate, here, some earlier.span⟩
      | none =>
        let r := r.openCapture span
        .ok ({ r with names := ⟨name, r.captures, here⟩ :: r.names }, after)

/-- Flags, or a group with flags, after the question mark; `mark` starts at it. -/
def openFlags (r : Reader) (start mark cs : List Char) :
    Except PatternError (Reader × List Char) := do
  let span := Span.between start (start.drop 1)
  match cs with
  | [] => .error ⟨.groupUnclosed, span, none⟩
  | _ =>
    let (items, close) ← readFlags [] cs
    let after := close.drop 1
    let settings := settingsOf true items.reverse
    let verbose := (settings.value? .verbose).getD r.verbose
    if close.head? == some ')' then
      if items.isEmpty then .error (.on .repetitionOfNothing mark mark)
      else .ok ({ r.push (.settings settings) with verbose }, after)
    else .ok (r.openGroup (.plain settings) verbose span, after)

/-- An opening parenthesis and what belongs to it; `start` begins with it. -/
def openParenthesis (r : Reader) (start rest : List Char) :
    Except PatternError (Reader × List Char) :=
  let span := Span.between start rest
  let inner := skip r.verbose rest
  match inner with
  | '?' :: '=' :: after | '?' :: '!' :: after => .error (.on .lookAround start after)
  | '?' :: '<' :: '=' :: after | '?' :: '<' :: '!' :: after => .error (.on .lookAround start after)
  | '?' :: 'P' :: '<' :: after => r.openNamed span after
  | '?' :: '<' :: after => r.openNamed span after
  | '?' :: after => r.openFlags start inner after
  | _ => .ok (r.openCapture span, inner)

def close (r : Reader) (kind : GroupKind) (outer : List Pattern) (frames : List Frame)
    (verbose : Bool) (body : Pattern) : Reader :=
  let p := match kind with
    | .capture index => .capture index body
    | .plain settings => .group settings body
  { r with parts := p :: outer, frames, verbose }

/-- A closing parenthesis; `start` begins with it. -/
def closeParenthesis (r : Reader) (start rest : List Char) : Except PatternError Reader :=
  match r.frames with
  | .group outer kind verbose _ :: frames => .ok (r.close kind outer frames verbose r.row)
  | .branches alternatives :: .group outer kind verbose _ :: frames =>
    .ok (r.close kind outer frames verbose (.ofBranches (r.row :: alternatives).reverse))
  | _ => .error (.on .groupUnopened start rest)

/-- A bar ends a branch. -/
def bar (r : Reader) : Reader :=
  match r.frames with
  | .branches alternatives :: frames =>
    { r with parts := [], frames := .branches (r.row :: alternatives) :: frames }
  | frames => { r with parts := [], frames := .branches [r.row] :: frames }

/-- Repeats the last part. -/
def repeatLast (r : Reader) (start : List Char) (count : Count) (greedy : Bool) :
    Except PatternError Reader :=
  match r.parts with
  | p :: parts =>
    if p.repeatable then .ok { r with parts := .repeat p count greedy :: parts }
    else .error (.on .repetitionOfNothing start start)
  | [] => .error (.on .repetitionOfNothing start start)

/-- A repetition of the last part by a one-character operator. -/
def repeatBy (r : Reader) (start rest : List Char) (count : Count) :
    Except PatternError (Reader × List Char) := do
  let (greedy, rest) := readLazy rest
  .ok (← r.repeatLast start count greedy, rest)

/-- Reads what begins with `c`. -/
def step (r : Reader) (c : Char) (rest : List Char) : Except PatternError (Reader × List Char) :=
  let start := c :: rest
  match c with
  | '(' => r.openParenthesis start rest
  | ')' => do .ok (← r.closeParenthesis start rest, rest)
  | '|' => .ok (r.bar, rest)
  | '[' => do
    let (s, after) ← readSet r.verbose start rest
    .ok (r.push (.set s (.between start after)), after)
  | '?' => r.repeatBy start rest ⟨0, some 1⟩
  | '*' => r.repeatBy start rest ⟨0, none⟩
  | '+' => r.repeatBy start rest ⟨1, none⟩
  | '\x7b' => do
    let _ ← r.repeatLast start ⟨1, some 1⟩ true
    let ((count, greedy), after) ← readCount r.verbose start rest
    .ok (← r.repeatLast start count greedy, after)
  | _ => do
    let (p, after) ← readPrimitive r.verbose c rest
    .ok (r.push (p.toPattern (.between start after)), after)

/-- Reads to the end of the text. Each step consumes a character, so `fuel` is its length. -/
def run : Nat → Reader → List Char → Except PatternError Reader
  | 0, r, _ => .ok r
  | fuel + 1, r, cs =>
    match skip r.verbose cs with
    | [] => .ok r
    | c :: rest => do
      let (r, rest) ← r.step c rest
      run fuel r rest

/-- The whole pattern, once the text has ended. -/
def finish (r : Reader) : Except PatternError Pattern :=
  match r.frames with
  | [] => .ok r.row
  | [.branches alternatives] => .ok (.ofBranches (r.row :: alternatives).reverse)
  | .group _ _ _ span :: _ | .branches _ :: .group _ _ _ span :: _ =>
    .error ⟨.groupUnclosed, span, none⟩
  | .branches _ :: .branches _ :: _ => .error (.on .groupUnclosed [] [])

end Reader

/-- A pattern with the names of its groups, in order of their indices. -/
structure NamedPattern where
  pattern : Pattern
  names : List (List Char × Nat)
  deriving Repr

/-- The tree of a pattern. -/
def Pattern.read (cs : List Char) : Except PatternError NamedPattern := do
  let r ← Reader.run cs.length {} cs
  let pattern ← r.finish
  if pattern.depth ≤ nestLimit then
    .ok ⟨pattern, (r.names.map fun n => (n.name, n.index)).reverse⟩
  else .error (.on .nesting cs [])

end EndpointRouting.Regex
