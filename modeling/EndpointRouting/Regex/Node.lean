import EndpointRouting.Regex.Pattern

/-!
# Patterns with their flags applied

`Pattern.resolve` carries the flags through a pattern and leaves a tree whose leaves say by
themselves which characters and places they match.
-/

namespace EndpointRouting.Regex

/-- What one character of the text must satisfy. -/
inductive Test where
  | char (c : Char)
  | any
  | notNewline
  | notLineEnd
  | set (m : Mode) (s : CharSet)
  deriving DecidableEq, Repr

def Test.accepts : Test → Char → Bool
  | .char c, d => c == d
  | .any, _ => true
  | .notNewline, d => d != '\n'
  | .notLineEnd, d => d != '\n' && d != '\r'
  | .set m s, d => s.closed m d

/-- A place between two characters. -/
inductive Place where
  | textStart
  | textEnd
  | lineStart
  | lineEnd
  | anyLineStart
  | anyLineEnd
  | boundary (unicode : Bool)
  | notBoundary (unicode : Bool)
  | wordStart (unicode : Bool)
  | wordEnd (unicode : Bool)
  | wordStartHalf (unicode : Bool)
  | wordEndHalf (unicode : Bool)
  deriving DecidableEq, Repr

/-- A pattern that no flag changes any more. -/
inductive Node where
  | empty
  | one (t : Test)
  | place (p : Place)
  | capture (index : Nat) (body : Node)
  | seq (first second : Node)
  | alt (first second : Node)
  | repeat (body : Node) (count : Count) (greedy : Bool)
  deriving DecidableEq, Repr

/-- The flags in force at one place of a pattern. -/
structure Flags where
  fold : Bool := false
  multiLine : Bool := false
  dotAll : Bool := false
  swapGreed : Bool := false
  carriageReturn : Bool := false
  unicode : Bool := true
  deriving DecidableEq, Repr

def Flags.set (f : Flags) : Flag × Bool → Flags
  | (.caseInsensitive, v) => { f with fold := v }
  | (.multiLine, v) => { f with multiLine := v }
  | (.dotAll, v) => { f with dotAll := v }
  | (.swapGreed, v) => { f with swapGreed := v }
  | (.carriageReturn, v) => { f with carriageReturn := v }
  | (.unicode, v) => { f with unicode := v }
  | (.verbose, _) => f

def Flags.apply (f : Flags) (s : Settings) : Flags := s.foldl Flags.set f

def Flags.mode (f : Flags) : Mode := ⟨f.fold, f.unicode⟩

def Flags.place (f : Flags) : Anchor → Place
  | .lineStart =>
    if !f.multiLine then .textStart else if f.carriageReturn then .anyLineStart else .lineStart
  | .lineEnd =>
    if !f.multiLine then .textEnd else if f.carriageReturn then .anyLineEnd else .lineEnd
  | .textStart => .textStart
  | .textEnd => .textEnd
  | .wordBoundary => .boundary f.unicode
  | .notWordBoundary => .notBoundary f.unicode
  | .wordStart => .wordStart f.unicode
  | .wordEnd => .wordEnd f.unicode
  | .wordStartHalf => .wordStartHalf f.unicode
  | .wordEndHalf => .wordEndHalf f.unicode

def Flags.literal (f : Flags) (c : Char) : Node :=
  .one (if f.fold then .set f.mode (.range c c) else .char c)

def Flags.dot (f : Flags) : Test :=
  if f.dotAll then .any else if f.carriageReturn then .notLineEnd else .notNewline

/-- The pattern under the flags, and the flags after it. -/
def Pattern.resolve : Pattern → Flags → Except PatternError (Node × Flags)
  | .empty, f => .ok (.empty, f)
  | .char c, f => .ok (f.literal c, f)
  | .byte c span, f =>
    if f.unicode || c.toNat < 0x80 then .ok (f.literal c, f)
    else .error ⟨.invalidEncoding, span, none⟩
  | .dot, f =>
    if f.unicode then .ok (.one f.dot, f) else .error (.on .invalidEncoding [] [])
  | .anchor a, f => .ok (.place (f.place a), f)
  | .set s span, f =>
    match s.fault? f.mode with
    | some (cause, part) => .error ⟨cause, part.getD span, none⟩
    | none => .ok (.one (.set f.mode s), f)
  | .settings s, f => .ok (.empty, f.apply s)
  | .capture index body, f => do
    let (node, _) ← body.resolve f
    .ok (.capture index node, f)
  | .group s body, f => do
    let (node, _) ← body.resolve (f.apply s)
    .ok (node, f)
  | .seq first second, f => do
    let (a, f) ← first.resolve f
    let (b, f) ← second.resolve f
    .ok (.seq a b, f)
  | .alt first second, f => do
    let (a, f) ← first.resolve f
    let (b, f) ← second.resolve f
    .ok (.alt a b, f)
  | .repeat body count greedy, f => do
    let (node, f') ← body.resolve f
    .ok (.repeat node count (greedy != f.swapGreed), f')

/-! ### The size of a compiled pattern -/

/-- The bytes that one state of a compiled pattern takes. -/
def stateSize : Nat := 32

def Test.size : Test → Nat
  | .char c => stateSize * c.utf8Size
  | .any | .notNewline | .notLineEnd => 14 * stateSize
  | .set _ s =>
    if s.isAscii then 2 * stateSize + 8 * s.weight else 12 * stateSize + 60 * s.weight

/-- The bytes that the pattern takes when it is compiled, each repetition written out. -/
def Node.size : Node → Nat
  | .empty => stateSize
  | .one t => t.size
  | .place _ => stateSize
  | .capture _ body => body.size + 2 * stateSize
  | .seq first second => first.size + second.size
  | .alt first second => first.size + second.size + 2 * stateSize
  | .repeat body count _ =>
    match count.most with
    | some most => body.size * most + 2 * stateSize * (most - count.least + 1)
    | none => body.size * max 1 count.least + 2 * stateSize

end EndpointRouting.Regex
