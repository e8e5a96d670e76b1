import EndpointRouting.Regex.CharSet

/-!
# Patterns as trees

The tree of a pattern as it is written, before flags are applied.
-/

namespace EndpointRouting.Regex

/-- The settings that a pattern can switch. -/
inductive Flag where
  | caseInsensitive
  | multiLine
  | dotAll
  | swapGreed
  | unicode
  | carriageReturn
  | verbose
  deriving DecidableEq, Repr

def Flag.ofChar? : Char → Option Flag
  | 'i' => some .caseInsensitive
  | 'm' => some .multiLine
  | 's' => some .dotAll
  | 'U' => some .swapGreed
  | 'u' => some .unicode
  | 'R' => some .carriageReturn
  | 'x' => some .verbose
  | _ => none

/-- Flags with the value each is set to, in order. -/
abbrev Settings := List (Flag × Bool)

def Settings.value? (s : Settings) (f : Flag) : Option Bool :=
  (s.find? (·.1 == f)).map (·.2)

/-- Places that match the empty text. -/
inductive Anchor where
  | lineStart
  | lineEnd
  | textStart
  | textEnd
  | wordBoundary
  | notWordBoundary
  | wordStart
  | wordEnd
  | wordStartHalf
  | wordEndHalf
  deriving DecidableEq, Repr

/-- How often a part repeats: at least `least` times, at most `most` times when given. -/
structure Count where
  least : Nat
  most : Option Nat
  deriving DecidableEq, Repr

/-- A pattern. A group that captures has an index; `settings` holds from its place to the end of
the group around it. -/
inductive Pattern where
  | empty
  | char (c : Char)
  | byte (c : Char) (span : Span)
  | dot
  | anchor (a : Anchor)
  | set (s : CharSet) (span : Span)
  | settings (s : Settings)
  | capture (index : Nat) (body : Pattern)
  | group (s : Settings) (body : Pattern)
  | seq (first second : Pattern)
  | alt (first second : Pattern)
  | repeat (body : Pattern) (count : Count) (greedy : Bool)
  deriving Repr

/-- Parts in a row. -/
def Pattern.ofParts : List Pattern → Pattern
  | [] => .empty
  | [p] => p
  | p :: rest => .seq p (ofParts rest)

/-- Branches in order of preference. -/
def Pattern.ofBranches : List Pattern → Pattern
  | [] => .empty
  | [p] => p
  | p :: rest => .alt p (ofBranches rest)

/-- The nesting of a set, counting brackets, operators and rows of items. -/
def CharSet.depth : CharSet → Nat
  | .bracket _ body => body.depth + 1
  | .union left right =>
    max (match left with | .union .. => left.depth | _ => left.depth + 1) (right.depth + 1)
  | .inter left right | .diff left right | .symm left right => max left.depth right.depth + 1
  | _ => 0

/-- The nesting of a pattern. A row counts once, and so does a choice, however long. -/
def Pattern.depth : Pattern → Nat
  | .capture _ body | .group _ body | .repeat body _ _ => body.depth + 1
  | .seq first second =>
    max (first.depth + 1) (match second with | .seq .. => second.depth | _ => second.depth + 1)
  | .alt first second =>
    max (first.depth + 1) (match second with | .alt .. => second.depth | _ => second.depth + 1)
  | .set s _ => s.depth
  | _ => 0

/-- The pattern repeats or groups something, so that a count after it has an operand. -/
def Pattern.repeatable : Pattern → Bool
  | .empty | .settings _ => false
  | _ => true

end EndpointRouting.Regex
