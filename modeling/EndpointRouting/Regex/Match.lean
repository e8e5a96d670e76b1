import EndpointRouting.Regex.Node
import EndpointRouting.Regex.Reader

/-!
# Matching

`Node.ends` lists every way in which a pattern matches from one place of a text, best first.
Of two ways that end at the same place only the better one is kept: what follows cannot tell
them apart. A repetition goes on only while it consumes characters, except that its first round
may match the empty text.
-/

namespace EndpointRouting.Regex
open Text

/-- A place in a text, and what the groups have captured on the way to it. Captures are newest
first. -/
structure Cursor where
  before : List Char := []
  after : List Char
  captures : List (Nat × List Char) := []
  deriving DecidableEq, Repr

namespace Cursor

/-- The place one character further on. -/
def next (s : Cursor) (c : Char) (rest : List Char) : Cursor :=
  { s with before := c :: s.before, after := rest }

/-- Records for a group the text between an earlier place and this one. -/
def capture (s : Cursor) (index : Nat) (start : Cursor) : Cursor :=
  { s with captures :=
      (index, start.after.take (start.after.length - s.after.length)) :: s.captures }

/-- The text that a group captured last. -/
def captured? (s : Cursor) (index : Nat) : Option (List Char) :=
  (s.captures.find? (·.1 == index)).map (·.2)

/-- Whether a word character is just before the place, and just after it. -/
def wordBefore (s : Cursor) (unicode : Bool) : Bool :=
  s.before.head?.any (Shorthand.word.contains unicode)

def wordAfter (s : Cursor) (unicode : Bool) : Bool :=
  s.after.head?.any (Shorthand.word.contains unicode)

end Cursor

def Place.holds (s : Cursor) : Place → Bool
  | .textStart => s.before.isEmpty
  | .textEnd => s.after.isEmpty
  | .lineStart => s.before.isEmpty || s.before.head? == some '\n'
  | .lineEnd => s.after.isEmpty || s.after.head? == some '\n'
  | .anyLineStart =>
    s.before.isEmpty || s.before.head? == some '\n' ||
      (s.before.head? == some '\r' && s.after.head? != some '\n')
  | .anyLineEnd =>
    s.after.isEmpty || s.after.head? == some '\r' ||
      (s.after.head? == some '\n' && s.before.head? != some '\r')
  | .boundary u => s.wordBefore u != s.wordAfter u
  | .notBoundary u => s.wordBefore u == s.wordAfter u
  | .wordStart u => !s.wordBefore u && s.wordAfter u
  | .wordEnd u => s.wordBefore u && !s.wordAfter u
  | .wordStartHalf u => !s.wordBefore u
  | .wordEndHalf u => !s.wordAfter u

/-- The first of the cursors at each place. -/
def distinct : List Cursor → List Cursor
  | [] => []
  | s :: rest => s :: (distinct rest).filter (·.after.length != s.after.length)

theorem head?_distinct (ss : List Cursor) : (distinct ss).head? = ss.head? := by
  cases ss <;> rfl

/-- Exactly `n` rounds. -/
def exactly (round : Cursor → List Cursor) : Nat → Cursor → List Cursor
  | 0, s => [s]
  | n + 1, s => distinct ((exactly round n s).flatMap round)

/-- Rounds that a loop has already started: how many were left, and how much text. -/
abbrev Seen := List (Nat × Nat)

/-- Visits cursors in order, passing on what has been seen. -/
def sweep (visit : Cursor → Seen → List Cursor × Seen) : List Cursor → Seen → List Cursor × Seen
  | [], seen => ([], seen)
  | s :: rest, seen =>
    let (here, seen) := visit s seen
    let (there, seen) := sweep visit rest seen
    (here ++ there, seen)

/-- At most `n` rounds from `s`: going on comes before stopping when greedy, after it otherwise.
A round that has been started before is not started again. When rounds are not `counted`, two
starts at one place are the same however many rounds are left. -/
def visit (round : Cursor → List Cursor) (greedy counted : Bool) :
    Nat → Cursor → Seen → List Cursor × Seen
  | 0, s, seen => ([s], seen)
  | n + 1, s, seen =>
    let key := (if counted then n else 0, s.after.length)
    if seen.contains key then ([], seen)
    else
      let (more, seen) := sweep (visit round greedy counted n) (round s) (key :: seen)
      (if greedy then more ++ [s] else s :: more, seen)

/-- The results of `round` that consume something. -/
def consuming (round : Cursor → List Cursor) (s : Cursor) : List Cursor :=
  (round s).filter (·.after.length < s.after.length)

/-- One round, and more of them as long as they consume something. Each shortens the rest of the
text, so its length bounds their number. -/
def rounds (round : Cursor → List Cursor) (greedy : Bool) (s : Cursor) : List Cursor :=
  let go (t : Cursor) (seen : Seen) :=
    if t.after.length < s.after.length then
      visit (consuming round) greedy false t.after.length t seen
    else ([t], seen)
  distinct (sweep go (round s) []).1

/-- The places where a match from `s` can end, best first. -/
def Node.ends : Node → Cursor → List Cursor
  | .empty, s => [s]
  | .one t, s =>
    match s.after with
    | c :: rest => if t.accepts c then [s.next c rest] else []
    | [] => []
  | .place p, s => if p.holds s then [s] else []
  | .capture index body, s => (body.ends s).map (·.capture index s)
  | .seq first second, s => distinct ((first.ends s).flatMap second.ends)
  | .alt first second, s => distinct (first.ends s ++ second.ends s)
  | .repeat body count greedy, s =>
    match count.most with
    | some most =>
      let more := visit body.ends greedy true (most - count.least)
      distinct (sweep more (exactly body.ends count.least s) []).1
    | none =>
      match count.least with
      | 0 =>
        let more := rounds body.ends greedy s
        distinct (if greedy then more ++ [s] else s :: more)
      | n + 1 => distinct ((exactly body.ends n s).flatMap (rounds body.ends greedy))

/-- The best match that starts at `s` or, failing that, at the nearest place after it. -/
def Node.searchFrom (node : Node) (before : List Char) : List Char → Option Cursor
  | [] => (node.ends ⟨before, [], []⟩).head?
  | c :: rest =>
    match (node.ends ⟨before, c :: rest, []⟩).head? with
    | some found => some found
    | none => node.searchFrom (c :: before) rest

end EndpointRouting.Regex

/-! ### Compiled patterns

A pattern compiles unless its text is wrong or it would grow too big. A compiled pattern finds
the leftmost match in a text, with what its named groups captured. -/

namespace EndpointRouting

/-- A compiled pattern: its tree, and the index of each named group. -/
structure Regex where
  node : Regex.Node
  names : List (List Char × Nat)
  deriving DecidableEq, Repr

namespace Regex

def compile (cs : List Char) : Except CompileError Regex := do
  let read ← (Pattern.read cs).mapError .pattern
  let (node, _) ← (read.pattern.resolve {}).mapError .pattern
  if node.size ≤ sizeLimit then .ok ⟨node, read.names⟩ else .error .tooBig

/-- Where the leftmost match ends, with the captures made on the way. -/
def search? (r : Regex) (text : List Char) : Option Cursor := r.node.searchFrom [] text

/-- What the group of the given name captured. -/
def captured? (r : Regex) (found : Cursor) (name : List Char) : Option (List Char) :=
  (r.names.find? (·.1 == name)).bind fun (_, index) => found.captured? index

end Regex

end EndpointRouting
