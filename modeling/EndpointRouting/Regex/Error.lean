import EndpointRouting.Text.Basic

/-!
# Errors in a pattern

What is wrong with a pattern, where, and the text that shows it. A position is written as the
number of characters from it to the end of the pattern, so a reader of the pattern need not
count what it has consumed.
-/

namespace EndpointRouting.Regex

/-- The longest nesting of groups, classes and repetitions that a pattern may have. -/
def nestLimit : Nat := 250

/-- The largest compiled size of a pattern, in bytes. -/
def sizeLimit : Nat := 10 * Nat.pow 2 20

/-- A stretch of the pattern, by the lengths of what follows its start and its end. -/
structure Span where
  start : Nat
  stop : Nat
  deriving DecidableEq, Repr

def Span.between (start stop : List Char) : Span := ⟨start.length, stop.length⟩

/-- What is wrong with a pattern. -/
inductive Cause where
  | classEscape
  | classRangeOrder
  | classRangeBoundary
  | classUnclosed
  | decimalEmpty
  | decimalTooLarge
  | hexEmpty
  | hexNotScalar
  | hexDigit
  | escapeEnd
  | escapeUnknown
  | flagDanglingNegation
  | flagDuplicate
  | flagRepeatedNegation
  | flagEnd
  | flagUnknown
  | nameDuplicate
  | nameEmpty
  | nameCharacter
  | nameEnd
  | groupUnclosed
  | groupUnopened
  | nesting
  | countOrder
  | countDecimal
  | countUnclosed
  | repetitionOfNothing
  | boundaryUnclosed
  | boundaryUnknown
  | boundaryEnd
  | propertyName
  | backreference
  | lookAround
  | unicodeDisallowed
  | invalidEncoding
  | propertyUnknown
  | propertyValueUnknown
  deriving DecidableEq, Repr

def Cause.message : Cause → String
  | classEscape => "invalid escape sequence found in character class"
  | classRangeOrder => "invalid character class range, the start must be <= the end"
  | classRangeBoundary => "invalid range boundary, must be a literal"
  | classUnclosed => "unclosed character class"
  | decimalEmpty => "decimal literal empty"
  | decimalTooLarge => "decimal literal invalid"
  | hexEmpty => "hexadecimal literal empty"
  | hexNotScalar => "hexadecimal literal is not a Unicode scalar value"
  | hexDigit => "invalid hexadecimal digit"
  | escapeEnd => "incomplete escape sequence, reached end of pattern prematurely"
  | escapeUnknown => "unrecognized escape sequence"
  | flagDanglingNegation => "dangling flag negation operator"
  | flagDuplicate => "duplicate flag"
  | flagRepeatedNegation => "flag negation operator repeated"
  | flagEnd => "expected flag but got end of regex"
  | flagUnknown => "unrecognized flag"
  | nameDuplicate => "duplicate capture group name"
  | nameEmpty => "empty capture group name"
  | nameCharacter => "invalid capture group character"
  | nameEnd => "unclosed capture group name"
  | groupUnclosed => "unclosed group"
  | groupUnopened => "unopened group"
  | nesting => "exceed the maximum number of nested parentheses/brackets (250)"
  | countOrder => "invalid repetition count range, the start must be <= the end"
  | countDecimal => "repetition quantifier expects a valid decimal"
  | countUnclosed => "unclosed counted repetition"
  | repetitionOfNothing => "repetition operator missing expression"
  | boundaryUnclosed =>
    "special word boundary assertion is either unclosed or contains an invalid character"
  | boundaryUnknown =>
    "unrecognized special word boundary assertion, " ++
      "valid choices are: start, end, start-half or end-half"
  | boundaryEnd =>
    "found either the beginning of a special word boundary or a bounded repetition " ++
      "on a \\b with an opening brace, but no closing brace"
  | propertyName => "invalid Unicode character class"
  | backreference => "backreferences are not supported"
  | lookAround => "look-around, including look-ahead and look-behind, is not supported"
  | unicodeDisallowed => "Unicode not allowed here"
  | invalidEncoding => "pattern can match invalid UTF-8"
  | propertyUnknown => "Unicode property not found"
  | propertyValueUnknown => "Unicode property value not found"

/-- An error, the stretch it is about, and an earlier stretch it conflicts with. -/
structure PatternError where
  cause : Cause
  span : Span
  earlier : Option Span
  deriving DecidableEq, Repr

def PatternError.on (cause : Cause) (start stop : List Char) : PatternError :=
  ⟨cause, .between start stop, none⟩

/-- Why a pattern does not compile. -/
inductive CompileError where
  | pattern (error : PatternError)
  | tooBig
  deriving DecidableEq, Repr

/-! ### The text of an error -/

/-- The line and the column, both from zero, after the given text. -/
def lineColumn : List Char → Nat × Nat → Nat × Nat
  | [], place => place
  | c :: rest, (line, column) =>
    lineColumn rest (if c = '\n' then (line + 1, 0) else (line, column + 1))

/-- A span as the positions of its two ends. -/
structure Placed where
  start : Nat × Nat
  stop : Nat × Nat

def Span.place (pattern : List Char) (s : Span) : Placed :=
  ⟨lineColumn (pattern.take (pattern.length - s.start)) (0, 0),
   lineColumn (pattern.take (pattern.length - s.stop)) (0, 0)⟩

/-- The lines of a text; a newline at its end starts no line. -/
def linesOf (cs : List Char) : List (List Char) :=
  let pieces := cs.splitOn '\n'
  let pieces := if pieces.getLast? = some [] then pieces.dropLast else pieces
  pieces.map fun line => if line.getLast? = some '\r' then line.dropLast else line

/-- Carets under the given spans of one line, from column `done` on. -/
def carets : Nat → List Placed → List Char
  | _, [] => []
  | done, p :: rest =>
    let width := max 1 (p.stop.2 - p.start.2)
    List.replicate (p.start.2 - done) ' ' ++ List.replicate width '^' ++
      carets (max done p.start.2 + width) rest

def Placed.before (a b : Placed) : Bool :=
  a.start.2 < b.start.2 || (a.start.2 == b.start.2 && a.stop.2 ≤ b.stop.2)

/-- The pattern, each line followed by the carets under the spans that lie on it. -/
def notate (pattern : List Char) (spans : List Placed) : List Char :=
  let lines := linesOf pattern
  let count := lines.length + (if pattern.getLast? = some '\n' then 1 else 0)
  let width := if count ≤ 1 then 0 else (Nat.toDigits 10 count).length
  (lines.zipIdx.flatMap fun (line, i) =>
    let label := if width = 0 then List.replicate 4 ' '
      else
        let digits := Nat.toDigits 10 (i + 1)
        List.replicate (width - digits.length) ' ' ++ digits ++ [':', ' ']
    let here := (spans.filter fun p => p.start.1 == i && p.stop.1 == i).mergeSort Placed.before
    label ++ line ++ ['\n'] ++
      (if here.isEmpty then []
       else List.replicate (if width = 0 then 4 else width + 2) ' ' ++ carets 0 here ++ ['\n']))

/-- A span over several lines, in words. -/
def Placed.describe (p : Placed) : String :=
  let line := p.start.1 + 1
  let column := p.start.2 + 1
  let line' := p.stop.1 + 1
  let column' := p.stop.2
  "on line " ++ toString line ++ " (column " ++ toString column ++ ") through line " ++
    toString line' ++ " (column " ++ toString column' ++ ")"

def PatternError.message (pattern : String) (e : PatternError) : String :=
  let cs := pattern.toList
  let spans := (e.span :: e.earlier.toList).map (Span.place cs)
  let body := String.ofList (notate cs spans)
  let closing := "error: " ++ e.cause.message
  if cs.contains '\n' then
    let divider := String.ofList (List.replicate 79 '~') ++ "\n"
    let wide := spans.filter fun p => p.start.1 != p.stop.1
    "regex parse error:\n" ++ divider ++ body ++ divider ++
      (if wide.isEmpty then "" else String.intercalate "\n" (wide.map Placed.describe) ++ "\n") ++
      closing
  else "regex parse error:\n" ++ body ++ closing

def CompileError.message (pattern : String) : CompileError → String
  | .pattern e => e.message pattern
  | .tooBig => "Compiled regex exceeds size limit of " ++ toString sizeLimit ++ " bytes."

end EndpointRouting.Regex
