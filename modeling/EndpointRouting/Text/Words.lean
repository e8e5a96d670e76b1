import EndpointRouting.Text.Case
import EndpointRouting.Text.Graphic

/-!
# Words of a name

A name is split at delimiters and at changes of case, and between letters and digits. Each word
is put into lower case by itself, so a capital sigma takes the form it has at the end of its own
word. `flatCase` joins the words with nothing between them.
-/

namespace EndpointRouting.Text

/-- A character with the extending characters after it. -/
abbrev Cluster := List Char

def clusters : List Char → List Cluster
  | [] => []
  | c :: rest =>
    match clusters rest with
    | (d :: ds) :: others =>
      if isExtending d then (c :: d :: ds) :: others else [c] :: (d :: ds) :: others
    | others => [c] :: others

/-- What a cluster contributes to a word boundary. -/
inductive Shape where
  | lower
  | upper
  | digit
  | delimiter
  | other
  deriving DecidableEq

def Shape.of (g : Cluster) : Shape :=
  if g = ['_'] || g = ['-'] || g = [' '] then .delimiter
  else if g.all Char.isDigit then .digit
  else if !g.any hasLower && g.any hasUpper then .lower
  else if g.any hasLower && !g.any hasUpper then .upper
  else .other

/-- A word ends after a cluster of the first shape when the given shapes follow it. -/
def endsWord : Shape → List Shape → Bool
  | .lower, .upper :: _ => true
  | .lower, .digit :: _ => true
  | .upper, .digit :: _ => true
  | .digit, .upper :: _ => true
  | .digit, .lower :: _ => true
  | .upper, .upper :: .lower :: _ => true
  | _, _ => false

/-- The words of a name; some may be empty. -/
def splitWords : List Cluster → List (List Char)
  | [] => [[]]
  | g :: rest =>
    match splitWords rest with
    | word :: words =>
      if Shape.of g = .delimiter then [] :: word :: words
      else if endsWord (Shape.of g) (rest.map Shape.of) then g :: word :: words
      else (g ++ word) :: words
    | [] => [g]

def flatCase (s : String) : String :=
  String.ofList ((splitWords (clusters s.toList)).flatMap lowerChars)

end EndpointRouting.Text
