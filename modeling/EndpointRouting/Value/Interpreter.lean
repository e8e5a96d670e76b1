import EndpointRouting.Text.Basic
import EndpointRouting.Url.Basic
import EndpointRouting.Value.Binary64
import EndpointRouting.Value.Integer

/-!
# Interpreters of raw values

What raw text from a request stands for. Every interpreter is total: text that it does not take
has a reason.
-/

namespace EndpointRouting

/-- A value that raw text stands for. -/
inductive Value where
  | text (s : String)
  | list (items : List String)
  | url (u : Url)
  | char (c : Char)
  | truth (b : Bool)
  | integer (n : Int)
  | float (x : Value.Binary64)
  deriving DecidableEq, Repr

namespace Value
open Text

/-- Why raw text was refused. -/
inductive InterpretError where
  | url (e : Url.UrlError)
  | noFirstChar
  | noChar
  | severalChars
  | noTruth
  | integer (e : IntegerError)
  | float (e : DecimalError)
  deriving DecidableEq, Repr

def InterpretError.message : InterpretError → String
  | url e => "malformed URL: " ++ e.message
  | noFirstChar => "empty value has no first character"
  | noChar => "cannot parse char from empty string"
  | severalChars => "too many characters in string"
  | noTruth => "provided string was not \x60true\x60 or \x60false\x60"
  | integer e => e.message
  | float e => e.message

/-- How raw text is read. -/
inductive Interpreter where
  | text
  | trimmed
  | list
  | url
  | firstChar
  | char
  | truth
  | integer (t : IntegerType)
  | float
  deriving DecidableEq, Repr

/-- The pieces of `cs` between commas; at least one. -/
def pieces : List Char → List (List Char)
  | [] => [[]]
  | c :: rest =>
    if c = ',' then [] :: pieces rest
    else match pieces rest with
      | p :: ps => (c :: p) :: ps
      | [] => [[c]]

/-- The items up to the last one that is not empty. -/
def dropEmptyEnd : List (List Char) → List (List Char)
  | [] => []
  | p :: ps =>
    match dropEmptyEnd ps with
    | [] => if p.isEmpty then [] else [p]
    | qs => p :: qs

/-- A list separated by commas. Empty items at its end do not count. -/
def listItems (raw : String) : List String := (dropEmptyEnd (pieces raw.toList)).map String.ofList

namespace Interpreter

/-- The interpreters by name. -/
def ofName? : String → Option Interpreter
  | "string" => some text
  | "trimmed" => some trimmed
  | "list" => some list
  | "url" => some url
  | "first_char" => some firstChar
  | "char" => some char
  | "bool" => some truth
  | "f64" => some float
  | name => (IntegerType.named.lookup name).map integer

def read : Interpreter → String → Except InterpretError Value
  | text, raw => .ok (.text raw)
  | trimmed, raw => .ok (.text (trim raw))
  | list, raw => .ok (.list (listItems raw))
  | url, raw => (Url.read raw).mapError .url |>.map .url
  | firstChar, raw =>
    match raw.toList with
    | [] => .error .noFirstChar
    | c :: _ => .ok (.char c)
  | char, raw =>
    match raw.toList with
    | [] => .error .noChar
    | [c] => .ok (.char c)
    | _ => .error .severalChars
  | truth, raw =>
    if raw == "true" then .ok (.truth true)
    else if raw == "false" then .ok (.truth false)
    else .error .noTruth
  | integer t, raw => (t.read raw.toList).mapError .integer |>.map .integer
  | float, raw => (Binary64.read raw.toList).mapError .float |>.map .float

end Interpreter

end Value

end EndpointRouting
