import EndpointRouting.Text.Graphic
import EndpointRouting.Token.Tree

/-!
# Building code

Token lists from words, punctuation and groups.
-/

namespace EndpointRouting.Code
open Text Token

abbrev Trees := List Tree

def word (w : String) : Tree := .ident ⟨w, false⟩

def words (ws : List String) : Trees := ws.map word

/-- Punctuation characters that stand together. -/
def joined : List Char → Trees
  | [] => []
  | [c] => [.punct c false]
  | c :: cs => .punct c true :: joined cs

def mark (s : String) : Trees := joined s.toList

def string (s : String) : Tree := .literal ⟨.string s, stringLiteral s⟩

/-- A number used as an index or a size. -/
def size (n : Nat) : Tree := .literal ⟨.integer, toString n ++ "usize"⟩

def parens (ts : Trees) : Trees := [.group .parenthesis ts]
def brackets (ts : Trees) : Trees := [.group .bracket ts]
def braces (ts : Trees) : Trees := [.group .brace ts]

/-- Items with a mark between them. -/
def separate (sep : String) : List Trees → Trees
  | [] => []
  | [item] => item
  | item :: rest => item ++ mark sep ++ separate sep rest

/-- An absolute path. -/
def path (names : List String) : Trees := names.flatMap fun n => mark "::" ++ [word n]

/-- A reference to an array of strings. -/
def strings (items : List String) : Trees :=
  mark "&" ++ brackets (separate "," (items.map fun s => [string s]))

/-- A type at the static lifetime, behind a reference. -/
def staticRef (type : Trees) : Trees := mark "&" ++ [.punct '\'' true, word "static"] ++ type

/-- Code that fails to compile with a message. -/
def failure (message : String) : Trees :=
  path ["core", "compile_error"] ++ mark "!" ++ braces [string message]

end EndpointRouting.Code
