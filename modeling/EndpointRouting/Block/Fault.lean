import EndpointRouting.Grammar.Basic

/-!
# Faults in token lists

What was expected where something else stands, or where the tokens end.
-/

namespace EndpointRouting.Block
open Grammar Token

/-- What should have come. -/
inductive Expected where
  | string
  | comma
  | parentheses
  | word
  | itemName
  | segment
  | item
  | expression
  deriving DecidableEq, Repr

def Expected.text : Expected → String
  | string => "expected string literal"
  | comma => "expected \x60,\x60"
  | parentheses => "expected parentheses"
  | word => "expected ident"
  | itemName => "expected nested attribute"
  | segment => "expected path segment"
  | item => "expected identifier or literal"
  | expression => "expected an expression"

inductive Fault where
  /-- Something else stands there. -/
  | missing (e : Expected)
  /-- The tokens end there. -/
  | ended (e : Expected)
  /-- More tokens follow. -/
  | excess
  /-- A literal stands for the name of an item. -/
  | literalItem
  /-- Something that is neither a name nor a literal stands for the name of an item. -/
  | unnamedItem
  deriving DecidableEq, Repr

def Fault.message : Fault → String
  | missing e => e.text
  | ended e => "unexpected end of input, " ++ e.text
  | excess => "unexpected token"
  | literalItem => "unexpected literal in nested attribute, expected ident"
  | unnamedItem => "unexpected token in nested attribute, expected ident"

/-- The fault of not finding something at the front of the tokens. -/
def Fault.at (e : Expected) (ts : List Tree) : Fault := if ts.isEmpty then .ended e else .missing e

/-- Takes a string literal: its value. -/
def stringLiteral (ts : List Tree) : Except Fault (String × List Tree) :=
  match ts with
  | .literal ⟨.string value, _⟩ :: rest => .ok (value, rest)
  | _ => .error (.at .string ts)

/-- Takes a comma. -/
def comma (ts : List Tree) : Except Fault (List Tree) :=
  match mark "," ts with
  | some rest => .ok rest
  | none => .error (.at .comma ts)

end EndpointRouting.Block
