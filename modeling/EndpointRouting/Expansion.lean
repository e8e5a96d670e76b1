import EndpointRouting.Block.Definition
import EndpointRouting.Code.Router

/-!
# Expansion of an endpoint

An implementation block is written again without its routing attributes, followed by the router,
or by every error that there is instead of it. Anything but an implementation block is written as
it is, with an error.
-/

namespace EndpointRouting
open Block Route Token

/-- The implementation block that the tokens are. -/
def Block.Impl.read (ts : List Tree) : Option Impl :=
  Impl.readOver (Grammar.recognisersFor ts) ts

/-- Why there is no router for a block. -/
inductive EndpointError where
  | argument (e : ArgumentError)
  | block (e : BlockError)
  | table (e : TableError)
  deriving DecidableEq, Repr

def EndpointError.message : EndpointError → String
  | argument e => e.message false
  | block e => e.message
  | table e => e.message

/-- The router of a block: its code, or what is wrong. -/
def routerOf (arguments : List Tree) (b : Impl) (setting : Option String) :
    Except (List EndpointError) (List Tree) := do
  let options ← (readArguments arguments).mapError (·.map .argument)
  let definition ← (b.definition options).mapError (·.map .block)
  let table ← (Table.build definition).mapError (·.map .table)
  return Code.routerCode b table (Plan.build table (options.isDevelopment setting))

def notABlock : String := "#[endpoint] must be placed on an inherent impl block"

/-- What an annotated item becomes. -/
inductive Expansion where
  | refused (item : List Tree)
  | failed (block : Impl) (errors : List EndpointError)
  | routed (block : Impl) (router : List Tree)

namespace Expansion

/-- What an item becomes where `g` reads and prints what is nested in a block. -/
def ofOver (g : Grammar.Recognisers) (arguments item : List Tree) (setting : Option String) :
    Expansion :=
  match Impl.readOver g item with
  | none => .refused item
  | some b =>
    match routerOf arguments b setting with
    | .ok router => .routed b.strip router
    | .error es => .failed b.strip es

def of (arguments item : List Tree) (setting : Option String) : Expansion :=
  ofOver (Grammar.recognisersFor item) arguments item setting

def trees : Expansion → List Tree
  | refused item => item ++ Code.failure notABlock
  | failed block errors => block.trees ++ errors.flatMap (Code.failure ·.message)
  | routed block router => block.trees ++ router

end Expansion

end EndpointRouting
