import EndpointRouting.Http.Failure
import EndpointRouting.Http.Request
import EndpointRouting.Value.Interpreter

/-!
# Readers of request values

A path variable is read from the attributes that routing wrote, a query parameter from the
parameters that came with the request. A fallback stands in for an absent parameter only: a
parameter that is there is always interpreted.
-/

namespace EndpointRouting.Value
open Http

def notDefined (name : String) (r : Request) : Failure := .notDefined name r.verb r.path

/-- Raw text under a name, interpreted. -/
def interpretAs (i : Interpreter) (name raw : String) : Except Failure Value :=
  (i.read raw).mapError fun e => .invalidValue name raw e.message

structure PathVariable where
  name : String
  interpreter : Interpreter
  deriving DecidableEq, Repr

namespace PathVariable

def isDefinedAt (v : PathVariable) (r : Request) : Bool := (r.attribute? v.name).isSome

def read (v : PathVariable) (r : Request) : Except Failure Value :=
  match r.attribute? v.name with
  | some raw => interpretAs v.interpreter v.name raw
  | none => .error (notDefined v.name r)

end PathVariable

/-- What stands in for an absent parameter. A supplier is asked each time. -/
inductive Fallback where
  | required
  | constant (v : Value)
  | supplied (v : Value)
  deriving DecidableEq, Repr

structure QueryParameter where
  name : String
  interpreter : Interpreter
  fallback : Fallback := .required
  deriving DecidableEq, Repr

namespace QueryParameter

def isRequired (p : QueryParameter) : Bool := p.fallback == .required

def isDefinedAt (p : QueryParameter) (r : Request) : Bool := (r.parameter? p.name).isSome

/-- Reading the parameter asks its supplier. -/
def asksSupplier (p : QueryParameter) (r : Request) : Bool :=
  match p.fallback with
  | .supplied _ => !p.isDefinedAt r
  | _ => false

def read (p : QueryParameter) (r : Request) : Except Failure Value :=
  match r.parameter? p.name with
  | some raw => interpretAs p.interpreter p.name raw
  | none =>
    match p.fallback with
    | .required => .error (notDefined p.name r)
    | .constant v | .supplied v => .ok v

end QueryParameter

end EndpointRouting.Value
