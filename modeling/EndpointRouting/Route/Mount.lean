import EndpointRouting.Template
import EndpointRouting.Text.Words
import EndpointRouting.Token.Tree

/-!
# Where an endpoint and its handlers are mounted

Paths are joined with one slash. What is not said explicitly follows from the names: the base
path from the type, the template of a handler from the handler.
-/

namespace EndpointRouting.Route
open Text Token

/-- Two paths joined with one slash between them. Nothing is added for an empty second path. -/
def joinPath (parent child : String) : String :=
  match parent.toList.getLast?, child.toList with
  | some '/', '/' :: rest => parent ++ String.ofList rest
  | some '/', _ => parent ++ child
  | _, '/' :: _ => parent ++ child
  | _, [] => parent
  | _, _ => parent ++ "/" ++ child

/-- The base path of an endpoint: its own absolute path, else its own path or the type's name in
flat case under the given stem. -/
def basePath (type : Identifier) (path : Option String) (stem : String) : String :=
  match path with
  | none => joinPath stem (flatCase type.spelling)
  | some path =>
    match path.toList with
    | [] => joinPath stem (flatCase type.spelling)
    | '/' :: _ => path
    | _ => joinPath stem path

/-- The handlers that address the endpoint itself. -/
def rootHandlers : List String := ["index", "save", "update", "delete"]

/-- The template of a handler: its own, with a slash in front, else one that follows from its
name. -/
def handlerTemplate (handler : Identifier) (path : Option String) : String :=
  let named := if rootHandlers.contains handler.text then "" else "/" ++ handler.text
  match path with
  | none => named
  | some path =>
    match path.toList with
    | [] => named
    | '/' :: _ => path
    | _ => "/" ++ path

end EndpointRouting.Route
