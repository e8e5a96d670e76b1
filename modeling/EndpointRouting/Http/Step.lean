import EndpointRouting.Http.Response

/-!
# Steps on a response

A response and the registry of names, changed step by step. A step that fails changes neither.
-/

namespace EndpointRouting.Http

structure Session where
  response : Response := {}
  registry : Registry := {}
  deriving DecidableEq, Repr

inductive Step where
  | status (s : Status)
  | register (name : String)
  | registerMediaType (value : String)
  | header (name value : String)
  | rawHeader (name value : String)
  | rawBody (body : String)
  | mediaType (value : String)
  | write (mediaType body : String)
  | text (body : String)
  | html (body : String)
  | json (body : String)
  | notFound
  | unprocessableEntity
  | notAuthorized
  | methodNotAllowed
  | redirect (s : Status) (location : String)
  | lookUp (name : String)
  deriving DecidableEq, Repr

namespace Session

/-- The session with another response, and nothing to report. -/
def respond (s : Session) (r : Response) : Option String × Session :=
  (none, { s with response := r })

/-- One step: what it reports, and the session after it. -/
def step (s : Session) : Step → Except Failure (Option String × Session)
  | .status code => .ok (s.respond (s.response.setStatus code))
  | .register name => do
    let (h, registry) ← s.registry.header name
    return (some h.spelling, { s with registry })
  | .registerMediaType value => do
    let (m, registry) ← s.registry.mediaType value
    return (some m.spelling, { s with registry })
  | .header name value => do
    let (h, registry) ← s.registry.header name
    return (none, { s with registry, response := s.response.setHeader h value })
  | .rawHeader name value => .ok (s.respond (s.response.setRawHeader name value))
  | .rawBody body => .ok (s.respond (s.response.setBody body))
  | .mediaType value => do
    let (m, registry) ← s.registry.mediaType value
    return (none, { s with registry, response := s.response.setMediaType m })
  | .write value body => do
    let (m, registry) ← s.registry.mediaType value
    return (none, { s with registry, response := s.response.write m body })
  | .text body => .ok (s.respond (s.response.writeText body))
  | .html body => .ok (s.respond (s.response.writeHtml body))
  | .json body => .ok (s.respond (s.response.writeJson body))
  | .notFound => .ok (s.respond s.response.notFound)
  | .unprocessableEntity => .ok (s.respond s.response.unprocessableEntity)
  | .notAuthorized => .ok (s.respond s.response.notAuthorized)
  | .methodNotAllowed => .ok (s.respond s.response.methodNotAllowed)
  | .redirect code location => .ok (s.respond (s.response.redirect code location))
  | .lookUp name => .ok (s.response.header? name, s)

/-- The session after a step; a step that fails leaves it as it was. -/
def advance (s : Session) (step : Step) : Session :=
  match s.step step with
  | .ok (_, next) => next
  | .error _ => s

def run (s : Session) (steps : List Step) : Session := steps.foldl advance s

end Session

end EndpointRouting.Http
