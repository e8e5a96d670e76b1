import EndpointRouting.Http.Fields
import EndpointRouting.Http.Registry
import EndpointRouting.Http.Status

/-!
# Responses

A response collects a status, headers and a body; each write replaces what it writes. Header
names are kept by their ASCII case key.
-/

namespace EndpointRouting.Http
open Text

structure Response where
  status : Status := .ok
  headers : Fields := {}
  body : Option String := none
  deriving DecidableEq, Repr

namespace Response

def header? (r : Response) (name : String) : Option String := r.headers.get? (caseKey name)

/-- The number of header names, counted up to ASCII case. -/
def headerCount (r : Response) : Nat := r.headers.size

def setStatus (r : Response) (s : Status) : Response := { r with status := s }

/-- Sets a header under a name that need not be registered. -/
def setRawHeader (r : Response) (name value : String) : Response :=
  { r with headers := r.headers.set (caseKey name) value }

def setBody (r : Response) (body : String) : Response := { r with body := some body }

def setHeader (r : Response) (h : Header) (value : String) : Response :=
  r.setRawHeader h.spelling value

def setMediaType (r : Response) (m : MediaType) : Response :=
  r.setHeader .contentType m.spelling

/-! ### Common answers -/

def notAuthorized (r : Response) : Response := r.setStatus .forbidden

def methodNotAllowed (r : Response) : Response := r.setStatus .methodNotAllowed

def notFound (r : Response) : Response := r.setStatus .notFound

def unprocessableEntity (r : Response) : Response := r.setStatus .unprocessableEntity

/-- Sends the client elsewhere; the connection is closed. -/
def redirect (r : Response) (s : Status) (location : String) : Response :=
  ((r.setStatus s).setHeader .location location).setHeader .connection "close"

/-- A body with its media type, and status 200. -/
def write (r : Response) (m : MediaType) (body : String) : Response :=
  ((r.setStatus .ok).setMediaType m).setBody body

def writeText (r : Response) (body : String) : Response := r.write .text body

def writeHtml (r : Response) (body : String) : Response := r.write .html body

def writeJson (r : Response) (body : String) : Response := r.write .json body

theorem header?_setRawHeader (r : Response) (name value other : String) :
    (r.setRawHeader name value).header? other =
      if sameName other name then some value else r.header? other := by
  simp only [header?, setRawHeader, Fields.get?_set, sameName, beq_iff_eq]

end Response

end EndpointRouting.Http
