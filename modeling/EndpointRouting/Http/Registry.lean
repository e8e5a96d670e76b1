import EndpointRouting.Http.Failure

/-!
# Registered header names and media types

A header name is registered under its ASCII case key with the spelling it first had; a media
type is registered as it is. The well-known ones are there from the start.
-/

namespace EndpointRouting.Http
open Text

/-- A header name as registered. -/
structure Header where
  spelling : String
  deriving DecidableEq, Repr

namespace Header

def allowOrigin : Header := ⟨"Access-Control-Allow-Origin"⟩
def cacheControl : Header := ⟨"Cache-Control"⟩
def connection : Header := ⟨"Connection"⟩
def contentType : Header := ⟨"Content-Type"⟩
def location : Header := ⟨"Location"⟩
def setCookie : Header := ⟨"Set-Cookie"⟩
def authenticate : Header := ⟨"WWW-Authenticate"⟩

/-- The header names that are always registered, by the name of their constant. -/
def wellKnown : List (String × Header) :=
  [("ACCESS_CONTROL_ALLOW_ORIGIN", allowOrigin), ("CACHE_CONTROL", cacheControl),
   ("CONNECTION", connection), ("CONTENT_TYPE", contentType), ("LOCATION", location),
   ("SET_COOKIE", setCookie), ("WWW_AUTHENTICATE", authenticate)]

end Header

/-- A media type as registered. -/
structure MediaType where
  spelling : String
  deriving DecidableEq, Repr

namespace MediaType

def text : MediaType := ⟨"text/plain"⟩
def html : MediaType := ⟨"text/html"⟩
def css : MediaType := ⟨"text/css"⟩
def json : MediaType := ⟨"application/json"⟩
def javascript : MediaType := ⟨"application/javascript"⟩
def xml : MediaType := ⟨"application/xml"⟩
def octetStream : MediaType := ⟨"application/octet-stream"⟩

/-- The media types that are always registered, by the name of their constant. -/
def wellKnown : List (String × MediaType) :=
  [("TEXT", text), ("HTML", html), ("CSS", css), ("JSON", json), ("JAVASCRIPT", javascript),
   ("XML", xml), ("OCTET_STREAM", octetStream)]

end MediaType

/-- What is kept under a key, and the entries with it: what was there, else a new value at the
end. -/
def intern {α : Type} (key : String) (value : α) (entries : List (String × α)) :
    α × List (String × α) :=
  match entries.lookup key with
  | some kept => (kept, entries)
  | none => (value, entries ++ [(key, value)])

/-- What has been registered under which key, oldest first. -/
structure Registry where
  headers : List (String × Header) :=
    Header.wellKnown.map fun (_, h) => (caseKey h.spelling, h)
  mediaTypes : List (String × MediaType) :=
    MediaType.wellKnown.map fun (_, m) => (m.spelling, m)
  deriving DecidableEq, Repr

namespace Registry

/-- The header of a name, registered if it is new. -/
def header (r : Registry) (name : String) : Except Failure (Header × Registry) :=
  if isBlank name then .error (.invalidHeader name)
  else
    let (h, headers) := intern (caseKey name) ⟨name⟩ r.headers
    .ok (h, { r with headers })

/-- The media type of a value, registered if it is new. -/
def mediaType (r : Registry) (value : String) : Except Failure (MediaType × Registry) :=
  if isBlank value then .error (.invalidMediaType value)
  else
    let (m, mediaTypes) := intern value ⟨value⟩ r.mediaTypes
    .ok (m, { r with mediaTypes })

end Registry

end EndpointRouting.Http
