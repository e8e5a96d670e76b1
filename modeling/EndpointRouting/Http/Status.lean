/-!
# Status codes
-/

namespace EndpointRouting.Http

/-- The status of a response. -/
structure Status where
  code : UInt16
  deriving DecidableEq, Repr

namespace Status

def ok : Status := ⟨200⟩
def created : Status := ⟨201⟩
def accepted : Status := ⟨202⟩
def partialInfo : Status := ⟨203⟩
def noContent : Status := ⟨204⟩
def movedPermanently : Status := ⟨301⟩
def found : Status := ⟨302⟩
def seeOther : Status := ⟨303⟩
def notModified : Status := ⟨304⟩
def badRequest : Status := ⟨400⟩
def unauthorized : Status := ⟨401⟩
def paymentRequired : Status := ⟨402⟩
def forbidden : Status := ⟨403⟩
def notFound : Status := ⟨404⟩
def methodNotAllowed : Status := ⟨405⟩
def conflict : Status := ⟨409⟩
def gone : Status := ⟨410⟩
def unprocessableEntity : Status := ⟨422⟩
def internalError : Status := ⟨500⟩
def notImplemented : Status := ⟨501⟩
def badGateway : Status := ⟨502⟩
def serviceUnavailable : Status := ⟨503⟩
def gatewayTimeout : Status := ⟨504⟩
def versionNotSupported : Status := ⟨505⟩

instance : Inhabited Status := ⟨ok⟩

/-- The statuses that have a name of their own. -/
def named : List (String × Status) :=
  [("DEFAULT", default), ("OK", ok), ("CREATED", created), ("ACCEPTED", accepted),
   ("PARTIAL_INFO", partialInfo), ("NO_CONTENT", noContent),
   ("MOVED_PERMANENTLY", movedPermanently), ("FOUND", found), ("SEE_OTHER", seeOther),
   ("NOT_MODIFIED", notModified), ("BAD_REQUEST", badRequest), ("UNAUTHORIZED", unauthorized),
   ("PAYMENT_REQUIRED", paymentRequired), ("FORBIDDEN", forbidden), ("NOT_FOUND", notFound),
   ("METHOD_NOT_ALLOWED", methodNotAllowed), ("CONFLICT", conflict), ("GONE", gone),
   ("UNPROCESSABLE_ENTITY", unprocessableEntity), ("INTERNAL_ERROR", internalError),
   ("NOT_IMPLEMENTED", notImplemented), ("BAD_GATEWAY", badGateway),
   ("SERVICE_UNAVAILABLE", serviceUnavailable), ("GATEWAY_TIMEOUT", gatewayTimeout),
   ("HTTP_VERSION_NOT_SUPPORTED", versionNotSupported)]

def ofName? (name : String) : Option Status := named.lookup name

def isSuccess (s : Status) : Bool := 200 ≤ s.code && s.code ≤ 299

def text (s : Status) : String := toString s.code.toNat

end Status

end EndpointRouting.Http
