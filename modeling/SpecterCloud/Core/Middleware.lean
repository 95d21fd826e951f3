import SpecterCloud.Core.Runtime
import SpecterCloud.Core.UuidText

/-! `RequestIDMiddleware`: an id for each request, for its log lines and its response. -/

namespace SpecterCloud.Core

open SpecterCloud.Models

/-- What arrives at the middleware: `X-Request-ID` and `user-agent`, and the client's host. -/
structure IncomingRequest where
  xRequestId : Option String := none
  userAgent : Option String := none
  clientHost : Option IpAddress := none

/-- The request as the routes see it; nothing has set anything on its `state`. -/
def IncomingRequest.request (incoming : IncomingRequest) : Request where
  userAgent := incoming.userAgent
  clientHost := incoming.clientHost

/-- A response: its status, the headers that the code sets, and its body. -/
structure Response (Body : Type) where
  statusCode : Nat
  headers : List (String × String)
  body : Body

/-- `MutableHeaders.__setitem__`: the first header of that name gets the value and the others
are deleted. Names are in lower case.
-/
def setHeader (name value : String) : List (String × String) → List (String × String)
  | [] => [(name, value)]
  | header :: rest =>
      if header.1 = name then
        (name, value) :: rest.filter (fun other => other.1 ≠ name)
      else
        header :: setHeader name value rest

/-- `response.headers["X-Request-ID"] = request_id`. -/
def Response.withRequestId {Body : Type} (requestId : String) (response : Response Body)
    : Response Body :=
  { response with headers := setHeader "x-request-id" requestId response.headers }

/-- The variables that structlog merges into every log line of the request. -/
abbrev ContextVars := List (String × String)

def clearContextvars : ContextVars := []

def bindContextvars (name value : String) (context : ContextVars) : ContextVars :=
  (name, value) :: context.filter (fun bound => bound.1 ≠ name)

/-- The id of a request: the header's text, or else the generated UUID's. -/
def usedRequestId (generated : UUID) (incoming : IncomingRequest) : String :=
  incoming.xRequestId.getD (uuidText generated)

/-- `RequestIDMiddleware.dispatch`. The id goes to the log lines and to the response; the request
itself is handed on as it came. What `call_next` raises passes through.
-/
def dispatch {Body : Type} (generated : UUID) (incoming : IncomingRequest)
    (callNext : ContextVars → Request → Except Raised (Response Body) × Database)
    : Except Raised (Response Body) × Database :=
  let requestId := usedRequestId generated incoming
  let context := bindContextvars "request_id" requestId clearContextvars
  let (outcome, database) := callNext context incoming.request
  (outcome.map (Response.withRequestId requestId), database)

/-- A header that is set has that value and no other, by induction on the headers. -/
theorem setHeader_own (name value : String) (headers : List (String × String))
    : (setHeader name value headers).filter (fun header => header.1 = name)
      = [(name, value)] := by
  induction headers with
  | nil => simp [setHeader]
  | cons header rest ih =>
      unfold setHeader
      split
      · simp [List.filter_filter]
      · rename_i other
        rw [List.filter_cons_of_neg (by simpa using other), ih]

/-- The other headers stay as they are, by induction on the headers. -/
theorem setHeader_others (name value : String) (headers : List (String × String))
    : (setHeader name value headers).filter (fun header => header.1 ≠ name)
      = headers.filter (fun header => header.1 ≠ name) := by
  induction headers with
  | nil => simp [setHeader]
  | cons header rest ih =>
      unfold setHeader
      split
      · rename_i own
        simp [own, List.filter_filter]
      · rename_i other
        rw [List.filter_cons_of_pos (by simpa using other), ih,
          List.filter_cons_of_pos (by simpa using other)]

section Dispatch

variable {Body : Type} {generated : UUID} {incoming : IncomingRequest}
  {callNext : ContextVars → Request → Except Raised (Response Body) × Database}

/-- The routes run on the request as it came, and all that changes is the response's header. -/
theorem dispatch_run
    : dispatch generated incoming callNext
      = let requestId := usedRequestId generated incoming
        let ended := callNext [("request_id", requestId)] incoming.request
        (ended.1.map (Response.withRequestId requestId), ended.2) := rfl

/-- A response carries the id of its request once, and is otherwise the one of the routes. -/
theorem dispatch_response {response : Response Body}
    (answered
      : (callNext [("request_id", usedRequestId generated incoming)] incoming.request).1
        = .ok response)
    : ∃ sent,
        (dispatch generated incoming callNext).1 = .ok sent
        ∧ sent.statusCode = response.statusCode
        ∧ sent.body = response.body
        ∧ sent.headers.filter (fun header => header.1 = "x-request-id")
          = [("x-request-id", usedRequestId generated incoming)]
        ∧ sent.headers.filter (fun header => header.1 ≠ "x-request-id")
          = response.headers.filter (fun header => header.1 ≠ "x-request-id") := by
  refine ⟨response.withRequestId (usedRequestId generated incoming), ?_, rfl, rfl,
    setHeader_own _ _ _, setHeader_others _ _ _⟩
  rw [dispatch_run]
  simp only [answered]
  rfl

end Dispatch

end SpecterCloud.Core
