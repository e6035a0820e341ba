import Criteria.Service.Basic
import Criteria.Service.MediaType

/-!
# Requests over HTTP

Two resources: one tells that the service is alive, the other answers the
message in the body of a request.  Every response may be read by pages of any
origin, and a request that asks for permission in advance is granted it.
Whatever a resource does not answer itself is told the methods that it answers.
-/

namespace Criteria

/--
A request; the target is a path and perhaps a query, with or without the host in
front.
-/
structure Request where
  method : String
  target : String
  headers : List (String × String)
  body : List UInt8

/-- The outcome of a request, by its status. -/
inductive Status where
  | ok
  | badRequest
  | notFound
  | methodNotAllowed
  | payloadTooLarge
  | unsupportedMediaType
  | unprocessable
  deriving DecidableEq

/-- The number of a status. -/
def Status.code : Status → Nat
  | .ok => 200
  | .badRequest => 400
  | .notFound => 404
  | .methodNotAllowed => 405
  | .payloadTooLarge => 413
  | .unsupportedMediaType => 415
  | .unprocessable => 422

/-- A response; the body of a failure is left to whoever sends it. -/
structure Response where
  status : Status
  allow : Option String
  allowOrigin : String
  contentType : Option String
  body : String

/-- The resources of the service. -/
inductive Resource where
  | health
  | evaluate
  deriving DecidableEq

namespace Resource

/-- The resource under a path. -/
def ofPath? (path : String) : Option Resource :=
  if path = "/api/health" then some health
  else if path = "/api/evaluate" then some evaluate
  else none

/-- The methods that a resource answers. -/
def methods : Resource → List String
  | health => ["GET", "HEAD"]
  | evaluate => ["POST"]

/-- The methods that a resource answers, as a response lists them. -/
def methodList (resource : Resource) : String :=
  ",".intercalate resource.methods

end Resource

namespace Response

/-- A response that anyone may read. -/
def shared
    (status : Status) (allow contentType : Option String) (body : String) :
    Response :=
  ⟨status, allow, "*", contentType, body⟩

/-- A response without content. -/
def bare (status : Status) : Response :=
  .shared status none none ""

/-- A response with a JSON value. -/
def json (value : String) : Response :=
  .shared .ok none (some "application/json") value

/-- The same response without its body. -/
def withoutBody (response : Response) : Response :=
  { response with body := "" }

end Response

namespace Request

/-- Whether a character ends the path in front of it. -/
def endsPath (character : Char) : Bool :=
  character == '?' || character == '#'

/--
A target without its scheme and host; nothing is left of one that is no more
than a host.
-/
def withoutHost : List Char → List Char
  | '/' :: rest => '/' :: rest
  | target =>
      match target.dropWhile (· != ':') with
      | ':' :: '/' :: '/' :: rest =>
          rest.dropWhile fun character =>
            character != '/' && !endsPath character
      | _ => []

/-- The path of the target, without its host and its query. -/
def path (request : Request) : String :=
  String.ofList ((withoutHost request.target.toList).takeWhile fun character =>
    !endsPath character)

/-- Whether a request asks what is permitted, and for nothing else. -/
def asksPermission (request : Request) : Bool :=
  request.method == "OPTIONS"

/-- The value of the first header with a name, whatever its case. -/
def header? (request : Request) (name : String) : Option String :=
  (request.headers.find? fun header => header.1.toLower == name).map Prod.snd

/-- Whether the body claims to be JSON. -/
def hasJson (request : Request) : Bool :=
  ((request.header? "content-type").bind MediaType.read?).any MediaType.isJson

end Request

/-- The most bytes that the body of a message may have. -/
def largestBody : Nat := 2097152

/-- The status of bytes that are no message. -/
def MessageFault.status : MessageFault → Status
  | .notJson => .badRequest
  | .wrongShape => .unprocessable

namespace Service

/-- The response to a message posted in a body. -/
def respondToMessage (service : Service) (request : Request) : Response :=
  if !request.hasJson then .bare .unsupportedMediaType
  else if largestBody < request.body.length then .bare .payloadTooLarge
  else
    match Message.ofBytes request.body with
    | .ok message => .json (service.answer message).line
    | .error fault => .bare fault.status

/-- What a service says about itself. -/
def healthReport : Json :=
  .object [("status", .string "ok")]

/-- The response of a resource to a method that it answers. -/
def respondFrom (service : Service) (request : Request) : Resource → Response
  | .health =>
      let response := Response.json healthReport.compactText
      if request.method = "HEAD" then response.withoutBody else response
  | .evaluate => service.respondToMessage request

/-- The response to a request. -/
def respond (service : Service) (request : Request) : Response :=
  match Resource.ofPath? request.path with
  | none => .bare (if request.asksPermission then .ok else .notFound)
  | some resource =>
      if resource.methods.contains request.method then
        service.respondFrom request resource
      else
        .shared (if request.asksPermission then .ok else .methodNotAllowed)
          (some resource.methodList) none ""

end Service

end Criteria
