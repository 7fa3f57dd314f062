import FacetSearch.Engine.Program
import FacetSearch.Http.Answer
import FacetSearch.Http.Request
import FacetSearch.Settings.Basic
import FacetSearch.Url.Reader

/-!
# The engine behind a URL

A client turns calls into requests and answers into replies. How a request gets to the host and an
answer back is an exchange, which may fail; requests go out over HTTP only.
-/

namespace FacetSearch.Http

/-- What reaches the engine. -/
structure Client where
  /-- The URL below which the engine is found. -/
  base : Url
  /-- The length that the body of an answer may not exceed. -/
  limit : UInt64
deriving DecidableEq

namespace Client

/-- The URL can be extended by segments. -/
def isBase (url : Url) : Bool :=
  match url.path with
  | .segments _ => true
  | .opaqueText _ => false

/-- The client that the settings describe. -/
def ofSettings (settings : EngineSettings) : Except Error Client :=
  match Url.read settings.url with
  | .error fault => .error (.invalidUrl fault)
  | .ok url =>
    if isBase url then .ok ⟨url, settings.maxResponseBytes⟩
    else .error (.setting (.urlWithoutPath settings.url))

/-- Requests to the URL can be sent. -/
def canSend (client : Client) : Bool :=
  client.base.scheme == "http" || client.base.scheme == "https"

/-- The reply that an exchange gives to a call; without an answer the call fails. -/
def replyOf (client : Client) (call : Call) (answer? : Option Answer) : Except Error call.Reply :=
  match answer? with
  | some answer => answer.reply client.limit call
  | none => .error (.transport call.index)

/-- Makes a call through an exchange. -/
def perform {m : Type → Type} [Monad m] (client : Client)
    (exchange : Request → m (Option Answer)) (call : Call) : m (Except Error call.Reply) :=
  match call.idleReply? with
  | some reply => return .ok reply
  | none =>
    if client.canSend then do
      let answer? ← exchange (call.request client.base)
      return client.replyOf call answer?
    else return .error (.transport call.index)

/-- The engine that an exchange with a state reaches. -/
def engine {σ : Type} (client : Client) (exchange : Request → StateM σ (Option Answer)) :
    Engine σ where
  reply call state := (client.perform exchange call).run state

end Client

/-- The exchange with a host that cannot be reached. -/
def unreachable {m : Type → Type} [Monad m] (_ : Request) : m (Option Answer) := return none

end FacetSearch.Http
