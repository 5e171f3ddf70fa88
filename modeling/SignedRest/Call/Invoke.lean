import SignedRest.Call.Basic
import SignedRest.Http.Network

/-! Sending a call: it is prepared if need be, goes in flight, and ends with what came of it. -/
namespace SignedRest

/-- What becomes of a request that was handed over. There is no ending for a sender that is
dropped while the request is in flight. -/
structure Passage where
  happenings : List Http.Happening
  ending : Option (Except Interruption Response)

abbrev Transport := Http.Mode → Request → Passage

def Transport.ofClients (config : Config) (clients : Http.Clients) : Transport := fun mode r =>
  let sent := Http.sendBy config clients mode r
  ⟨sent.1, some sent.2⟩

namespace Call

/-- Prepares the call if need be and puts it in flight. -/
def begin (s : Service) (m : Moment) : Action Call Request := do
  let r ← prepare s m
  Action.modify fun c => { c with stage := .inFlight r }
  pure r

/-- The URL without its query, which may carry tokens. -/
def withoutQuery (url : String) : String := String.ofList (url.toList.takeWhile (· ≠ '?'))

def outcomeRecord (r : Request) : Except Error Response → Record
  | .ok response => .completed r.method.name (withoutQuery r.url) response.status
  | .error e => .failed r.method.name (withoutQuery r.url) e

/-- The last stage of a call, and what its sender is told. -/
def settle (r : Request) (result : Except Error Response) : Stage × Except Error Response :=
  match result with
  | .ok response =>
    match response.checkStatus with
    | .ok () => (.completed r response, .ok response)
    | .error e => (.refused r response, .error e)
  | .error .cancelled => (.cancelled r, .error .cancelled)
  | .error e => (.broken r, .error e)

def finish (debug : DebugFlags) (r : Request) (result : Except Error Response) :
    Action Call Response := fun c =>
  ⟨{ c with stage := (settle r result).1 },
    if debug.calls then [.logged (outcomeRecord r result)] else [], (settle r result).2⟩

/-- Why no client can be had: the configured user agent is no header value. -/
def clientFault (config : Config) : Option Error :=
  match config.userAgent with
  | some agent => if Http.isValue agent then none else some (.transport .other)
  | none => none

def handOver (mode : Http.Mode) (r : Request) (sent : Http.Sent) :
    List Event × Except Error Response :=
  (.handedOver mode r :: sent.1.map .http, sent.2.mapError Interruption.error)

/-- Nothing cancels a call that blocks its caller. -/
def attemptBlocking (config : Config) (client : Http.Client) (r : Request) :
    List Event × Except Error Response :=
  match clientFault config with
  | some e => ([], .error e)
  | none => handOver .blocking r (Http.sendBlocking client r)

def attemptAwaited (config : Config) (isCancelled : Bool) (client : Http.Client) (r : Request) :
    List Event × Except Error Response :=
  match clientFault config with
  | some e => ([], .error e)
  | none =>
    if isCancelled then ([], .error .cancelled)
    else handOver .awaited r (Http.sendAwaited client config.timeoutMs r)

def attemptStreamed (config : Config) (isCancelled : Bool) (client : Http.Client) (r : Request) :
    List Event × Except Error Response :=
  match clientFault config with
  | some e => ([], .error e)
  | none =>
    if isCancelled then ([], .error .cancelled)
    else handOver .streamed r (Http.sendStreamed client r)

def attemptUpload (config : Config) (isCancelled : Bool) (client : Http.Client) (r : Request) :
    List Event × Except Error Response :=
  match clientFault config with
  | some e => ([], .error e)
  | none =>
    if isCancelled then ([], .error .cancelled)
    else handOver .upload r (Http.sendUpload client config.uploadTimeoutMs r)

def invokeBlocking (s : Service) (m : Moment) (client : Http.Client) : Action Call Response := do
  let r ← begin s m
  let (events, result) := attemptBlocking s.endpoint.config client r
  Action.emit events
  finish s.endpoint.config.debug r result

def invokeAwaited (s : Service) (m : Moment) (isCancelled : Bool) (client : Http.Client) :
    Action Call Response := do
  let r ← begin s m
  let (events, result) := attemptAwaited s.endpoint.config isCancelled client r
  Action.emit events
  finish s.endpoint.config.debug r result

def invokeStreamed (s : Service) (m : Moment) (isCancelled : Bool) (client : Http.Client) :
    Action Call Response := do
  let r ← begin s m
  let (events, result) := attemptStreamed s.endpoint.config isCancelled client r
  Action.emit events
  finish s.endpoint.config.debug r result

def invokeUpload (s : Service) (m : Moment) (isCancelled : Bool) (client : Http.Client) :
    Action Call Response := do
  let r ← begin s m
  let (events, result) := attemptUpload s.endpoint.config isCancelled client r
  Action.emit events
  finish s.endpoint.config.debug r result

def attemptBy (config : Config) (mode : Http.Mode) (isCancelled : Bool) (clients : Http.Clients)
    (r : Request) : List Event × Except Error Response :=
  match mode with
  | .blocking => attemptBlocking config clients.blocking r
  | .awaited => attemptAwaited config isCancelled clients.async r
  | .streamed => attemptStreamed config isCancelled clients.async r
  | .upload => attemptUpload config isCancelled clients.async r

def invokeBy (s : Service) (m : Moment) (mode : Http.Mode) (isCancelled : Bool)
    (clients : Http.Clients) : Action Call Response :=
  match mode with
  | .blocking => invokeBlocking s m clients.blocking
  | .awaited => invokeAwaited s m isCancelled clients.async
  | .streamed => invokeStreamed s m isCancelled clients.async
  | .upload => invokeUpload s m isCancelled clients.async

def attempt (config : Config) (mode : Http.Mode) (isCancelled : Bool) (network : Http.Network)
    (r : Request) : List Event × Except Error Response :=
  attemptBy config mode isCancelled (network.clients config) r

def invoke (s : Service) (m : Moment) (mode : Http.Mode) (isCancelled : Bool)
    (network : Http.Network) : Action Call Response :=
  invokeBy s m mode isCancelled (network.clients s.endpoint.config)

def convey (config : Config) (mode : Http.Mode) (isCancelled : Bool) (transport : Transport)
    (r : Request) : List Event × Option (Except Error Response) :=
  match clientFault config with
  | some e => ([], some (.error e))
  | none =>
    if isCancelled && mode ≠ .blocking then ([], some (.error .cancelled))
    else
      let passage := transport mode r
      (.handedOver mode r :: passage.happenings.map .http,
        passage.ending.map (·.mapError Interruption.error))

/-- No response for a sender that was dropped. -/
def invokeVia (s : Service) (m : Moment) (mode : Http.Mode) (isCancelled : Bool)
    (transport : Transport) : Action Call (Option Response) := do
  let r ← begin s m
  let (events, ending) := convey s.endpoint.config mode isCancelled transport r
  Action.emit events
  match ending with
  | some result => do
    let response ← finish s.endpoint.config.debug r result
    pure (some response)
  | none => pure none

/-- The response's payload as XML; the elements opened are logged if XML is. -/
def xml (debug : DebugFlags) : Action Call Xml.Node := fun c =>
  match c.response? with
  | none => ⟨c, [], .error (.invalidResponse .noResponse)⟩
  | some response =>
    let (openings, result) := response.xmlTraced
    let records := openings.map fun o => Record.element o.isEmpty o.depth o.name
    ⟨c, if debug.xml then records.map .logged else [], result⟩

end Call
end SignedRest
