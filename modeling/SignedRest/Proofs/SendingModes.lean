import SignedRest.Proofs.AnyTransport
import SignedRest.Proofs.HttpClients

/-! The four ways of sending a call, side by side. They hand over the same request, and where their
clients reply alike, the call ends in the same state, with the same answer and the same response;
only a streamed success has its body handed on piece by piece where the others keep it. What a
transport error leaves handed on is not compared with anything, since the others keep nothing
then. -/
namespace SignedRest

def Response.streamed (response : Response) : Response :=
  if response.isSuccess then { response with payload := [] } else response

theorem Response.isSuccess_streamed (response : Response) :
    response.streamed.isSuccess = response.isSuccess := by
  by_cases success : response.isSuccess = true
  · rw [streamed, if_pos success]
    rfl
  · rw [streamed, if_neg success]

/-- What goes out by a submission, whole or in pieces. -/
structure Http.Content where
  method : Method
  url : String
  headers : List (String × String)
  body : Bytes
  deriving DecidableEq

def Http.Submission.content (s : Submission) : Content := ⟨s.method, s.url, s.headers, s.bytes⟩

namespace Event

def piece? : Event → Option Bytes
  | .http (.chunk bytes) => some bytes
  | _ => none

/-- What a client is asked to send. -/
def content? : Event → Option Http.Content
  | .http (.submitted s) => some s.content
  | _ => none

end Event

def pieces (events : List Event) : List Bytes := events.filterMap Event.piece?

def contents (events : List Event) : List Http.Content := events.filterMap Event.content?

namespace Http

def Arrival.whole (a : Arrival) : Except Interruption Response := a.bytes.map a.response

/-- The pieces of a reply that a stream hands on. -/
def handedOn : Except Interruption Arrival → List Bytes
  | .ok a => if isSuccess a.status then a.pieces else []
  | .error _ => []

theorem content_blocking (r : Request) :
    (blockingSubmission r).content = ⟨r.method, r.url, r.headers, r.body⟩ := by
  cases h : r.payload <;>
    simp [blockingSubmission, Submission.content, Submission.bytes, Outgoing.bytes, Request.body, h]

theorem content_awaited (limit : Nat) (r : Request) :
    (awaitedSubmission limit r).content = ⟨r.method, r.url, r.headers, r.body⟩ := by
  cases h : r.payload <;>
    simp [awaitedSubmission, asyncBuilder, Submission.content, Submission.bytes, Outgoing.bytes,
      Request.body, h]

theorem content_streamed (r : Request) :
    (streamedSubmission r).content = ⟨r.method, r.url, r.headers, r.body⟩ := by
  cases h : r.payload <;>
    simp [streamedSubmission, asyncBuilder, Submission.content, Submission.bytes, Outgoing.bytes,
      Request.body, h]

/-- The chunks of an upload are its body; an empty body is left out, and so is its length. -/
theorem content_upload (limit : Nat) (r : Request) :
    (uploadSubmission limit r).content =
      ⟨r.method, r.url, r.headers ++
        if r.body = [] then [] else [("Content-Length", toString r.body.length)], r.body⟩ := by
  by_cases empty : r.body = []
  · simp [uploadSubmission, asyncBuilder, Submission.content, Submission.bytes, empty]
  · have filled : r.body.length > 0 := List.length_pos_iff.mpr empty
    simp [uploadSubmission, asyncBuilder, Submission.content, Submission.bytes, Outgoing.bytes,
      uploadChunks, flatten_chunks (show 0 < chunkSize by decide), empty, filled]

theorem handOn_eq (pieces : List Bytes) (broken : Option Interruption) :
    handOn pieces broken =
      (pieces.map .chunk, match broken with
        | some i => .error i
        | none => .ok ()) := by
  induction pieces with
  | nil => cases broken <;> rfl
  | cons piece rest ih => simp [handOn, ih]

/-- A response that arrived is put together from its pieces, whoever waits for it. -/
theorem bind_whole (reply : Except Interruption Arrival) :
    (do
      let arrival ← reply
      let payload ← arrival.bytes
      pure (arrival.response payload)) = reply.bind Arrival.whole := by
  cases reply with
  | error i => rfl
  | ok a =>
    show (do let payload ← a.bytes; pure (a.response payload)) = a.whole
    cases h : a.bytes <;> simp [Arrival.whole, h, Except.map, bind, Except.bind, pure, Except.pure]

theorem whole_eq (a : Arrival) :
    a.whole = match a.broken with
      | some i => .error i
      | none => .ok (a.response a.pieces.flatten) := by
  cases h : a.broken <;> simp [Arrival.whole, Arrival.bytes, h, Except.map]

section
variable {client : Client} {r : Request} {reply : Except Interruption Arrival}

theorem sendBlocking_eq (replied : (client (blockingSubmission r)).reply = reply) :
    sendBlocking client r =
      (.submitted (blockingSubmission r) ::
        (client (blockingSubmission r)).sent.map .sent, reply.bind Arrival.whole) := by
  rw [sendBlocking, replied, bind_whole]

theorem sendAwaited_eq {limit : Nat}
    (replied : (client (awaitedSubmission limit r)).reply = reply) :
    sendAwaited client limit r =
      (.submitted (awaitedSubmission limit r) ::
        (client (awaitedSubmission limit r)).sent.map .sent, reply.bind Arrival.whole) := by
  rw [sendAwaited, replied, bind_whole]

theorem sendUpload_eq {limit : Nat} (replied : (client (uploadSubmission limit r)).reply = reply) :
    sendUpload client limit r =
      (.progress 0 r.body.length :: .submitted (uploadSubmission limit r) ::
        (sentCounts 0 ((uploadChunks r.body).take
          (client (uploadSubmission limit r)).taken)).map (.progress · r.body.length) ++
        (client (uploadSubmission limit r)).sent.map .sent, reply.bind Arrival.whole) := by
  rw [sendUpload, replied, bind_whole]

/-- A stream looks at the status before it looks at the body, and ends as the others end, but for
the body of a success. -/
theorem sendStreamed_eq (replied : (client (streamedSubmission r)).reply = reply) :
    sendStreamed client r =
      (.submitted (streamedSubmission r) ::
        ((client (streamedSubmission r)).sent.map .sent ++ (handedOn reply).map .chunk),
        (reply.bind Arrival.whole).map Response.streamed) := by
  rw [sendStreamed, replied]
  cases reply with
  | error i => simp [handedOn, Except.bind, Except.map]
  | ok a =>
    by_cases success : isSuccess a.status = true
    · cases broken : a.broken <;>
        simp [handedOn, success, broken, handOn_eq, whole_eq, Except.bind, Except.map,
          Response.streamed, Response.isSuccess, Arrival.response]
    · cases broken : a.broken <;>
        simp [handedOn, success, broken, whole_eq, Arrival.bytes, Except.bind, Except.map,
          Response.streamed, Response.isSuccess, Arrival.response]

end

end Http

namespace RepliesAlike

variable {config : Config} {clients : Http.Clients} {r : Request}
  {reply : Except Interruption Http.Arrival} (alike : RepliesAlike config clients r reply)
include alike

theorem result_of_ne {mode : Http.Mode} (h : mode ≠ .streamed) :
    (Http.sendBy config clients mode r).2 = reply.bind Http.Arrival.whole := by
  cases mode with
  | blocking => rw [Http.sendBy, Http.sendBlocking_eq alike.blocking]
  | awaited => rw [Http.sendBy, Http.sendAwaited_eq alike.awaited]
  | streamed => exact absurd rfl h
  | upload => rw [Http.sendBy, Http.sendUpload_eq alike.upload]

theorem result_streamed :
    (Http.sendBy config clients .streamed r).2 =
      (reply.bind Http.Arrival.whole).map Response.streamed := by
  rw [Http.sendBy, Http.sendStreamed_eq alike.streamed]

theorem pieces_sendBy (mode : Http.Mode) :
    pieces ((Http.sendBy config clients mode r).1.map .http) =
      if mode = .streamed then Http.handedOn reply else [] := by
  cases mode with
  | blocking =>
    rw [Http.sendBy, Http.sendBlocking_eq alike.blocking]
    simp [pieces, Event.piece?, List.filterMap_cons, List.filterMap_map, Function.comp_def]
  | awaited =>
    rw [Http.sendBy, Http.sendAwaited_eq alike.awaited]
    simp [pieces, Event.piece?, List.filterMap_cons, List.filterMap_map, Function.comp_def]
  | streamed =>
    rw [Http.sendBy, Http.sendStreamed_eq alike.streamed]
    simp [pieces, Event.piece?, List.filterMap_cons, List.filterMap_map, Function.comp_def]
  | upload =>
    rw [Http.sendBy, Http.sendUpload_eq alike.upload]
    simp [pieces, Event.piece?, List.filterMap_cons, List.filterMap_map, Function.comp_def]

/-- Only an upload hands over anything else than the others: the length of its body. -/
theorem contents_sendBy (mode : Http.Mode) :
    contents ((Http.sendBy config clients mode r).1.map .http) =
      [⟨r.method, r.url, r.headers ++
        if mode = .upload ∧ r.body ≠ [] then [("Content-Length", toString r.body.length)] else [],
        r.body⟩] := by
  cases mode with
  | blocking =>
    rw [Http.sendBy, Http.sendBlocking_eq alike.blocking]
    simp [contents, Event.content?, List.filterMap_map, Function.comp_def, Http.content_blocking]
  | awaited =>
    rw [Http.sendBy, Http.sendAwaited_eq alike.awaited]
    simp [contents, Event.content?, List.filterMap_map, Function.comp_def, Http.content_awaited]
  | streamed =>
    rw [Http.sendBy, Http.sendStreamed_eq alike.streamed]
    simp [contents, Event.content?, List.filterMap_map, Function.comp_def, Http.content_streamed]
  | upload =>
    rw [Http.sendBy, Http.sendUpload_eq alike.upload]
    simp [contents, Event.content?, List.filterMap_cons, List.filterMap_map, Function.comp_def,
      Http.content_upload]

end RepliesAlike

namespace Call

/-- A prepared call that is sent is nothing but its request, sent and settled. -/
theorem invokeBy_of_prepared {c : Call} {r : Request} (h : c.stage = .prepared r) (s : Service)
    (m : Moment) (mode : Http.Mode) (clients : Http.Clients) :
    invokeBy s m mode false clients c =
      let sent := attemptBy s.endpoint.config mode false clients r
      ⟨⟨c.draft, (settle r sent.2).1⟩,
        sent.1 ++ endRecord s.endpoint.config.debug r (some sent.2), (settle r sent.2).2⟩ := by
  have kept := prepare_of_prepared (s := s) (m := m) h
  rw [invokeBy_of_ok mode false clients (congrArg Outcome.result kept), kept]
  simp

/-- Where a stream leaves a call, against where the same reply leaves it otherwise. -/
theorem settle_streamed (r : Request) (result : Except Error Response) :
    (settle r (result.map Response.streamed)).1.state = (settle r result).1.state ∧
      (settle r (result.map Response.streamed)).1.request? = (settle r result).1.request? ∧
      (settle r (result.map Response.streamed)).1.response? =
        (settle r result).1.response?.map Response.streamed ∧
      (settle r (result.map Response.streamed)).2 =
        (settle r result).2.map Response.streamed := by
  cases result with
  | error e => cases e <;> exact ⟨rfl, rfl, rfl, rfl⟩
  | ok response =>
    by_cases success : response.isSuccess = true
    · have still := response.isSuccess_streamed.trans success
      simp [settle, Except.map, Response.checkStatus, success, still, Stage.state, Stage.request?,
        Stage.response?]
    · have whole : response.streamed = response := if_neg success
      simp [settle, Except.map, Response.checkStatus, success, whole, Stage.state, Stage.request?,
        Stage.response?]

/-- A call keeps the response that came, and no other. -/
theorem response?_settle (r : Request) (result : Except Error Response) (response : Response) :
    (settle r result).1.response? = some response ↔ result = .ok response := by
  rcases settle_cases r result with ⟨got, rfl, -, ends⟩ | ⟨got, rfl, -, ends⟩ | ⟨rfl, ends⟩ |
    ⟨e, rfl, -, ends⟩ <;> rw [ends] <;> simp [Stage.response?]

/-- What came of a request, unless no client could be had. -/
def resultOf (config : Config) (result : Except Interruption Response) : Except Error Response :=
  match clientFault config with
  | some e => .error e
  | none => result.mapError Interruption.error

theorem resultOf_streamed (config : Config) (result : Except Interruption Response) :
    resultOf config (result.map Response.streamed) =
      (resultOf config result).map Response.streamed := by
  cases h : clientFault config with
  | some e => simp [resultOf, h, Except.map]
  | none => cases result <;> simp [resultOf, h, Except.map, mapError_ok, mapError_error]

/-- The response that is kept is the one that came in, its body put together. -/
theorem resultOf_whole_eq_ok_iff {config : Config} {reply : Except Interruption Http.Arrival}
    {response : Response} :
    resultOf config (reply.bind Http.Arrival.whole) = .ok response ↔
      clientFault config = none ∧ ∃ a, reply = .ok a ∧ a.broken = none ∧
        response = ⟨a.status, Http.reason a.status, a.headers, a.pieces.flatten⟩ := by
  cases h : clientFault config with
  | some e => simp [resultOf, h]
  | none =>
    cases reply with
    | error i => simp [resultOf, h, Except.bind, mapError_error]
    | ok a =>
      cases broken : a.broken with
      | some i => simp [resultOf, h, Except.bind, Http.whole_eq, broken, mapError_error]
      | none =>
        simp [resultOf, h, Except.bind, Http.whole_eq, broken, mapError_ok, Http.Arrival.response,
          eq_comm]

theorem attemptBy_eq_sent (config : Config) (mode : Http.Mode) (clients : Http.Clients)
    (r : Request) :
    attemptBy config mode false clients r =
      (if clientFault config = none then
          .handedOver mode r :: (Http.sendBy config clients mode r).1.map .http
        else [], resultOf config (Http.sendBy config clients mode r).2) := by
  rw [attemptBy_eq]
  cases h : clientFault config <;> simp [handOver, resultOf, h]

/-- What a sending leaves on record hides from whoever looks at the request and its reply. -/
theorem filterMap_endRecord {α : Type} {f : Event → Option α} (h : ∀ x, f (.logged x) = none)
    (debug : DebugFlags) (r : Request) (ending : Option (Except Error Response)) :
    (endRecord debug r ending).filterMap f = [] := by
  cases ending with
  | none => rfl
  | some result => cases calls : debug.calls <;> simp [endRecord, calls, h]

section
variable {s : Service} {m : Moment} {c : Call} {r : Request} {clients : Http.Clients}
  {reply : Except Interruption Http.Arrival} (prepared : c.stage = .prepared r)
  (alike : RepliesAlike s.endpoint.config clients r reply)
include prepared alike

theorem contents_invokeBy (mode : Http.Mode) :
    contents (invokeBy s m mode false clients c).events =
      if clientFault s.endpoint.config = none then
        [⟨r.method, r.url, r.headers ++
          if mode = .upload ∧ r.body ≠ [] then [("Content-Length", toString r.body.length)] else [],
          r.body⟩]
      else [] := by
  rw [invokeBy_of_prepared prepared, attemptBy_eq_sent, contents, List.filterMap_append,
    filterMap_endRecord fun _ => rfl, List.append_nil]
  by_cases usable : clientFault s.endpoint.config = none
  · rw [if_pos usable, if_pos usable]
    exact alike.contents_sendBy mode
  · rw [if_neg usable, if_neg usable]
    rfl

theorem pieces_invokeBy (mode : Http.Mode) :
    pieces (invokeBy s m mode false clients c).events =
      if clientFault s.endpoint.config = none ∧ mode = .streamed then Http.handedOn reply
      else [] := by
  rw [invokeBy_of_prepared prepared, attemptBy_eq_sent, pieces, List.filterMap_append,
    filterMap_endRecord fun _ => rfl, List.append_nil]
  by_cases usable : clientFault s.endpoint.config = none
  · have sent := alike.pieces_sendBy mode
    simpa [pieces, usable, List.filterMap_cons, Event.piece?] using sent
  · simp [usable]

/-- Every way of sending but the stream ends alike. -/
theorem invokeBy_of_ne (mode : Http.Mode) (h : mode ≠ .streamed) :
    let result := resultOf s.endpoint.config (reply.bind Http.Arrival.whole)
    (invokeBy s m mode false clients c).state = ⟨c.draft, (settle r result).1⟩ ∧
      (invokeBy s m mode false clients c).result = (settle r result).2 := by
  rw [invokeBy_of_prepared prepared, attemptBy_eq_sent, alike.result_of_ne h]
  exact ⟨rfl, rfl⟩

theorem invokeBy_streamed :
    let result := resultOf s.endpoint.config (reply.bind Http.Arrival.whole)
    (invokeBy s m .streamed false clients c).state =
        ⟨c.draft, (settle r (result.map Response.streamed)).1⟩ ∧
      (invokeBy s m .streamed false clients c).result =
        (settle r (result.map Response.streamed)).2 := by
  rw [invokeBy_of_prepared prepared, attemptBy_eq_sent, alike.result_streamed, resultOf_streamed]
  exact ⟨rfl, rfl⟩

end

end Call

/-- One prepared request sent in each of the four ways, with the reply that it gets. -/
structure ModesAgree (config : Config) (r : Request) (reply : Except Interruption Http.Arrival)
    (blocking awaited streamed upload : Outcome Call Response) : Prop where
  submitted : ∀ sent ∈ [blocking, awaited, streamed], contents sent.events =
    if Call.clientFault config = none then [⟨r.method, r.url, r.headers, r.body⟩] else []
  /-- The length of a body that is not empty is all that an upload adds. -/
  uploaded : contents upload.events =
    if Call.clientFault config = none then
      [⟨r.method, r.url, r.headers ++
        if r.body = [] then [] else [("Content-Length", toString r.body.length)], r.body⟩]
    else []
  sameAsAwaited : awaited.state = blocking.state ∧ awaited.result = blocking.result
  sameAsUpload : upload.state = blocking.state ∧ upload.result = blocking.result
  unstreamed : ∀ sent ∈ [blocking, awaited, upload], pieces sent.events = []
  streamedState : streamed.state.state = blocking.state.state ∧
    streamed.state.request? = blocking.state.request?
  streamedResult : streamed.result = blocking.result.map Response.streamed
  streamedResponse :
    streamed.state.response? = blocking.state.response?.map Response.streamed
  /-- A body that was kept by the others has been handed on as a whole, or not at all. -/
  whole : ∀ response, blocking.state.response? = some response →
    if response.isSuccess then (pieces streamed.events).flatten = response.payload
    else pieces streamed.events = []
  unsuccessful : (∀ a, reply = .ok a → Http.isSuccess a.status = false) →
    pieces streamed.events = []
  stored : Call.clientFault config = none → ∀ a, reply = .ok a → a.broken = none →
    blocking.state.response? =
      some ⟨a.status, Http.reason a.status, a.headers, a.pieces.flatten⟩

/-- A prepared call can be sent in any of the four ways: where the clients reply alike to what is
handed over, the same request goes out, the call ends the same, and what a stream does not keep it
has handed on. -/
theorem modes_agree (s : Service) (m : Moment) {c : Call} {r : Request}
    (prepared : c.stage = .prepared r) {clients : Http.Clients}
    {reply : Except Interruption Http.Arrival}
    (alike : RepliesAlike s.endpoint.config clients r reply) :
    ModesAgree s.endpoint.config r reply
      (Call.invokeBlocking s m clients.blocking c) (Call.invokeAwaited s m false clients.async c)
      (Call.invokeStreamed s m false clients.async c)
      (Call.invokeUpload s m false clients.async c) := by
  -- the four written out are the four of `invokeBy`, whose endings were compared one by one
  show ModesAgree s.endpoint.config r reply (Call.invokeBy s m .blocking false clients c)
    (Call.invokeBy s m .awaited false clients c) (Call.invokeBy s m .streamed false clients c)
    (Call.invokeBy s m .upload false clients c)
  have submitted := Call.contents_invokeBy (m := m) prepared alike
  have handedOn := Call.pieces_invokeBy (m := m) prepared alike
  have ends := Call.invokeBy_of_ne (m := m) prepared alike
  obtain ⟨state, result⟩ := ends .blocking (by decide)
  obtain ⟨streamedState, streamedResult⟩ := Call.invokeBy_streamed (m := m) prepared alike
  obtain ⟨sameState, sameRequest, sameResponse, sameResult⟩ := Call.settle_streamed r
    (Call.resultOf s.endpoint.config (reply.bind Http.Arrival.whole))
  have kept : ∀ response,
      (Call.invokeBy s m .blocking false clients c).state.response? = some response ↔
        Call.clientFault s.endpoint.config = none ∧ ∃ a, reply = .ok a ∧ a.broken = none ∧
          response = ⟨a.status, Http.reason a.status, a.headers, a.pieces.flatten⟩ := by
    intro response
    rw [state]
    exact (Call.response?_settle ..).trans Call.resultOf_whole_eq_ok_iff
  constructor
  case submitted => simp [submitted]
  case uploaded => simp [submitted]
  case sameAsAwaited =>
    obtain ⟨state', result'⟩ := ends .awaited (by decide)
    exact ⟨state'.trans state.symm, result'.trans result.symm⟩
  case sameAsUpload =>
    obtain ⟨state', result'⟩ := ends .upload (by decide)
    exact ⟨state'.trans state.symm, result'.trans result.symm⟩
  case unstreamed => simp [handedOn]
  case streamedState =>
    rw [streamedState, state]
    exact ⟨sameState, sameRequest⟩
  case streamedResult =>
    rw [streamedResult, result]
    exact sameResult
  case streamedResponse =>
    rw [streamedState, state]
    exact sameResponse
  case whole =>
    intro response stored
    obtain ⟨usable, a, rfl, -, rfl⟩ := (kept response).mp stored
    by_cases success : Http.isSuccess a.status = true <;>
      simp [handedOn, usable, Http.handedOn, success, Response.isSuccess]
  case unsuccessful =>
    intro none_
    rw [handedOn]
    cases reply with
    | error i => simp [Http.handedOn]
    | ok a => simp [Http.handedOn, none_]
  case stored =>
    intro usable a got unbroken
    exact (kept _).mpr ⟨usable, a, got, unbroken, rfl⟩

/-- A form that is answered in two pieces. -/
def storedForm : Request :=
  ⟨.post, "http://api.example.com/users", [("X-Trace", "1")], some (.form "id=7")⟩

def storingNetwork : Http.Network :=
  .scripted [⟨201, [], [Utf8.encode "cre", Utf8.encode "ated"], none⟩]

theorem storedForm_agree :
    let s : Service := ⟨.ofConfig (.ofTemplate "http://api.example.com"), none⟩
    let m : Moment := ⟨⟨1191242096, 0⟩, "kllo9940pd9333jh", "boundary"⟩
    let clients := storingNetwork.clients s.endpoint.config
    let c : Call := ⟨.empty, .prepared storedForm⟩
    let streamed := Call.invokeStreamed s m false clients.async c
    let upload := Call.invokeUpload s m false clients.async c
    (∃ reply, ModesAgree s.endpoint.config storedForm reply
        (Call.invokeBlocking s m clients.blocking c)
        (Call.invokeAwaited s m false clients.async c) streamed upload) ∧
      (contents upload.events).map (·.headers) = [[("X-Trace", "1"), ("Content-Length", "4")]] ∧
      pieces streamed.events = [Utf8.encode "cre", Utf8.encode "ated"] ∧
      upload.state.response?.map (·.payload) = some (Utf8.encode "created") := by
  intro s m clients c streamed upload
  have plain : ∀ replies, storingNetwork = .scripted replies →
      ∀ reply ∈ replies, reply.isPlain = true := by
    rintro replies ⟨⟩
    decide
  have alike := Http.repliesAlike_of_plain plain s.endpoint.config storedForm
  exact ⟨⟨_, modes_agree s m rfl alike⟩, by decide +kernel, by decide +kernel, by decide +kernel⟩

end SignedRest
