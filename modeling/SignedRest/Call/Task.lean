import SignedRest.Call.Invoke

/-! Calls sent in the background. A task owns its call and gives it back, with the outcome, by
running its callback. Cancellation is looked at before anything else whenever the task gets to
run. -/
namespace SignedRest

/-- What a callback receives. -/
structure Delivery where
  call : Call
  result : Except Error Unit

inductive TaskPhase
  | waiting
  | sending (r : Request)
  | finished

structure Task where
  call : Call
  phase : TaskPhase
  handleCancelled : Bool
  ownerCancelled : Bool
  /-- What the transport has answered, with the events on the way. -/
  arrived : Option (List Event × Except Error Response)
  deliveries : List Delivery
  events : List Event

namespace Task

inductive Signal
  | cancelHandle
  | cancelOwner
  | arrive (events : List Event) (result : Except Error Response)
  /-- The task gets to run. -/
  | poll (m : Moment)

def spawn (c : Call) : Task := ⟨c, .waiting, false, false, none, [], []⟩

def isCancelled (t : Task) : Bool := t.handleCancelled || t.ownerCancelled

def deliver (t : Task) (o : Outcome Call Response) : Task :=
  { t with call := o.state, phase := .finished, events := t.events ++ o.events
           deliveries := t.deliveries ++ [⟨o.state, o.result.map fun _ => ()⟩] }

/-- The first run prepares the call and hands it over, unless something ends it before. -/
def start (s : Service) (m : Moment) (t : Task) : Task :=
  let o := Call.begin s m t.call
  match o.result with
  | .error e => t.deliver ⟨o.state, o.events, .error e⟩
  | .ok r =>
    let t := { t with call := o.state, events := t.events ++ o.events }
    match Call.clientFault s.endpoint.config with
    | some e => t.deliver (Call.finish s.endpoint.config.debug r (.error e) t.call)
    | none =>
      if t.isCancelled then
        t.deliver (Call.finish s.endpoint.config.debug r (.error .cancelled) t.call)
      else { t with phase := .sending r, events := t.events ++ [.handedOver .awaited r] }

/-- A later run ends the task when it was cancelled or an answer has arrived. -/
def resume (s : Service) (r : Request) (t : Task) : Task :=
  if t.isCancelled then
    t.deliver (Call.finish s.endpoint.config.debug r (.error .cancelled) t.call)
  else
    match t.arrived with
    | none => t
    | some (events, result) =>
      { t with events := t.events ++ events }.deliver
        (Call.finish s.endpoint.config.debug r result t.call)

def step (s : Service) (t : Task) : Signal → Task
  | .cancelHandle => { t with handleCancelled := true }
  | .cancelOwner => { t with ownerCancelled := true }
  | .arrive events result =>
    match t.phase with
    | .sending _ => { t with arrived := t.arrived <|> some (events, result) }
    | _ => t
  | .poll m =>
    match t.phase with
    | .waiting => t.start s m
    | .sending r => t.resume s r
    | .finished => t

def run (s : Service) (t : Task) (signals : List Signal) : Task := signals.foldl (step s) t

/-- The answer of a network to the request that the task is sending. -/
def answer (s : Service) (network : Http.Network) (t : Task) : Option Signal :=
  match t.phase with
  | .sending r =>
    let config := s.endpoint.config
    let sent := Http.sendAwaited (network.clients config).async config.timeoutMs r
    some (.arrive (sent.1.map .http) (sent.2.mapError Interruption.error))
  | _ => none

/-- Runs a task to its end, with what is signalled before it first runs. -/
def complete (s : Service) (m : Moment) (network : Http.Network) (before : List Signal)
    (c : Call) : Task :=
  let t := (spawn c).run s (before ++ [.poll m])
  t.run s ((t.answer s network).toList ++ [.poll m])

end Task
end SignedRest
