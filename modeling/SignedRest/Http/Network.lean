import SignedRest.Http.Sending

/-! What requests meet: a network that nothing leaves, or one that answers them one after the
other. A client follows redirects on the way, nine at most. -/
namespace SignedRest.Http

inductive ReplyFault
  | close
  | garbage
  /-- Nothing comes, until the connection is closed. -/
  | hang
  /-- The body breaks off. -/
  | truncate
  /-- The call is cancelled while the request is under way. -/
  | cancel
  deriving DecidableEq, Repr

structure Reply where
  status : Nat
  headers : List (String × Bytes)
  /-- The body in the pieces in which it arrives. -/
  body : List Bytes
  fault : Option ReplyFault
  deriving DecidableEq, Repr

inductive Network
  | unreachable
  /-- Once the answers are used up, connections are closed. -/
  | scripted (replies : List Reply)
  deriving Repr

/-- Where a reply sends the request on to. -/
def target? (w : Wire) (r : Reply) : Option Url :=
  if w.isRedirect r.status then
    match r.headers.find? (fun h => Ascii.sameLetters h.1 "location") with
    | some (_, value) =>
      (Utf8.decode? value).bind fun text => (w.url.join text).toOption
    | none => none
  else none

def maxRedirects : Nat := 10

/-- The requests sent, and the last of them with its reply. Only who has a limit of time gives up
on a reply that does not come. -/
def follow (isLimited : Bool) :
    (count : Nat) → List Reply → Wire → List Wire × Except Interruption (Wire × Reply)
  | _, [], w => ([w], .error (.fault .request))
  | count, r :: rest, w =>
    match r.fault with
    | some .close | some .garbage => ([w], .error (.fault .request))
    | some .hang => ([w], .error (.fault (if isLimited then .timeout else .request)))
    | some .cancel => ([w], .error .cancelled)
    | _ =>
      match target? w r with
      | none => ([w], .ok (w, r))
      | some url =>
        if count + 1 = maxRedirects then ([w], .error (.fault .redirect))
        else if !url.isHttp then ([w], .error (.fault .other))
        else
          let more := follow isLimited (count + 1) rest (w.redirected r.status url)
          (w :: more.1, more.2)

/-- The pieces of the body, none where the request or the status forbids one. -/
def bodyOf (w : Wire) (r : Reply) : List Bytes :=
  if w.method = "HEAD" || isBodiless r.status then [] else r.body

def breaksOff (w : Wire) (r : Reply) : Bool :=
  r.fault = some .truncate && !(w.method = "HEAD" || isBodiless r.status)

def Arrival.ofReply (w : Wire) (r : Reply) : Arrival :=
  ⟨r.status, r.headers, bodyOf w r, if breaksOff w r then some (.fault .body) else none⟩

/-- A client with a limit of its own, for requests that come without one. -/
def Network.client (network : Network) (agent : Option String) (limit : Option Nat) : Client :=
  fun s =>
    match Wire.ofSubmission? agent s with
    | none => ⟨0, [], .error (.fault .other)⟩
    | some w =>
      match network with
      | .unreachable => ⟨0, [], .error (.fault .connect)⟩
      | .scripted replies =>
        let way := follow (s.limit <|> limit).isSome 0 replies w
        ⟨s.pieces.length, way.1, way.2.map fun last => .ofReply last.1 last.2⟩

/-- The clients that a configuration makes. Requests that do not block bring their own limits. -/
def Network.clients (network : Network) (config : Config) : Clients :=
  ⟨network.client config.userAgent (some config.timeoutMs), network.client config.userAgent none⟩

end SignedRest.Http
