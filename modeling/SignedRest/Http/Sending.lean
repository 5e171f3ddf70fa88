import SignedRest.Chunks
import SignedRest.Config
import SignedRest.Http.Response
import SignedRest.Http.Wire

/-! The four ways of sending a request: waiting for the response, awaiting it, handing its body on
piece by piece, and reporting how much of the request has gone out. A client does the rest. -/
namespace SignedRest

inductive Interruption
  | fault (fault : TransportFault)
  | cancelled
  deriving DecidableEq, Repr

def Interruption.error : Interruption → Error
  | .fault f => .transport f
  | .cancelled => .cancelled

namespace Http

inductive Mode
  | blocking | awaited | streamed | upload
  deriving DecidableEq, Repr

structure Arrival where
  status : Nat
  headers : List (String × Bytes)
  pieces : List Bytes
  /-- Why the body ends too early, where it does. -/
  broken : Option Interruption
  deriving DecidableEq, Repr

/-- What a client makes of a submission. -/
structure Carriage where
  /-- How many pieces of a stream were taken. -/
  taken : Nat
  sent : List Wire
  reply : Except Interruption Arrival

abbrev Client := Submission → Carriage

/-- A client for calls that block their caller, and one for all others. -/
structure Clients where
  blocking : Client
  async : Client

namespace Arrival

def bytes (a : Arrival) : Except Interruption Bytes :=
  match a.broken with
  | some i => .error i
  | none => .ok a.pieces.flatten

def response (a : Arrival) (payload : Bytes) : Response :=
  ⟨a.status, reason a.status, a.headers, payload⟩

end Arrival

/-- What can be seen of a request while it is under way. -/
inductive Happening
  /-- So many bytes of the body have gone out, of so many. -/
  | progress (sent total : Nat)
  /-- A client was asked to send this. -/
  | submitted (s : Submission)
  | sent (w : Wire)
  /-- A piece of the response's body has been handed on. -/
  | chunk (bytes : Bytes)
  deriving DecidableEq, Repr

abbrev Sent := List Happening × Except Interruption Response

def blockingSubmission (r : Request) : Submission :=
  ⟨r.method, r.url, r.headers, r.payload.map fun p => .whole p.body, none⟩

def sendBlocking (client : Client) (r : Request) : Sent :=
  let s := blockingSubmission r
  let carried := client s
  (.submitted s :: carried.sent.map .sent, do
    let arrival ← carried.reply
    let payload ← arrival.bytes
    pure (arrival.response payload))

def asyncBuilder (r : Request) : Submission := ⟨r.method, r.url, r.headers, none, none⟩

def awaitedSubmission (limit : Nat) (r : Request) : Submission :=
  let builder := { asyncBuilder r with limit := some limit }
  match r.payload with
  | some p => { builder with body := some (.whole p.body) }
  | none => builder

def sendAwaited (client : Client) (limit : Nat) (r : Request) : Sent :=
  let s := awaitedSubmission limit r
  let carried := client s
  (.submitted s :: carried.sent.map .sent, do
    let arrival ← carried.reply
    let payload ← arrival.bytes
    pure (arrival.response payload))

/-- There is no limit of time for a stream. -/
def streamedSubmission (r : Request) : Submission :=
  match r.payload with
  | some p => { asyncBuilder r with body := some (.whole p.body) }
  | none => asyncBuilder r

/-- Hands pieces on as they come, as far as they come. -/
def handOn : List Bytes → Option Interruption → List Happening × Except Interruption Unit
  | [], none => ([], .ok ())
  | [], some i => ([], .error i)
  | piece :: rest, broken => (.chunk piece :: (handOn rest broken).1, (handOn rest broken).2)

/-- Only the body of a success is handed on; that of any other response is kept, for the error. -/
def sendStreamed (client : Client) (r : Request) : Sent :=
  let s := streamedSubmission r
  let carried := client s
  let before := .submitted s :: carried.sent.map .sent
  match carried.reply with
  | .error i => (before, .error i)
  | .ok arrival =>
    if !isSuccess arrival.status then
      (before, arrival.bytes.map arrival.response)
    else
      let (chunks, ending) := handOn arrival.pieces arrival.broken
      (before ++ chunks, ending.map fun _ => arrival.response [])

def chunkSize : Nat := 8192

def uploadChunks (body : Bytes) : List Bytes := chunks chunkSize body

def sentCounts : (sent : Nat) → List Bytes → List Nat
  | _, [] => []
  | sent, c :: rest => (sent + c.length) :: sentCounts (sent + c.length) rest

/-- A body that is not empty goes out in chunks, after a header that tells its length. -/
def uploadSubmission (limit : Nat) (r : Request) : Submission :=
  let builder := { asyncBuilder r with limit := some limit }
  if r.body.length > 0 then
    { builder with
      headers := builder.headers ++ [("Content-Length", toString r.body.length)]
      body := some (.stream (uploadChunks r.body)) }
  else builder

def sendUpload (client : Client) (limit : Nat) (r : Request) : Sent :=
  let s := uploadSubmission limit r
  let total := r.body.length
  let carried := client s
  let counts := sentCounts 0 ((uploadChunks r.body).take carried.taken)
  (.progress 0 total :: .submitted s :: counts.map (.progress · total) ++ carried.sent.map .sent, do
    let arrival ← carried.reply
    let payload ← arrival.bytes
    pure (arrival.response payload))

def sendBy (config : Config) (clients : Clients) (mode : Mode) (r : Request) : Sent :=
  match mode with
  | .blocking => sendBlocking clients.blocking r
  | .awaited => sendAwaited clients.async config.timeoutMs r
  | .streamed => sendStreamed clients.async r
  | .upload => sendUpload clients.async config.uploadTimeoutMs r

end Http
end SignedRest
