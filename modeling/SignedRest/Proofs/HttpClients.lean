import SignedRest.Http.Network
import SignedRest.Proofs.HeaderLookup
import SignedRest.Proofs.Utf8

/-! Clients that reply alike to a request, however it is sent. A network does so unless it sends
the body of an upload on, which is a stream and cannot go out twice, or never replies, which only a
stream of the response waits for. -/
namespace SignedRest

/-- One reply to all four submissions of a request. -/
structure RepliesAlike (config : Config) (clients : Http.Clients) (r : Request)
    (reply : Except Interruption Http.Arrival) : Prop where
  blocking : (clients.blocking (Http.blockingSubmission r)).reply = reply
  awaited : (clients.async (Http.awaitedSubmission config.timeoutMs r)).reply = reply
  streamed : (clients.async (Http.streamedSubmission r)).reply = reply
  upload : (clients.async (Http.uploadSubmission config.uploadTimeoutMs r)).reply = reply

namespace Http

/-- What tells them apart is in their headers, or in the way that their body is held. -/
structure Wire.Resembles (v w : Wire) : Prop where
  method : v.method = w.method
  url : v.url = w.url

theorem Wire.Resembles.redirected {v w : Wire} (h : v.Resembles w) (status : Nat) (url : Url) :
    (v.redirected status url).Resembles (w.redirected status url) := by
  have referred : ∀ x : Wire, (x.withReferer url).method = x.method := by
    intro x
    cases source : referer? x.url url <;> simp [withReferer, source, dropHeaders]
  have method : (v.reshaped status).method = (w.reshaped status).method := by
    by_cases keeps : keepsMethod status = true <;> simp [reshaped, keeps, h.method, dropHeaders]
  by_cases same : sameServer w.url url = true
  · constructor <;> simp [Wire.redirected, h.url, same, method, referred]
  · constructor <;> simp [Wire.redirected, h.url, same, method, referred, dropHeaders]

theorem arrival_congr {v w : Wire} (h : v.Resembles w) (r : Reply) :
    Arrival.ofReply v r = Arrival.ofReply w r := by
  simp [Arrival.ofReply, bodyOf, breaksOff, h.method]

/-- A reply that asks for no body again, and does not keep its receiver waiting. -/
def Reply.isPlain (r : Reply) : Bool := !Wire.keepsMethod r.status && r.fault ≠ some .hang

/-- Redirects lead to the same reply. -/
theorem follow_congr {v w : Wire} (h : v.Resembles w) {replies : List Reply}
    (plain : ∀ r ∈ replies, r.isPlain = true) (limited limited' : Bool) (count : Nat) :
    (follow limited count replies v).2.map (fun last => Arrival.ofReply last.1 last.2) =
      (follow limited' count replies w).2.map fun last => .ofReply last.1 last.2 := by
  -- the two requests stay alike from redirect to redirect, since no body is asked for again
  induction replies generalizing v w count with
  | nil => rfl
  | cons r rest ih =>
    obtain ⟨own, others⟩ := List.forall_mem_cons.mp plain
    simp only [Reply.isPlain, Bool.and_eq_true, Bool.not_eq_true', decide_eq_true_eq] at own
    obtain ⟨changes, replies⟩ := own
    have target : target? v r = target? w r := by
      simp [target?, Wire.isRedirect, changes, h.url]
    simp only [follow, target]
    split
    · rfl
    · rfl
    · exact absurd ‹_› replies
    · rfl
    · cases target? w r with
      | none => exact congrArg Except.ok (arrival_congr h r)
      | some url =>
        by_cases last : count + 1 = maxRedirects
        · simp [last]
        · by_cases foreign : url.isHttp = true
          · simpa [last, foreign] using ih (h.redirected r.status url) others (count + 1)
          · simp [last, foreign]

theorem isValue_toString (n : Nat) : isValue (toString n) = true := by
  have digit : ∀ c ∈ Nat.toDigits 10 n, 0x30 ≤ c.toNat ∧ c.toNat ≤ 0x39 := by
    intro c hc
    have h := Nat.isDigit_of_mem_toDigits (by decide) (by decide) hc
    simp only [Char.isDigit, Bool.and_eq_true, decide_eq_true_eq, ge_iff_le,
      UInt32.le_iff_toNat_le] at h
    exact h
  show (Utf8.encode (String.ofList (Nat.toDigits 10 n))).all isValueByte = true
  rw [Utf8.encode_ascii fun c hc => Nat.lt_of_le_of_lt (digit c hc).2 (by decide), Utf8.narrow,
    List.all_map]
  apply List.all_eq_true.mpr
  intro c hc
  obtain ⟨low, high⟩ := digit c hc
  have byte : (UInt8.ofNat c.toNat).toNat = c.toNat := Utf8.toNat_ofNat_of_lt (by omega)
  simp only [Function.comp_apply, isValueByte, Bool.or_eq_true, Bool.and_eq_true,
    decide_eq_true_eq, UInt8.le_iff_toNat_le, ne_eq, ← UInt8.toNat_inj, byte]
  right
  constructor
  · exact Nat.le_trans (by decide) low
  · intro h
    rw [h] at high
    exact absurd high (by decide)

/-- Submissions of one request: sound headers may be added, and the body be held otherwise. -/
structure Submission.Resembles (t s : Submission) : Prop where
  method : t.method = s.method
  url : t.url = s.url
  headers : t.headers.all isHeader = s.headers.all isHeader

theorem ofSubmission?_resembles {s t : Submission} (h : t.Resembles s) (agent : Option String) :
    (Wire.ofSubmission? agent s = none ∧ Wire.ofSubmission? agent t = none) ∨
    ∃ v w, Wire.ofSubmission? agent s = some w ∧ Wire.ofSubmission? agent t = some v ∧
      v.Resembles w := by
  cases parsed : Url.parse s.url with
  | error e => exact .inl (by simp [Wire.ofSubmission?, h.url, parsed])
  | ok u =>
    by_cases sendable : (Wire.isSendable u && s.headers.all isHeader) = true
    · right
      simp only [Wire.ofSubmission?, h.url, parsed, h.headers, sendable, if_true, Option.some.injEq]
      exact ⟨_, _, rfl, rfl, ⟨congrArg Method.name h.method, rfl⟩⟩
    · left
      simp only [Wire.ofSubmission?, h.url, parsed, h.headers, if_neg sendable, and_self]

theorem awaited_resembles (limit : Nat) (r : Request) :
    (awaitedSubmission limit r).Resembles (blockingSubmission r) := by
  cases h : r.payload <;> constructor <;>
    simp [awaitedSubmission, blockingSubmission, asyncBuilder, h]

theorem streamed_resembles (r : Request) :
    (streamedSubmission r).Resembles (blockingSubmission r) := by
  cases h : r.payload <;> constructor <;>
    simp [streamedSubmission, blockingSubmission, asyncBuilder, h]

theorem upload_resembles (limit : Nat) (r : Request) :
    (uploadSubmission limit r).Resembles (blockingSubmission r) := by
  have sound : isHeader ("Content-Length", toString r.body.length) = true := by
    rw [isHeader, isValue_toString, Bool.and_true]
    show Ascii.isToken "Content-Length" = true
    decide
  by_cases filled : r.body.length > 0
  · refine ⟨?_, ?_, ?_⟩ <;> simp only [uploadSubmission, if_pos filled, asyncBuilder,
      blockingSubmission, List.all_append, List.all_cons, sound, List.all_nil, Bool.and_true]
  · refine ⟨?_, ?_, ?_⟩ <;> simp only [uploadSubmission, if_neg filled, asyncBuilder,
      blockingSubmission]

section
variable {network : Network}
  (plain : ∀ replies, network = .scripted replies → ∀ r ∈ replies, r.isPlain = true)
include plain

theorem reply_congr {s t : Submission} (h : t.Resembles s) (agent : Option String)
    (limit limit' : Option Nat) :
    (network.client agent limit t).reply = (network.client agent limit' s).reply := by
  rcases ofSubmission?_resembles h agent with ⟨first, second⟩ | ⟨v, w, first, second, same⟩
  · simp only [Network.client, first, second]
  · cases network with
    | unreachable => simp only [Network.client, first, second]
    | scripted replies =>
      simpa only [Network.client, first, second] using
        follow_congr same (plain replies rfl) _ _ 0

theorem repliesAlike_of_plain (config : Config) (r : Request) :
    RepliesAlike config (network.clients config) r
      ((network.clients config).blocking (blockingSubmission r)).reply := by
  constructor
  case blocking => rfl
  case awaited => exact reply_congr plain (awaited_resembles ..) config.userAgent _ _
  case streamed => exact reply_congr plain (streamed_resembles ..) config.userAgent _ _
  case upload => exact reply_congr plain (upload_resembles ..) config.userAgent _ _

end

theorem isStream_of_ofSubmission? {agent : Option String} {s : Submission} {w : Wire}
    (h : Wire.ofSubmission? agent s = some w) : w.isStream = s.isStream := by
  simp only [Wire.ofSubmission?] at h
  split at h
  · cases h
  · split at h
    · rw [← Option.some.inj h]
    · cases h

/-- A stream is not sent a second time: who asks for that has had the last word. -/
theorem reply_upload_of_keepsMethod {config : Config} {r : Request} {w : Wire}
    (sendable : Wire.ofSubmission? config.userAgent (uploadSubmission config.uploadTimeoutMs r) =
      some w) (filled : r.body ≠ []) {reply : Reply} (keeps : Wire.keepsMethod reply.status = true)
    (answers : reply.fault = none) (rest : List Reply) :
    (((Network.scripted (reply :: rest)).clients config).async
        (uploadSubmission config.uploadTimeoutMs r)).reply = .ok (.ofReply w reply) := by
  have length : r.body.length > 0 := List.length_pos_iff.mpr filled
  have stream : w.isStream = true := by
    rw [isStream_of_ofSubmission? sendable]
    simp [uploadSubmission, length, Submission.isStream]
  have other : [301, 302, 303].contains reply.status = false := by
    simp only [Wire.keepsMethod, Bool.or_eq_true, decide_eq_true_eq] at keeps
    rcases keeps with h | h <;> simp [h]
  have target : target? w reply = none := by
    simp only [target?, Wire.isRedirect, other, keeps, stream, Bool.not_true, Bool.and_false,
      Bool.or_false, Bool.false_eq_true, if_false]
  simp [Network.clients, Network.client, sendable, follow, answers, target, Except.map]

/-- A server that never replies is given up in time, but not by who streams the response. -/
theorem sendBy_of_hang {config : Config} {r : Request} {w : Wire}
    (sendable : Wire.ofSubmission? config.userAgent (blockingSubmission r) = some w)
    {reply : Reply} (hangs : reply.fault = some .hang) (rest : List Reply) (mode : Mode) :
    (sendBy config ((Network.scripted (reply :: rest)).clients config) mode r).2 =
      .error (.fault (if mode = .streamed then .request else .timeout)) := by
  have reply : ∀ {s : Submission}, s.Resembles (blockingSubmission r) → ∀ limit,
      ((Network.scripted (reply :: rest)).client config.userAgent limit s).reply =
        .error (.fault (if (s.limit <|> limit).isSome then .timeout else .request)) := by
    intro s same limit
    rcases ofSubmission?_resembles same config.userAgent with ⟨first, -⟩ | ⟨v, -, -, second, -⟩
    · rw [sendable] at first
      cases first
    · simp [Network.client, second, follow, hangs, Except.map]
  cases mode with
  | blocking =>
    rw [sendBy, sendBlocking, Network.clients, reply ⟨rfl, rfl, rfl⟩]
    rfl
  | awaited =>
    rw [sendBy, sendAwaited, Network.clients, reply (awaited_resembles ..)]
    cases h : r.payload <;> simp [awaitedSubmission, h] <;> rfl
  | streamed =>
    rw [sendBy, sendStreamed, Network.clients, reply (streamed_resembles r)]
    cases h : r.payload <;> simp [streamedSubmission, asyncBuilder, h]
  | upload =>
    rw [sendBy, sendUpload, Network.clients, reply (upload_resembles ..)]
    by_cases filled : r.body.length > 0 <;> simp [uploadSubmission, filled] <;> rfl

end Http

end SignedRest
