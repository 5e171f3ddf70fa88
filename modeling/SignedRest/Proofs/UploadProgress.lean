import Mathlib.Data.List.Infix
import SignedRest.Proofs.SendingModes

/-! Uploads. The body goes out in pieces of one size, of which the last may be shorter, and after
each piece that the connection takes the bytes gone out so far are reported. A connection may stop
taking pieces at any time; what has been reported until then is what a whole upload reports
first. -/
namespace SignedRest

/-- A body in pieces of one size. -/
structure CutExactly (size : Nat) (body : Bytes) (pieces : List Bytes) : Prop where
  whole : pieces.flatten = body
  bounded : ∀ piece ∈ pieces, piece ≠ [] ∧ piece.length ≤ size
  full : ∀ piece ∈ pieces.dropLast, piece.length = size
  /-- No gap and no overlap: each piece starts where its number says. -/
  stretch : ∀ k, pieces[k]? =
    if k * size < body.length then
      some (body.extract (k * size) (min (k * size + size) body.length))
    else none

namespace Http

theorem cutExactly_uploadChunks (body : Bytes) :
    CutExactly chunkSize body (uploadChunks body) := by
  have pos : 0 < chunkSize := by decide
  refine ⟨flatten_chunks pos body, fun _ => length_of_mem_chunks,
    fun _ => length_of_mem_dropLast_chunks pos, fun k => ?_⟩
  rw [uploadChunks, getElem?_chunks pos]
  by_cases inside : k * chunkSize < body.length
  · simp only [inside, if_true, Option.some.injEq, List.extract_eq_take_drop,
      List.take_eq_take_iff, List.length_drop]
    omega
  · simp [inside]

end Http

/-- What is reported while pieces of a body go out. -/
structure ReportsProgress (body : Bytes) (gone : List Bytes) (reports : List (Nat × Nat)) :
    Prop where
  /-- One report at the start and one after each piece, with the size of all that has gone out. -/
  counts : reports = gone.inits.map fun sent => (sent.flatten.length, body.length)
  starts : reports.head? = some (0, body.length)
  rises : reports.Pairwise fun earlier later => earlier.1 < later.1
  bounded : ∀ report ∈ reports, report.1 ≤ report.2
  ends : gone.flatten = body → reports.getLast? = some (body.length, body.length)

namespace Http

theorem sentCounts_eq (sent : Nat) (gone : List Bytes) :
    sent :: sentCounts sent gone = gone.inits.map fun first => sent + first.flatten.length := by
  induction gone generalizing sent with
  | nil => simp [sentCounts]
  | cons piece rest ih =>
    rw [sentCounts, ih]
    simp [Function.comp_def, Nat.add_assoc]

theorem sentCounts_rises {gone : List Bytes} (filled : ∀ piece ∈ gone, piece ≠ []) (sent : Nat) :
    (sent :: sentCounts sent gone).Pairwise (· < ·) := by
  rw [← List.isChain_iff_pairwise]
  induction gone generalizing sent with
  | nil => simp [sentCounts]
  | cons piece rest ih =>
    obtain ⟨first, others⟩ := List.forall_mem_cons.mp filled
    have grown : sent < sent + piece.length := by
      have := List.length_pos_iff.mpr first
      omega
    exact List.isChain_cons_cons.mpr ⟨grown, ih others _⟩

theorem getLast?_sentCounts (sent : Nat) (gone : List Bytes) :
    (sent :: sentCounts sent gone).getLast? = some (sent + gone.flatten.length) := by
  induction gone generalizing sent with
  | nil => simp [sentCounts]
  | cons piece rest ih =>
    rw [sentCounts, List.getLast?_cons_cons, ih]
    simp [Nat.add_assoc]

theorem sentCounts_take (sent : Nat) (gone : List Bytes) (taken : Nat) :
    sentCounts sent (gone.take taken) = (sentCounts sent gone).take taken := by
  induction gone generalizing sent taken with
  | nil => simp [sentCounts]
  | cons piece rest ih =>
    cases taken with
    | zero => simp [sentCounts]
    | succ taken => simp [sentCounts, ih]

/-- The reports of an upload of which so many chunks are taken. -/
def uploadReports (body : Bytes) (taken : Nat) : List (Nat × Nat) :=
  (0, body.length) ::
    (sentCounts 0 ((uploadChunks body).take taken)).map fun sent => (sent, body.length)

theorem uploadReports_eq (body : Bytes) (taken : Nat) :
    uploadReports body taken =
      (0 :: sentCounts 0 ((uploadChunks body).take taken)).map
        fun sent => (sent, body.length) := rfl

theorem reportsProgress_uploadReports (body : Bytes) (taken : Nat) :
    ReportsProgress body ((uploadChunks body).take taken) (uploadReports body taken) := by
  have cut := cutExactly_uploadChunks body
  have counts : uploadReports body taken = ((uploadChunks body).take taken).inits.map
      fun sent => (sent.flatten.length, body.length) := by
    rw [uploadReports_eq, sentCounts_eq]
    simp [Function.comp_def]
  refine ⟨counts, rfl, ?_, ?_, ?_⟩
  · have filled : ∀ piece ∈ (uploadChunks body).take taken, piece ≠ [] := by
      intro piece mem
      exact (cut.bounded piece (List.mem_of_mem_take mem)).1
    rw [uploadReports_eq, List.pairwise_map]
    exact sentCounts_rises filled 0
  · intro report mem
    rw [counts, List.mem_map] at mem
    obtain ⟨sent, first, rfl⟩ := mem
    have front : sent <+: uploadChunks body :=
      ((List.mem_inits _ _).mp first).trans (List.take_prefix taken _)
    have length := front.flatten.length_le
    rwa [cut.whole] at length
  · intro all
    rw [uploadReports_eq, List.getLast?_map, getLast?_sentCounts, all]
    simp

/-- Stopping early cuts the reports short. -/
theorem uploadReports_take (body : Bytes) (taken : Nat) :
    uploadReports body taken =
      (uploadReports body (uploadChunks body).length).take (taken + 1) := by
  rw [uploadReports_eq, uploadReports_eq, List.take_length, sentCounts_take, ← List.map_take,
    List.take_succ_cons]

theorem uploadChunks_empty : uploadChunks [] = [] := chunks_nil chunkSize

theorem uploadReports_empty (taken : Nat) : uploadReports [] taken = [(0, 0)] := by
  simp [uploadReports, uploadChunks_empty, sentCounts]

end Http

/-- The progress that an event reports. -/
def Event.report? : Event → Option (Nat × Nat)
  | .http (.progress sent total) => some (sent, total)
  | _ => none

def reports (events : List Event) : List (Nat × Nat) := events.filterMap Event.report?

namespace Http

theorem reports_sendUpload (client : Client) (limit : Nat) (r : Request) :
    reports ((sendUpload client limit r).1.map .http) =
      uploadReports r.body (client (uploadSubmission limit r)).taken := by
  simp [sendUpload, reports, Event.report?, List.filterMap_cons, List.filterMap_map,
    Function.comp_def, uploadReports]

/-- What a client is given to take from is the body in its pieces. -/
theorem pieces_uploadSubmission (limit : Nat) (r : Request) :
    (uploadSubmission limit r).pieces = uploadChunks r.body := by
  by_cases filled : r.body.length > 0
  · simp [uploadSubmission, filled, Submission.pieces]
  · have empty : r.body = [] := List.length_eq_zero_iff.mp (by omega)
    simp [uploadSubmission, asyncBuilder, empty, Submission.pieces, uploadChunks_empty]

end Http

section
variable {c : Call} {r : Request} (prepared : c.stage = .prepared r) (s : Service) (m : Moment)
  (client : Http.Client)
include prepared

theorem Call.events_invokeUpload :
    (Call.invokeUpload s m false client c).events =
      (if clientFault s.endpoint.config = none then
        .handedOver .upload r ::
          (Http.sendUpload client s.endpoint.config.uploadTimeoutMs r).1.map .http
      else []) ++ endRecord s.endpoint.config.debug r
        (some (attemptUpload s.endpoint.config false client r).2) := by
  have sent := invokeBy_of_prepared prepared s m .upload ⟨client, client⟩
  have same := congrArg Prod.fst
    (attemptBy_eq_sent s.endpoint.config .upload ⟨client, client⟩ r)
  exact (congrArg Outcome.events sent).trans (congrArg (· ++ _) same)

/-- An upload that has a client reports for the pieces that its client takes. -/
theorem Call.reports_invokeUpload :
    reports (Call.invokeUpload s m false client c).events =
      if clientFault s.endpoint.config = none then
        Http.uploadReports r.body
          (client (Http.uploadSubmission s.endpoint.config.uploadTimeoutMs r)).taken
      else [] := by
  rw [events_invokeUpload prepared, reports, List.filterMap_append,
    filterMap_endRecord fun _ => rfl, List.append_nil]
  by_cases usable : clientFault s.endpoint.config = none
  · rw [if_pos usable, if_pos usable]
    exact Http.reports_sendUpload ..
  · rw [if_neg usable, if_neg usable]
    rfl

end

/-- An upload's body goes out whole, in pieces of one size; its reports are the sizes of all that
has gone out so far, and they stop where the connection stops taking pieces. -/
theorem upload_exact (body : Bytes) :
    CutExactly Http.chunkSize body (Http.uploadChunks body) ∧
    (∀ taken,
      ReportsProgress body ((Http.uploadChunks body).take taken) (Http.uploadReports body taken) ∧
      Http.uploadReports body taken =
        (Http.uploadReports body (Http.uploadChunks body).length).take (taken + 1)) ∧
    (body = [] → Http.uploadChunks body = [] ∧ ∀ taken, Http.uploadReports body taken = [(0, 0)]) ∧
    ∀ (s : Service) (m : Moment) (c : Call) (r : Request), c.stage = .prepared r → r.body = body →
      let submission := Http.uploadSubmission s.endpoint.config.uploadTimeoutMs r
      submission.pieces = Http.uploadChunks body ∧
      (∀ client : Http.Client, (Call.clientFault s.endpoint.config = none →
          .http (.submitted submission) ∈ (Call.invokeUpload s m false client c).events) ∧
        reports (Call.invokeUpload s m false client c).events =
          if Call.clientFault s.endpoint.config = none then
            Http.uploadReports body (client submission).taken
          else []) ∧
      ∀ network : Http.Network, reports (Call.invoke s m .upload false network c).events =
        if Call.clientFault s.endpoint.config = none then
          Http.uploadReports body ((network.clients s.endpoint.config).async submission).taken
        else [] := by
  refine ⟨Http.cutExactly_uploadChunks body, fun taken => ?_, ?_, ?_⟩
  · exact ⟨Http.reportsProgress_uploadReports body taken, Http.uploadReports_take body taken⟩
  · rintro rfl
    exact ⟨Http.uploadChunks_empty, Http.uploadReports_empty⟩
  · rintro s m c r prepared rfl
    refine ⟨Http.pieces_uploadSubmission .., fun client => ⟨fun usable => ?_, ?_⟩,
      fun network => ?_⟩
    · rw [Call.events_invokeUpload prepared, if_pos usable]
      simp [Http.sendUpload]
    · exact Call.reports_invokeUpload prepared s m client
    · exact Call.reports_invokeUpload prepared s m _

def fileUpload : Request :=
  ⟨.post, "http://api.example.com/upload", [],
    some ⟨"application/octet-stream", List.replicate 20000 7⟩⟩

def lostAfterTwo : Http.Client := fun _ => ⟨2, [], .error (.fault .timeout)⟩

theorem fileUpload_exact :
    let s : Service := ⟨.ofConfig (.ofTemplate "http://api.example.com"), none⟩
    let m : Moment := ⟨⟨1191242096, 0⟩, "kllo9940pd9333jh", "boundary"⟩
    Http.uploadChunks fileUpload.body =
        [List.replicate 8192 7, List.replicate 8192 7, List.replicate 3616 7] ∧
      reports (Call.invokeUpload s m false lostAfterTwo ⟨.empty, .prepared fileUpload⟩).events =
        [(0, 20000), (8192, 20000), (16384, 20000)] := by
  intro s m
  obtain ⟨-, told, -, sent⟩ := upload_exact fileUpload.body
  have piece : ∀ n, 0 < n → chunks Http.chunkSize (List.replicate n (7 : UInt8)) =
      List.replicate (min Http.chunkSize n) 7 ::
        chunks Http.chunkSize (List.replicate (n - Http.chunkSize) 7) := by
    intro n filled
    rw [chunks_of_ne_nil (by decide) (by simp; omega), List.take_replicate, List.drop_replicate]
  have cut : Http.uploadChunks fileUpload.body =
      [List.replicate 8192 7, List.replicate 8192 7, List.replicate 3616 7] := by
    have body : fileUpload.body = List.replicate 20000 7 := rfl
    rw [body, Http.uploadChunks, piece _ (by decide), piece _ (by decide), piece _ (by decide)]
    simp [Http.chunkSize, -List.reduceReplicate]
  obtain ⟨-, lost, -⟩ := sent s m ⟨.empty, .prepared fileUpload⟩ fileUpload rfl rfl
  have usable : Call.clientFault s.endpoint.config = none := rfl
  refine ⟨cut, ?_⟩
  rw [(lost lostAfterTwo).2, if_pos usable, (told _).1.counts, cut]
  simp [lostAfterTwo, fileUpload, Request.body, -List.reduceReplicate]

end SignedRest
