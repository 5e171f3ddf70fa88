import SignedRest.Proofs.TokenExpiry

/-! What a client says of its tokens, and what it does with a new call: they agree unless an
expiration is left over without an access token. Then the client calls itself unauthenticated, and
still refuses every call as expired. -/
namespace SignedRest.OAuth2

namespace TokenState

/-- There is an expiration, but nothing that could expire. -/
def Orphaned (t : TokenState) : Prop := t.accessToken = none ∧ t.expiration ≠ none

/-- The time of an expiration without a token has come. -/
def OverdueAt (t : TokenState) (now : Instant) : Prop :=
  t.accessToken = none ∧ t.isExpiredAt now = true

theorem OverdueAt.orphaned {t : TokenState} {now : Instant} (h : t.OverdueAt now) : t.Orphaned := by
  refine ⟨h.1, fun none_ => ?_⟩
  have expired := h.2
  rw [isExpiredAt, none_] at expired
  cases expired

variable {t : TokenState} {now : Instant}

theorem statusAt_of_none (h : t.accessToken = none) : t.statusAt now = .unauthenticated := by
  simp [statusAt, h]

theorem statusAt_of_expired {token : String} (h : t.accessToken = some token)
    (expired : t.isExpiredAt now = true) : t.statusAt now = .expired := by
  simp [statusAt, h, expired]

theorem statusAt_of_valid {token : String} (h : t.accessToken = some token)
    (valid : t.isExpiredAt now = false) : t.statusAt now = .authenticated := by
  simp [statusAt, h, valid]

end TokenState

theorem access_of_readTokens {body : Bytes} {now : Instant} {t : TokenState}
    (h : readTokens body now = .ok t) : t.accessToken ≠ none := by
  unfold readTokens at h
  split at h
  · cases h
  split at h
  · cases h
  split at h
  · cases h
  · rename_i reply _ _ access _
    change (expirationOf now reply.expiresIn reply.createdAt).bind _ = _ at h
    cases expires : expirationOf now reply.expiresIn reply.createdAt with
    | error e => simp [expires, Except.bind] at h
    | ok date =>
      simp only [expires, Except.bind, Except.ok.injEq] at h
      simp [← h]

theorem access_of_tokens {g : Client.Grant} {payload : Bytes} {now : Instant} {t : TokenState}
    (h : g.tokens payload now = .ok t) : t.accessToken ≠ none := by
  cases read : readTokens payload now with
  | error e => simp [Client.Grant.tokens, read, Except.map] at h
  | ok own =>
    simp only [Client.Grant.tokens, read, Except.map, Except.ok.injEq] at h
    have own_ := access_of_readTokens read
    rwa [← h]

/-- Taking the access token away, and setting an expiration. -/
def Change.MayOrphan : Change → Prop
  | .access none | .expiration (some _) => True
  | _ => False

theorem Change.orphaned_apply {c : Change} {t : TokenState} (h : (c.apply t).Orphaned) :
    c.MayOrphan ∨ t.Orphaned := by
  obtain ⟨access, expires⟩ := h
  cases c with
  | access token =>
    cases token with
    | none => exact .inl trivial
    | some token => cases access
  | refresh token => exact .inr ⟨access, expires⟩
  | expiration date =>
    cases date with
    | none => exact absurd rfl expires
    | some date => exact .inl trivial

/-- Tokens without their expiration's token were there from the start, or were made by hand. -/
def OrphanedByHand (first : TokenState) (past : List Turn) (w : World) : Prop :=
  w.client.tokens.Orphaned →
    first.Orphaned ∨ ∃ y ∈ past, ∃ c, y.op = .change c ∧ c.MayOrphan

theorem orphanedByHand_step {first : TokenState} (past : List Turn) (x : Turn)
    (h : OrphanedByHand first past x.before) : OrphanedByHand first (past ++ [x]) x.after := by
  have earlier : x.before.client.tokens.Orphaned →
      first.Orphaned ∨ ∃ y ∈ past ++ [x], ∃ c, y.op = .change c ∧ c.MayOrphan :=
    fun before => (h before).imp_right fun ⟨y, hy, made⟩ => ⟨y, List.mem_append_left _ hy, made⟩
  intro orphaned
  cases x.effect with
  | kept unchanged tokens => exact earlier (tokens ▸ orphaned)
  | changed c op tokens =>
    rw [tokens] at orphaned
    rcases c.orphaned_apply orphaned with made | before
    · exact .inr ⟨x, by simp, c, op, made⟩
    · exact earlier before
  | asked kind m mode g r op start made events client =>
    rw [client] at orphaned
    exact earlier orphaned
  | granted i now happenings response p t op waiting success read tokens =>
    rw [tokens] at orphaned
    exact absurd orphaned.1 (access_of_tokens read)

/-- Only a hook refuses a call as expired. -/
theorem requestOf_ne_expired (e : Endpoint) (m : Moment) (d : Draft) :
    Call.requestOf e m none d ≠ .error .accessTokenExpired := by
  intro h
  rcases Call.requestOf_eq_error h with url | build
  · unfold Endpoint.url at url
    split at url
    · cases url
    · split at url <;> cases url
  · cases build

theorem Client.build_of_bearer {c : Client} {m : Moment} {d d' : Draft}
    (looked : bearer c.tokens c.endpoint m d = ⟨d', [], .ok ()⟩) :
    (Call.build c.service m d).state = d' ∧
      (Call.build c.service m d).result = Call.requestOf c.endpoint m none d' := by
  have hooked : Call.runHook c.service m d = ⟨d', [.hookPrepared, .hookSerialized], .ok none⟩ := by
    simp [Call.runHook, service, Hook.ofPrepare, bind, Action.andThen, Action.emit, looked]
  have built := Call.build_of_hook_ok (congrArg Outcome.result hooked)
  rwa [hooked] at built

namespace Turn

structure PreparesAs (x : Turn) (i : Nat) (m : Moment) (d : Draft) : Prop where
  draft : x.after.calls[i]?.map Call.draft = some d
  result : x.result = (Call.requestOf x.before.client.endpoint m none d).map .request

theorem PreparesAs.accepted {x : Turn} {i : Nat} {m : Moment} {d : Draft}
    (h : x.PreparesAs i m d) : x.result ≠ .error .accessTokenExpired := by
  rw [h.result]
  cases built : Call.requestOf x.before.client.endpoint m none d with
  | ok r => simp [Except.map]
  | error e =>
    simp only [Except.map, ne_eq, Except.error.injEq]
    exact fun expired => requestOf_ne_expired _ _ _ (expired ▸ built)

/-- What happens to a call is what the status of the tokens says. -/
structure FollowsStatus (x : Turn) (i : Nat) (m : Moment) (d : Draft) : Prop where
  refuses : x.result = .error .accessTokenExpired ↔
    x.before.client.tokens.statusAt m.now = .expired
  bears : (∃ token, x.before.client.tokens.accessToken = some token ∧
      x.PreparesAs i m (d.addHeader "Authorization" ("Bearer " ++ token))) ↔
    x.before.client.tokens.statusAt m.now = .authenticated
  leaves : x.before.client.tokens.statusAt m.now = .unauthenticated → x.PreparesAs i m d

section
variable {x : Turn} {i : Nat} {m : Moment} {call : Call} (op : x.op = .prepare i m)
  (found : x.before.calls[i]? = some call)
include op found

theorem outcome_prepare :
    x.outcome =
      let o := Call.prepare x.before.client.service m call
      ⟨{ x.before with calls := x.before.calls.set i o.state }, o.events,
        o.result.map .request⟩ := by
  rw [outcome, op, ClientOp.perform, perform_onCall found]

variable (fresh : call.stage = .unprepared)
include fresh

theorem refused_of_passed (passed : x.before.client.tokens.isExpiredAt m.now = true) :
    x.result = .error .accessTokenExpired := by
  rw [result, outcome_prepare op found, Call.prepare_of_unprepared fresh,
    Client.build_of_expired passed]
  rfl

theorem preparesAs_of_bearer {d : Draft} (looked :
    bearer x.before.client.tokens x.before.client.endpoint m call.draft = ⟨d, [], .ok ()⟩) :
    x.PreparesAs i m d := by
  obtain ⟨state, made⟩ := Client.build_of_bearer looked
  have inside : i < x.before.calls.length := (List.getElem?_eq_some_iff.mp found).1
  have performed := outcome_prepare op found
  rw [Call.prepare_of_unprepared fresh] at performed
  constructor
  · rw [after, performed]
    simp only [List.getElem?_set_self inside, Option.map_some, state]
  · rw [result, performed, made]

/-- The hook asks for the expiration alone, the status for the access token first: this is where
they part. -/
theorem followsStatus_iff :
    x.FollowsStatus i m call.draft ↔ ¬ x.before.client.tokens.OverdueAt m.now := by
  cases passed : x.before.client.tokens.isExpiredAt m.now with
  | true =>
    have refused := refused_of_passed op found fresh passed
    have unmade : ∀ d, ¬ x.PreparesAs i m d := fun d made => made.accepted refused
    cases held : x.before.client.tokens.accessToken with
    | none =>
      have status : x.before.client.tokens.statusAt m.now = .unauthenticated :=
        TokenState.statusAt_of_none held
      refine iff_of_false (fun follows => ?_) (fun early => early ⟨held, passed⟩)
      exact unmade _ (follows.leaves status)
    | some token =>
      have status := TokenState.statusAt_of_expired held passed
      refine iff_of_true ⟨by simp [refused, status], ?_, by simp [status]⟩
        (by simp [TokenState.OverdueAt, held])
      simp [status, unmade]
  | false =>
    have looked := bearer_of_valid passed (e := x.before.client.endpoint) (d := call.draft)
    have made := preparesAs_of_bearer op found fresh looked
    have accepted := made.accepted
    refine iff_of_true ?_ (by simp [TokenState.OverdueAt, passed])
    cases held : x.before.client.tokens.accessToken with
    | none =>
      have status : x.before.client.tokens.statusAt m.now = .unauthenticated :=
        TokenState.statusAt_of_none held
      rw [held] at made
      exact ⟨by simp [accepted, status], by simp [held, status], fun _ => made⟩
    | some token =>
      have status := TokenState.statusAt_of_valid held passed
      rw [held] at made
      exact ⟨by simp [accepted, status], by simp [held, status, made], by simp [status]⟩

end
end Turn

/-- In every run of a client, a call is prepared as the status of the tokens says, unless an
expiration has passed that no access token goes with: then the status is that of no tokens, and the
call is refused as expired. Such tokens are never what a grant left. -/
theorem status_followed (client : Client) (ops : List ClientOp) (past : List Turn) (x : Turn)
    (rest : List Turn) (run : turns (.start client) ops = past ++ x :: rest) (i : Nat) (m : Moment)
    (call : Call) (op : x.op = .prepare i m) (found : x.before.calls[i]? = some call)
    (fresh : call.stage = .unprepared) :
    (x.FollowsStatus i m call.draft ↔ ¬ x.before.client.tokens.OverdueAt m.now) ∧
      (x.before.client.tokens.OverdueAt m.now →
        x.before.client.tokens.statusAt m.now = .unauthenticated ∧
        x.result = .error .accessTokenExpired ∧
        (client.tokens.Orphaned ∨ ∃ y ∈ past, ∃ c, y.op = .change c ∧ c.MayOrphan)) := by
  have start : OrphanedByHand client.tokens [] (.start client) := Or.inl
  obtain ⟨before, -⟩ := turns_history orphanedByHand_step start run
  refine ⟨Turn.followsStatus_iff op found fresh, fun overdue => ⟨?_, ?_, before overdue.orphaned⟩⟩
  · exact TokenState.statusAt_of_none overdue.1
  · exact Turn.refused_of_passed op found fresh overdue.2

/-- An expiration that is set, without any token, and a call after it. -/
def strayOps : List ClientOp :=
  [.change (.expiration (some ⟨1000000000, 0⟩)), .newCall,
    .prepare 0 ⟨⟨1191242096, 0⟩, "kllo9940pd9333jh", "boundary"⟩]

/-- The same operations leave a client with a token expired, and one without refused all the
same. -/
theorem strayOps_followed :
    let m : Moment := ⟨⟨1191242096, 0⟩, "kllo9940pd9333jh", "boundary"⟩
    (∃ past x, turns (.start bearingClient) strayOps = past ++ [x] ∧ x.FollowsStatus 0 m .empty) ∧
    ∃ past x, turns (.start { bearingClient with tokens := .empty }) strayOps = past ++ [x] ∧
      ¬ x.FollowsStatus 0 m .empty ∧ x.result = .error .accessTokenExpired := by
  intro m
  have last (client : Client) := (List.dropLast_concat_getLast
    (turns_ne_nil (List.cons_ne_nil _ _) (.start client) : turns _ strayOps ≠ [])).symm
  have held := last bearingClient
  have bare := last { bearingClient with tokens := .empty }
  have follows := status_followed bearingClient strayOps _ _ [] held 0 m .empty rfl
    (by decide +kernel) rfl
  have parts := status_followed { bearingClient with tokens := .empty } strayOps _ _ [] bare 0 m
    .empty rfl (by decide +kernel) rfl
  have overdue : TokenState.OverdueAt ⟨none, none, some ⟨1000000000, 0⟩⟩ m.now :=
    ⟨rfl, by decide +kernel⟩
  refine ⟨⟨_, _, held, follows.1.mpr fun stray => ?_⟩, _, _, bare, fun same => ?_, ?_⟩
  · exact absurd stray.1 (by decide +kernel)
  · exact parts.1.mp same overdue
  · exact (parts.2 overdue).2.1

end SignedRest.OAuth2
