import SignedRest.Call.Basic

/-! What has happened when a call was prepared: its hook agreed, and the request says what the
draft says after the hook. -/
namespace SignedRest

/-- The method and the kinds of the parameters are each asked for once. -/
theorem encodeParams_eq (m : Method) (url : String) (ps : Params) (boundary : String) :
    encodeParams m url ps boundary =
      if m.hasBody then
        .ok (url, some (if ps.areTexts then .form (formText ps) else Multipart.payload boundary ps))
      else if ps.areTexts then .ok (appendQuery url (formText ps), none)
      else .error (.requestBuild (.binaryParams m.name)) := by
  unfold encodeParams Encoding.choose
  cases m.hasBody <;> cases ps.areTexts <;> rfl

/-- The three ways of carrying parameters, and the one case that is refused. -/
theorem encodeParams_eq_ok {m : Method} {url url' : String} {ps : Params} {boundary : String}
    {payload : Option Payload} (h : encodeParams m url ps boundary = .ok (url', payload)) :
    (ps.areTexts = true ∧ m.hasBody = false ∧ url' = appendQuery url (formText ps) ∧
      payload = none) ∨
    (ps.areTexts = true ∧ m.hasBody = true ∧ url' = url ∧ payload = some (.form (formText ps))) ∨
    (ps.areTexts = false ∧ m.hasBody = true ∧ url' = url ∧
      payload = some (Multipart.payload boundary ps)) := by
  rw [encodeParams_eq] at h
  cases texts : ps.areTexts <;> cases body : m.hasBody <;> simp_all

theorem encodeParams_eq_error {m : Method} {url : String} {ps : Params} {boundary : String}
    {fault : Error} (h : encodeParams m url ps boundary = .error fault) :
    fault = .requestBuild (.binaryParams m.name) := by
  rw [encodeParams_eq] at h
  cases texts : ps.areTexts <;> cases body : m.hasBody <;> simp_all

namespace Call

/-- Two things can be wrong with a request. -/
theorem requestOf_eq_error {e : Endpoint} {m : Moment} {custom : Option Payload} {d : Draft}
    {fault : Error} (h : requestOf e m custom d = .error fault) :
    e.url = .error fault ∨ fault = .requestBuild (.binaryParams d.method.name) := by
  cases base : e.url with
  | error own =>
    simp only [requestOf, Draft.resolveUrl, base, Except.map, bind, Except.bind] at h
    exact .inl (congrArg Except.error (Except.error.inj h))
  | ok url =>
    cases custom with
    | some payload =>
      simp only [requestOf, Draft.resolveUrl, base, Except.map, bind, Except.bind] at h
      cases h
    | none =>
      cases carried : encodeParams d.method (joinPath url d.function) d.params m.boundary with
      | error own =>
        simp only [requestOf, Draft.resolveUrl, base, carried, Except.map, bind, Except.bind,
          Except.error.injEq] at h
        exact .inr (h ▸ encodeParams_eq_error carried)
      | ok both =>
        simp only [requestOf, Draft.resolveUrl, base, carried, Except.map, bind, Except.bind] at h
        cases h

theorem requestOf_eq_ok {e : Endpoint} {m : Moment} {d : Draft} {r : Request}
    (h : requestOf e m none d = .ok r) :
    ∃ url, d.resolveUrl e = .ok url ∧
      encodeParams d.method url d.params m.boundary = .ok (r.url, r.payload) ∧
      r.method = d.method ∧ r.headers = requestHeaders d.headers r.payload := by
  cases resolved : d.resolveUrl e with
  | error e =>
    simp only [requestOf, resolved, bind, Except.bind] at h
    cases h
  | ok url =>
    cases encoded : encodeParams d.method url d.params m.boundary with
    | error e =>
      simp only [requestOf, resolved, encoded, bind, Except.bind] at h
      cases h
    | ok carried =>
      simp only [requestOf, resolved, encoded, bind, Except.bind, pure, Except.pure,
        Except.ok.injEq] at h
      subst h
      exact ⟨url, rfl, encoded, rfl, rfl⟩

/-- A hook that agrees leaves the draft that the request is made of. -/
theorem build_of_hook_ok {s : Service} {m : Moment} {d : Draft} {custom : Option Payload}
    (agreed : (runHook s m d).result = .ok custom) :
    (build s m d).state = (runHook s m d).state ∧
      (build s m d).result = requestOf s.endpoint m custom (runHook s m d).state := by
  rw [build, Action.bind_of_ok agreed]
  simp only [bind, Action.andThen, Action.get, Action.ofExcept_apply, and_self]

theorem prepare_eq_ok {s : Service} {m : Moment} {c : Call} {r : Request}
    (fresh : c.stage = .unprepared) (h : (prepare s m c).result = .ok r) :
    ∃ custom, (runHook s m c.draft).result = .ok custom ∧
      requestOf s.endpoint m custom (runHook s m c.draft).state = .ok r := by
  have built : (build s m c.draft).result = .ok r := by
    cases hb : (build s m c.draft).result with
    | error e => simp [prepare, fresh, hb] at h
    | ok r' => simpa [prepare, fresh, hb] using h
  obtain ⟨custom, hooked, rest, -⟩ := Action.bind_eq_ok built
  obtain ⟨d, got, made, -⟩ := Action.bind_eq_ok rest
  cases got
  exact ⟨custom, hooked, (Action.ofExcept_eq_ok made).1⟩

/-- A hook that only looks at the call gives it no body. -/
theorem runHook_ofPrepare {e : Endpoint} {look : Endpoint → Moment → Action Draft Unit}
    {m : Moment} {d : Draft} {custom : Option Payload}
    (h : (runHook ⟨e, some (.ofPrepare look)⟩ m d).result = .ok custom) :
    custom = none ∧ (look e m d).result = .ok () ∧
      (runHook ⟨e, some (.ofPrepare look)⟩ m d).state = (look e m d).state := by
  obtain ⟨-, -, h, state₁⟩ := Action.bind_eq_ok h
  obtain ⟨⟨⟩, looked, h, state₂⟩ := Action.bind_eq_ok h
  obtain ⟨-, -, h, state₃⟩ := Action.bind_eq_ok h
  cases h
  exact ⟨rfl, looked, state₁.trans (state₂.trans state₃)⟩

end Call
end SignedRest
