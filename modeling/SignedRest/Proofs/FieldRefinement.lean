import SignedRest.Proofs.FieldAgreement

/-! Calls whose hooks see the draft alone, and their stages. A stage stands for a state, a request
and a response that belong together; every operation does to the stage what it does to the three
fields one by one, and a run of the one is a run of the other. -/
namespace SignedRest

def Outcome.fields {α : Type} (o : Outcome Call α) : Outcome CallFields α :=
  ⟨o.state.fields, o.events, o.result⟩

namespace CallFields

section
variable (s : Service) (m : Moment)

theorem runHook_onCall (c : CallFields) :
    runHook s.onCall m c =
      ⟨{ c with draft := (Call.runHook s m c.draft).state }, (Call.runHook s m c.draft).events,
        (Call.runHook s m c.draft).result⟩ := by
  cases hs : s.hook with
  | none => simp [runHook, Call.runHook, Service.onCall, hs]
  | some hook =>
    simp only [runHook, Call.runHook, Service.onCall, hs, Option.map_some, bind, Action.andThen,
      Action.emit, Hook.onCall, Action.onDraft]
    cases (hook.prepare s.endpoint m c.draft).result with
    | error e => simp
    | ok _ => simp

theorem build_onCall (c : CallFields) :
    build s.onCall m c =
      ⟨{ c with draft := (Call.build s m c.draft).state }, (Call.build s m c.draft).events,
        (Call.build s m c.draft).result⟩ := by
  have hook := runHook_onCall s m c
  cases h : (Call.runHook s m c.draft).result with
  | error e =>
    rw [build, Call.build, Action.bind_of_error h, Action.bind_of_error (by rw [hook, h]), hook]
  | ok custom =>
    rw [build, Call.build, Action.bind_of_ok h, Action.bind_of_ok (by rw [hook, h]), hook]
    simp [bind, Action.andThen, Action.get, Action.ofExcept_apply, Service.onCall]

theorem prepare_fields (c : Call) :
    prepare s.onCall m c.fields = (Call.prepare s m c).fields := by
  obtain ⟨d, stage⟩ := c
  cases stage with
  | unprepared =>
    rw [prepare_of_unprepared rfl]
    cases h : (Call.build s m d).result with
    | ok r =>
      rw [make_of_ok (by rw [build_onCall]; exact h), build_onCall]
      simp [Call.prepare, h, Outcome.fields, Call.fields, Call.state, Call.request?,
        Call.response?, Stage.state, Stage.request?, Stage.response?]
    | error e =>
      rw [make_of_error (by rw [build_onCall]; exact h), build_onCall]
      simp [Call.prepare, h, Outcome.fields, Call.fields, Call.state, Call.request?,
        Call.response?, Stage.state, Stage.request?, Stage.response?]
  | prepared r => rfl
  | inFlight r => rfl
  | completed r response => rfl
  | refused r response => rfl
  | broken r => rfl
  | rejected => rfl
  | cancelled r => rfl

theorem fields_of_prepare {c : Call} {r : Request} (h : (Call.prepare s m c).result = .ok r) :
    (Call.prepare s m c).state.fields =
      ⟨(Call.prepare s m c).state.draft, .prepared, some r, none⟩ := by
  have stage := Call.stage_of_prepare h
  simp [Call.fields, Call.state, Call.request?, Call.response?, stage, Stage.state,
    Stage.request?, Stage.response?]

theorem begin_fields (c : Call) : begin s.onCall m c.fields = (Call.begin s m c).fields := by
  have prepared := prepare_fields s m c
  cases h : (Call.prepare s m c).result with
  | error e =>
    rw [begin_of_error (by rw [prepared]; exact h), Call.begin_of_error h, prepared]
    rfl
  | ok r =>
    rw [begin_of_ok (by rw [prepared]; exact h), Call.begin_of_ok h, prepared, Outcome.fields,
      fields_of_prepare s m h]
    rfl

theorem finish_fields (debug : DebugFlags) {c : Call} {r : Request} (h : c.stage = .inFlight r)
    (result : Except Error Response) :
    finish debug r result c.fields = (Call.finish debug r result c).fields := by
  have before : c.fields = ⟨c.draft, .inFlight, some r, none⟩ := by
    simp [Call.fields, Call.state, Call.request?, Call.response?, h, Stage.state, Stage.request?,
      Stage.response?]
  have request := Call.request?_sentStage r (some result)
  rw [Call.sentStage] at request
  rw [finish_eq, before]
  simp [Call.finish, Outcome.fields, Call.fields, Call.state, Call.request?, Call.response?,
    request, Call.endRecord]

theorem invokeVia_fields (mode : Http.Mode) (isCancelled : Bool) (transport : Transport)
    (c : Call) :
    invokeVia s.onCall m mode isCancelled transport c.fields =
      (Call.invokeVia s m mode isCancelled transport c).fields := by
  have prepared := prepare_fields s m c
  cases h : (Call.prepare s m c).result with
  | error e =>
    rw [invokeVia_of_error mode isCancelled transport (by rw [prepared]; exact h),
      Call.invokeVia_of_error mode isCancelled transport h, prepared]
    rfl
  | ok r =>
    have request := Call.request?_sentStage r
      (Call.convey s.endpoint.config mode isCancelled transport r).2
    rw [invokeVia_of_ok mode isCancelled transport (by rw [prepared]; exact h),
      Call.invokeVia_of_ok mode isCancelled transport h, prepared, Outcome.fields,
      fields_of_prepare s m h]
    simp [Outcome.fields, Call.fields, Call.state, Call.request?, Call.response?, request,
      Service.onCall]

end

end CallFields

/-- The operation that does to the fields what an operation does to the stage. -/
def Op.onFields (s : Session) : Op → CallOp
  | edit change => .edit change
  | bind _ | rehook _ => .edit id
  | prepare m => .prepare s.service.onCall m
  | invoke m mode isCancelled transport => .invoke s.service.onCall m mode isCancelled transport

def Step.onFields (x : Step) : CallStep := ⟨x.before.call.fields, x.op.onFields x.before⟩

theorem Step.after_onFields (x : Step) : x.onFields.after = x.after.call.fields := by
  obtain ⟨⟨service, call⟩, op⟩ := x
  cases op with
  | edit change => rfl
  | bind args =>
    cases h : service.endpoint.bind args <;>
      simp [Step.onFields, Op.onFields, CallStep.after, CallStep.outcome, CallOp.perform,
        CallFields.edit, Step.after, Step.outcome, Op.perform, Session.bind, h]
  | rehook hook => rfl
  | prepare m => exact congrArg Outcome.state (CallFields.prepare_fields service m call)
  | invoke m mode isCancelled transport =>
    exact congrArg Outcome.state
      (CallFields.invokeVia_fields service m mode isCancelled transport call)

theorem Step.result_onFields {x : Step} (h : x.op.isGuarded = true) :
    x.onFields.result = x.result := by
  obtain ⟨⟨service, call⟩, op⟩ := x
  cases op with
  | edit change => cases h
  | bind args => cases h
  | rehook hook => cases h
  | prepare m =>
    exact congrArg (fun o => o.result.map Answer.request)
      (CallFields.prepare_fields service m call)
  | invoke m mode isCancelled transport =>
    exact congrArg (fun o => o.result.map Op.ofResponse)
      (CallFields.invokeVia_fields service m mode isCancelled transport call)

/-- A run on stages is a run on fields. -/
theorem callTrace_onFields (s : Session) (ops : List Op) :
    callTrace s.call.fields ((trace s ops).map fun x => x.op.onFields x.before) =
      (trace s ops).map Step.onFields := by
  -- both runs go on from the same fields after each operation
  induction ops generalizing s with
  | nil => rfl
  | cons op ops ih =>
    have next := Step.after_onFields ⟨s, op⟩
    simp only [trace, List.map_cons, callTrace]
    refine congrArg₂ List.cons rfl ?_
    rw [← ih]
    exact congrArg (callTrace · _) next

theorem Hook.leavesOpen_onCall (hook : Hook) : hook.onCall.LeavesOpen :=
  ⟨fun _ _ _ h => ⟨h.request, h.response⟩, fun _ _ _ h => ⟨h.request, h.response⟩⟩

theorem Step.leavesOpen_onFields (x : Step) : (x.op.onFields x.before).LeavesOpen := by
  have serves : x.before.service.onCall.LeavesOpen := by
    intro hook h
    obtain ⟨own, -, rfl⟩ := Option.map_eq_some_iff.mp h
    exact own.leavesOpen_onCall
  intro s m h
  cases hop : x.op <;> rw [hop] at h <;> cases h <;> exact serves

/-- In every run whose hooks see the draft alone, the fields agree. -/
theorem fields_agree (service : Service) (ops : List Op) :
    ∀ x ∈ trace (.start service) ops, x.after.call.fields.Agrees ∧ x.onFields.MovesOn := by
  intro x hx
  obtain ⟨past, rest, split⟩ := List.append_of_mem hx
  have chain := chained_callTrace (Session.start service).call.fields
    ((trace (.start service) ops).map fun x => x.op.onFields x.before)
  rw [callTrace_onFields, split, List.map_append, List.map_cons] at chain
  have start : KeptOpen [] (Session.start service).call.fields := fun _ =>
    CallFields.agrees_fresh _
  obtain ⟨before, -⟩ := chain.history keptOpen_step start
  have agrees : x.onFields.before.Agrees := by
    refine before fun y hy => ?_
    obtain ⟨z, -, rfl⟩ := List.mem_map.mp hy
    exact CallStep.leavesOpen_of_op z.leavesOpen_onFields
  have effect := CallStep.effect agrees (CallStep.leavesOpen_of_op x.leavesOpen_onFields)
  exact ⟨x.after_onFields ▸ effect.agrees agrees, effect.movesOn⟩

end SignedRest
