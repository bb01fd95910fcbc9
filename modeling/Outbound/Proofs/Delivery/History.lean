import Outbound.Delivery.Dispatcher

namespace Outbound

/-- Destination and form in which an event leaves, where it does. -/
def Policy.delivery? (c : Policy) (p : Payload) : Option (Destination × Payload) :=
  if (c.accepts p.event).value then
    match (c.destination p).run.value, (c.transform p).run.value with
    | .ok destination, .ok q => some (destination, q)
    | _, _ => none
  else none

theorem Policy.delivery?_eq_some_iff {c : Policy} {p q : Payload} {destination : Destination} :
    c.delivery? p = some (destination, q) ↔
      (c.accepts p.event).value = true ∧ (c.destination p).run.value = .ok destination ∧
        (c.transform p).run.value = .ok q := by
  unfold delivery?
  cases (c.accepts p.event).value <;> cases (c.destination p).run.value <;>
    cases (c.transform p).run.value <;> simp

namespace Dispatcher

variable {σ : Type}

/-- Dispatches payloads one after the other, whatever becomes of each. -/
def dispatchAll (d : Dispatcher σ) (log : LogFilter) (state : σ) :
    List Payload → Traced (σ × List (Except DeliveryError Bool))
  | [] => pure (state, [])
  | p :: rest => do
    let (next, answer) ← d.dispatch log state p
    let (last, answers) ← d.dispatchAll log next rest
    return (last, answer :: answers)

/-- What the log shows of a payload that is about to be delivered. -/
def notices (log : LogFilter) (p : Payload) (destination : Destination) (q : Payload) :
    List Mark :=
  ([announcement log p.event.type destination q].filter log.keeps).map .logged

/-- The marks on the way to the sink and in it. -/
def handoverMarks (d : Dispatcher σ) (log : LogFilter) (state : σ) (p : Payload)
    (destination : Destination) (q : Payload) : List Mark :=
  (d.policy.accepts p.event).marks ++
    ((d.policy.destination p).run.marks ++ (d.policy.transform p).run.marks) ++
    (notices log p destination q ++
      .delivered destination q :: (d.sink.accept state destination q).marks)

/-- What becomes of one payload: the state that the sink is left in, the answer, and all marks in
order. -/
inductive Handles (d : Dispatcher σ) (log : LogFilter) (state : σ) (p : Payload) :
    σ → Except DeliveryError Bool → List Mark → Prop where
  | ignored (ha : (d.policy.accepts p.event).value = false) :
      Handles d log state p state (.ok false) (d.policy.accepts p.event).marks
  | unrouted {e : EvalError} (ha : (d.policy.accepts p.event).value = true)
      (hd : (d.policy.destination p).run.value = .error e) :
      Handles d log state p state (.error (.unevaluated e))
        ((d.policy.accepts p.event).marks ++ (d.policy.destination p).run.marks)
  | untransformed {destination : Destination} {e : EvalError}
      (ha : (d.policy.accepts p.event).value = true)
      (hd : (d.policy.destination p).run.value = .ok destination)
      (ht : (d.policy.transform p).run.value = .error e) :
      Handles d log state p state (.error (.unevaluated e))
        ((d.policy.accepts p.event).marks ++
          ((d.policy.destination p).run.marks ++ (d.policy.transform p).run.marks))
  | refused {destination : Destination} {q : Payload} {next : σ} {source : Failure}
      (ha : (d.policy.accepts p.event).value = true)
      (hd : (d.policy.destination p).run.value = .ok destination)
      (ht : (d.policy.transform p).run.value = .ok q)
      (hs : (d.sink.accept state destination q).value = (next, .error source)) :
      Handles d log state p next (.error (.refused destination source))
        (d.handoverMarks log state p destination q)
  | delivered {destination : Destination} {q : Payload} {next : σ}
      (ha : (d.policy.accepts p.event).value = true)
      (hd : (d.policy.destination p).run.value = .ok destination)
      (ht : (d.policy.transform p).run.value = .ok q)
      (hs : (d.sink.accept state destination q).value = (next, .ok ())) :
      Handles d log state p next (.ok true) (d.handoverMarks log state p destination q)

/-- Payloads are handled one after the other, each in the state that those before it have left. -/
inductive History (d : Dispatcher σ) (log : LogFilter) :
    σ → List Payload → σ → List (Except DeliveryError Bool) → List Mark → Prop where
  | nil {state : σ} : History d log state [] state [] []
  | cons {state next last : σ} {p : Payload} {rest : List Payload}
      {answer : Except DeliveryError Bool} {answers : List (Except DeliveryError Bool)}
      {marks more : List Mark} (h : Handles d log state p next answer marks)
      (hrest : History d log next rest last answers more) :
      History d log state (p :: rest) last (answer :: answers) (marks ++ more)

section

variable {c : Policy} {p q : Payload} {destination : Destination} {e : EvalError}

theorem run_evaluate_of_unrouted (hd : (c.destination p).run.value = .error e) :
    (evaluate c p).run = ⟨.error e, (c.destination p).run.marks⟩ := by
  unfold evaluate
  rw [ExceptT.run_bind, Traced.bind_of_value hd]
  simp

theorem run_evaluate_of_untransformed (hd : (c.destination p).run.value = .ok destination)
    (ht : (c.transform p).run.value = .error e) :
    (evaluate c p).run =
      ⟨.error e, (c.destination p).run.marks ++ (c.transform p).run.marks⟩ := by
  unfold evaluate
  rw [ExceptT.run_bind, Traced.bind_of_value hd]
  dsimp only
  rw [ExceptT.run_bind, Traced.bind_of_value ht]
  simp

theorem run_evaluate_of_ok (hd : (c.destination p).run.value = .ok destination)
    (ht : (c.transform p).run.value = .ok q) :
    (evaluate c p).run =
      ⟨.ok (destination, q), (c.destination p).run.marks ++ (c.transform p).run.marks⟩ := by
  unfold evaluate
  rw [ExceptT.run_bind, Traced.bind_of_value hd]
  dsimp only
  rw [ExceptT.run_bind, Traced.bind_of_value ht]
  simp

end

theorem marks_report (log : LogFilter) (r : LogRecord) :
    (report log r).marks = ([r].filter log.keeps).map .logged := by
  unfold report
  cases h : log.keeps r with
  | true =>
    simp [h]
    rfl
  | false => simp [h]

section

variable (d : Dispatcher σ) (log : LogFilter) (state : σ) {p : Payload}

theorem dispatch_of_ignored (ha : (d.policy.accepts p.event).value = false) :
    d.dispatch log state p = ⟨(state, .ok false), (d.policy.accepts p.event).marks⟩ := by
  unfold dispatch
  rw [Traced.bind_of_value ha]
  simp

theorem dispatch_of_unevaluated {e : EvalError} {marks : List Mark}
    (ha : (d.policy.accepts p.event).value = true)
    (he : (evaluate d.policy p).run = ⟨.error e, marks⟩) :
    d.dispatch log state p =
      ⟨(state, .error (.unevaluated e)), (d.policy.accepts p.event).marks ++ marks⟩ := by
  unfold dispatch
  rw [Traced.bind_of_value ha, he]
  simp [bind]

theorem dispatch_of_evaluated {destination : Destination} {q : Payload} {marks : List Mark}
    {next : σ} {result : Except Failure Unit}
    (ha : (d.policy.accepts p.event).value = true)
    (he : (evaluate d.policy p).run = ⟨.ok (destination, q), marks⟩)
    (hs : (d.sink.accept state destination q).value = (next, result)) :
    d.dispatch log state p =
      ⟨(next, match result with
          | .ok () => .ok true
          | .error source => .error (.refused destination source)),
        (d.policy.accepts p.event).marks ++ marks ++ (notices log p destination q ++
          .delivered destination q :: (d.sink.accept state destination q).marks)⟩ := by
  unfold dispatch
  rw [Traced.bind_of_value ha, he]
  cases result <;> simp [bind, hs, marks_report, Traced.mark, notices]

theorem handles_dispatch (p : Payload) :
    Handles d log state p (d.dispatch log state p).value.1 (d.dispatch log state p).value.2
      (d.dispatch log state p).marks := by
  cases ha : (d.policy.accepts p.event).value with
  | false =>
    rw [dispatch_of_ignored d log state ha]
    exact .ignored ha
  | true =>
    cases hd : (d.policy.destination p).run.value with
    | error e =>
      rw [dispatch_of_unevaluated d log state ha (run_evaluate_of_unrouted hd)]
      exact .unrouted ha hd
    | ok destination =>
      cases ht : (d.policy.transform p).run.value with
      | error e =>
        rw [dispatch_of_unevaluated d log state ha (run_evaluate_of_untransformed hd ht)]
        exact .untransformed ha hd ht
      | ok q =>
        cases hs : (d.sink.accept state destination q).value with
        | mk next result =>
          rw [dispatch_of_evaluated d log state ha (run_evaluate_of_ok hd ht) hs]
          cases result with
          | error source => exact .refused ha hd ht hs
          | ok => exact .delivered ha hd ht hs

theorem history_dispatchAll (payloads : List Payload) :
    History d log state payloads (d.dispatchAll log state payloads).value.1
      (d.dispatchAll log state payloads).value.2 (d.dispatchAll log state payloads).marks := by
  induction payloads generalizing state with
  | nil => exact .nil
  | cons p rest ih =>
    have hrest := ih (d.dispatch log state p).value.1
    have hall : d.dispatchAll log state (p :: rest) =
        ⟨((d.dispatchAll log (d.dispatch log state p).value.1 rest).value.1,
            (d.dispatch log state p).value.2 ::
              (d.dispatchAll log (d.dispatch log state p).value.1 rest).value.2),
          (d.dispatch log state p).marks ++
            (d.dispatchAll log (d.dispatch log state p).value.1 rest).marks⟩ := by
      rw [dispatchAll]
      change Traced.mk _ (_ ++ (_ ++ [])) = _
      rw [List.append_nil]
      rfl
    rw [hall]
    exact .cons (handles_dispatch d log state p) hrest

end

section

variable {d : Dispatcher σ} {log : LogFilter}

/-- Nothing but a delivery changes the state of the sink. -/
theorem Handles.state_eq {state next : σ} {p : Payload} {answer : Except DeliveryError Bool}
    {marks : List Mark} (h : Handles d log state p next answer marks) :
    next = (d.policy.delivery? p).elim state fun r => (d.sink.accept state r.1 r.2).value.1 := by
  cases h with
  | ignored ha => simp [Policy.delivery?, ha]
  | unrouted ha hd => simp [Policy.delivery?, ha, hd]
  | untransformed ha hd ht => simp [Policy.delivery?, ha, hd, ht]
  | refused ha hd ht hs | delivered ha hd ht hs =>
    rw [Policy.delivery?_eq_some_iff.mpr ⟨ha, hd, ht⟩]
    simp [hs]

theorem History.state_eq {state last : σ} {payloads : List Payload}
    {answers : List (Except DeliveryError Bool)} {marks : List Mark}
    (h : History d log state payloads last answers marks) :
    last = (payloads.filterMap d.policy.delivery?).foldl
      (fun state r => (d.sink.accept state r.1 r.2).value.1) state := by
  induction h with
  | nil => rfl
  | @cons state next last p rest _ _ _ _ h _ ih =>
    have hnext := h.state_eq
    rw [ih, hnext]
    cases hp : d.policy.delivery? p with
    | none => rw [List.filterMap_cons_none hp, Option.elim_none]
    | some r => rw [List.filterMap_cons_some hp, List.foldl_cons, Option.elim_some]

end

theorem foldl_recording (records deliveries : List (Destination × Payload)) :
    deliveries.foldl (fun state r => (Sink.recording.accept state r.1 r.2).value.1) records =
      records ++ deliveries := by
  induction deliveries generalizing records with
  | nil => simp
  | cons r rest ih =>
    have hone : (Sink.recording.accept records r.1 r.2).value.1 = records ++ [r] := rfl
    rw [List.foldl_cons, hone, ih, List.append_assoc, List.singleton_append]

/-- The record about a payload on its way to a destination. -/
def recordOf (level : Level) (p : Payload) (destination : Destination)
    (details : List (String × String)) : LogRecord :=
  ⟨level, origin, "Externalizing event",
    [("event_type", p.event.type.name), ("routing_target", destination.text)] ++ details⟩

theorem notices_eq (log : LogFilter) (p : Payload) (destination : Destination) (q : Payload) :
    notices log p destination q =
      ([if log.hints .trace origin then
          recordOf .trace p destination [("payload", q.event.content.describe)]
        else recordOf .debug p destination []].filter log.keeps).map .logged := by
  unfold notices announcement recordOf
  cases log.hints .trace origin <;> rfl

theorem notices_upTo (level : Level) (p : Payload) (destination : Destination) (q : Payload) :
    notices (.upTo level) p destination q =
      match level with
      | .trace =>
        [.logged (recordOf .trace p destination [("payload", q.event.content.describe)])]
      | .debug => [.logged (recordOf .debug p destination [])]
      | .info | .warn | .error => [] := by
  rw [notices_eq]
  cases level <;> rfl

/-- Dispatched one after the other, payloads are each handled by themselves. The sink is given just
those that are accepted, have a destination and can be transformed, in order and once each; nothing
else changes it. Right before that one record is written, which the log shows where it is read that
far. -/
theorem dispatchAll_history (d : Dispatcher σ) (log : LogFilter) (state : σ)
    (payloads : List Payload) :
    History d log state payloads (d.dispatchAll log state payloads).value.1
      (d.dispatchAll log state payloads).value.2 (d.dispatchAll log state payloads).marks ∧
    (d.dispatchAll log state payloads).value.1 =
      (payloads.filterMap d.policy.delivery?).foldl
        (fun state r => (d.sink.accept state r.1 r.2).value.1) state ∧
    (∀ records, (dispatchAll ⟨d.policy, .recording⟩ log records payloads).value.1 =
      records ++ payloads.filterMap d.policy.delivery?) ∧
    (∀ p destination q, d.policy.delivery? p = some (destination, q) ↔
      (d.policy.accepts p.event).value = true ∧
        (d.policy.destination p).run.value = .ok destination ∧
        (d.policy.transform p).run.value = .ok q) ∧
    (∀ p destination q, notices log p destination q =
      ([if log.hints .trace origin then
          recordOf .trace p destination [("payload", q.event.content.describe)]
        else recordOf .debug p destination []].filter log.keeps).map .logged) ∧
    (∀ level p destination q, notices (.upTo level) p destination q =
      match level with
      | .trace =>
        [.logged (recordOf .trace p destination [("payload", q.event.content.describe)])]
      | .debug => [.logged (recordOf .debug p destination [])]
      | .info | .warn | .error => []) := by
  have hhistory := history_dispatchAll d log state payloads
  refine ⟨hhistory, hhistory.state_eq, ?_, ?_, notices_eq log, notices_upTo⟩
  · intro records
    rw [(history_dispatchAll ⟨d.policy, .recording⟩ log records payloads).state_eq]
    exact foldl_recording records _
  · intro p destination q
    exact Policy.delivery?_eq_some_iff

end Dispatcher

end Outbound
