import Outbound.Stream.Run

namespace Outbound

namespace Dispatcher

theorem value_dispatch {σ : Type} (d : Dispatcher σ) (log : LogFilter) (state : σ) (p : Payload) :
    (d.dispatch log state p).value =
      if (d.policy.accepts p.event).value then
        match (evaluate d.policy p).run.value with
        | .error e => (state, .error (.unevaluated e))
        | .ok (destination, transformed) =>
          match (d.sink.accept state destination transformed).value with
          | (state, .ok ()) => (state, .ok true)
          | (state, .error source) => (state, .error (.refused destination source))
      else (state, .ok false) := by
  unfold dispatch
  rw [Traced.value_bind]
  cases (d.policy.accepts p.event).value with
  | false => rfl
  | true =>
    simp only [↓reduceIte, Traced.value_bind]
    cases (evaluate d.policy p).run.value with
    | error e => rfl
    | ok result =>
      simp only [Traced.value_bind]
      split <;> simp_all

end Dispatcher

namespace Stream

variable {σ : Type} (d : Dispatcher σ) (log : LogFilter)

/-- Lines after a failure are not looked at, and others are read from where the lines before them
have left off. -/
theorem dispatchLines_append (number : Nat) (first second : List (List UInt8)) (state : σ)
    (tally : Tally) :
    dispatchLines d log number (first ++ second) state tally =
      dispatchLines d log number first state tally >>= fun r =>
        match r with
        | (state, .error e) => pure (state, .error e)
        | (state, .ok tally) =>
          dispatchLines d log (number + first.length) second state tally := by
  induction first generalizing number state tally with
  | nil => simp [dispatchLines]
  | cons line rest ih =>
    have hcount (n : Nat) : n + 1 + rest.length = n + (line :: rest).length := by
      rw [List.length_cons]
      omega
    rw [List.cons_append, dispatchLines, dispatchLines]
    cases readLine number line with
    | error e => simp
    | ok event? =>
      cases event? with
      | none =>
        simp only [ih, hcount]
      | some event =>
        simp only [bind_assoc]
        congr 1
        funext r
        obtain ⟨next, result⟩ := r
        cases result with
        | error e => simp
        | ok delivered => simp only [ih, hcount]

theorem value_dispatchLines_append_of_ok {number : Nat} {first : List (List UInt8)}
    {state next : σ} {tally more : Tally}
    (h : (dispatchLines d log number first state tally).value = (next, .ok more))
    (second : List (List UInt8)) :
    (dispatchLines d log number (first ++ second) state tally).value =
      (dispatchLines d log (number + first.length) second next more).value := by
  rw [dispatchLines_append, Traced.value_bind, h]

theorem dispatchLines_append_of_error {number : Nat} {first : List (List UInt8)}
    {state : σ} {tally : Tally} {e : StreamError}
    (h : (dispatchLines d log number first state tally).value.2 = .error e)
    (second : List (List UInt8)) :
    dispatchLines d log number (first ++ second) state tally =
      dispatchLines d log number first state tally := by
  rw [dispatchLines_append]
  generalize dispatchLines d log number first state tally = run at h
  obtain ⟨⟨next, result⟩, marks⟩ := run
  subst h
  simp [bind, pure]

/-- A failing run has a first line that fails, after lines that do not. -/
theorem value_dispatchLines_eq_error_iff {number : Nat} {lines : List (List UInt8)} {state : σ}
    {tally : Tally} {e : StreamError} :
    (dispatchLines d log number lines state tally).value.2 = .error e ↔
      ∃ before line after next more, lines = before ++ line :: after ∧
        (dispatchLines d log number before state tally).value = (next, .ok more) ∧
        (dispatchLines d log (number + before.length) [line] next more).value.2 = .error e := by
  constructor
  · intro h
    induction lines generalizing number state tally with
    | nil => simp [dispatchLines] at h
    | cons line rest ih =>
      cases hline : (dispatchLines d log number [line] state tally).value with
      | mk next result =>
        cases result with
        | error e' =>
          refine ⟨[], line, rest, state, tally, rfl, rfl, ?_⟩
          have hsame := dispatchLines_append_of_error d log (congrArg Prod.snd hline) rest
          rw [List.singleton_append] at hsame
          rw [hsame] at h
          exact h
        | ok more =>
          have hrest := value_dispatchLines_append_of_ok d log hline rest
          rw [List.singleton_append] at hrest
          rw [hrest] at h
          obtain ⟨before, last, after, next', more', heq, hbefore, hlast⟩ := ih h
          refine ⟨line :: before, last, after, next', more', by rw [heq, List.cons_append], ?_, ?_⟩
          · have hboth := value_dispatchLines_append_of_ok d log hline before
            rw [List.singleton_append] at hboth
            rw [hboth]
            exact hbefore
          · have hcount : number + (line :: before).length = number + [line].length + before.length := by
              simp only [List.length_cons, List.length_nil]
              omega
            rw [hcount]
            exact hlast
  · intro hh
    obtain ⟨before, line, after, next, more, rfl, hbefore, hline⟩ := hh
    rw [value_dispatchLines_append_of_ok d log hbefore, ← List.singleton_append,
      dispatchLines_append_of_error d log hline]
    exact hline

end Stream

end Outbound
