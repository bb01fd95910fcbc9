import Outbound.Proofs.Policy.Preset
import Outbound.Proofs.Stream.Dispatch

namespace Outbound

/-- The writer never fails, and `written` tells the text that it has been given. -/
structure Writer.Keeps {ω : Type} (w : Writer ω) (written : ω → String) : Prop where
  write : ∀ state s, ∃ next, w.write state s = (next, .ok ()) ∧ written next = written state ++ s
  flush : ∀ state, ∃ next, w.flush state = (next, .ok ()) ∧ written next = written state

theorem Writer.memory_keeps : Writer.memory.Keeps id :=
  ⟨fun state s => ⟨state ++ s, rfl, rfl⟩, fun state => ⟨state, rfl, rfl⟩⟩

theorem Writer.Keeps.writeLine {ω : Type} {w : Writer ω} {written : ω → String}
    (hw : w.Keeps written) (state : ω) (line : String) :
    ∃ next, w.writeLine state line = (next, .ok ()) ∧
      written next = written state ++ (line ++ "\n") := by
  obtain ⟨mid, hline, hmid⟩ := hw.write state line
  obtain ⟨after, hfeed, hafter⟩ := hw.write mid "\n"
  obtain ⟨next, hflush, hnext⟩ := hw.flush after
  refine ⟨next, ?_, ?_⟩
  · simp only [Writer.writeLine, hline, hfeed, hflush]
  · rw [hnext, hafter, hmid, String.append_assoc]

/-- Both counts are added. -/
def Tally.plus (a b : Tally) : Tally :=
  ⟨a.events + b.events, a.delivered + b.delivered⟩

theorem Tally.zero_plus (a : Tally) : Tally.plus ⟨0, 0⟩ a = a := by
  simp [plus]

theorem Tally.plus_assoc (a b c : Tally) : (a.plus b).plus c = a.plus (b.plus c) := by
  simp [plus, Nat.add_assoc]

/-- The policy sends events out as they are. -/
def Policy.KeepsEvents (c : Policy) : Prop :=
  ∀ p, c.transform p = pure p

theorem Settings.keepsEvents_of_policy {settings : Settings} {c : Policy}
    (hs : settings.policy = .ok c) : c.KeepsEvents :=
  Policy.transform_of_preset hs

namespace Dispatcher

theorem value_evaluate {c : Policy} (hc : c.KeepsEvents) (p : Payload) :
    (evaluate c p).run.value = (c.destination p).run.value.map fun d => (d, p) := by
  have hbind : (evaluate c p).run.value =
      ((c.destination p >>= fun d => c.transform p >>= fun q => pure (d, q)) :
        Eval (Destination × Payload)).run.value := rfl
  rw [hbind, ExceptT.run_bind, Traced.value_bind]
  cases (c.destination p).run.value with
  | error e => rfl
  | ok d =>
    rw [hc p]
    rfl

end Dispatcher

namespace Stream

/-- The line of the output for the body of an event and its destination. -/
def outputLine (d : Destination) (body : Json) : String :=
  (Sink.jsonRecord d body).render ++ "\n"

/-- What one line does under a policy that keeps events: it adds to the tally and to the output,
or it ends the run. -/
def effect (c : Policy) (number : Nat) (line : List UInt8) : Except StreamError (Tally × String) :=
  match readLine number line with
  | .error e => .error e
  | .ok none => .ok (⟨0, 0⟩, "")
  | .ok (some event) =>
    if (c.accepts event.toEvent).value then
      match (c.destination (.raised event.toEvent)).run.value with
      | .error e => .error (.delivery (.unevaluated e))
      | .ok d => .ok (⟨1, 1⟩, outputLine d event.body)
    else .ok (⟨1, 0⟩, "")

/-- The output of a run and how it ends, line by line. -/
def transcript (c : Policy) : Nat → List (List UInt8) → String × Except StreamError Tally
  | _, [] => ("", .ok ⟨0, 0⟩)
  | number, line :: rest =>
    match effect c number line with
    | .error e => ("", .error e)
    | .ok (tally, text) =>
      (text ++ (transcript c (number + 1) rest).1,
        (transcript c (number + 1) rest).2.map tally.plus)

section

variable {ω : Type} {w : Writer ω} {written : ω → String} {c : Policy} (log : LogFilter)

theorem value_dispatch_event (hw : w.Keeps written) (hc : c.KeepsEvents) (state : ω)
    (event : StreamEvent) :
    (Dispatcher.dispatch ⟨c, Sink.jsonLines Encoder.body w⟩ log state
      (.raised event.toEvent)).value =
      if (c.accepts event.toEvent).value then
        match (c.destination (.raised event.toEvent)).run.value with
        | .error e => (state, .error (.unevaluated e))
        | .ok d => ((w.writeLine state (Sink.jsonRecord d event.body).render).1, .ok true)
      else (state, .ok false) := by
  rw [Dispatcher.value_dispatch, Dispatcher.value_evaluate hc]
  apply ite_congr rfl (fun _ => ?_) (fun _ => rfl)
  cases (c.destination (.raised event.toEvent)).run.value with
  | error e => rfl
  | ok d =>
    obtain ⟨next, hline, _⟩ := hw.writeLine state (Sink.jsonRecord d event.body).render
    have haccept : ((Sink.jsonLines Encoder.body w).accept state d (.raised event.toEvent)).value =
        (next, .ok ()) := hline
    simp only [Except.map, haccept, hline]

theorem value_dispatchLines_of_error (hw : w.Keeps written) (hc : c.KeepsEvents) {number : Nat}
    {line : List UInt8} {e : StreamError} (h : effect c number line = .error e)
    (rest : List (List UInt8)) (state : ω) (tally : Tally) :
    (dispatchLines ⟨c, Sink.jsonLines Encoder.body w⟩ log number (line :: rest) state tally).value =
      (state, .error e) := by
  unfold effect at h
  rw [dispatchLines]
  cases hread : readLine number line with
  | error reason =>
    rw [hread] at h
    simpa using h
  | ok found =>
    rw [hread] at h
    cases found with
    | none => simp at h
    | some event =>
      simp only [Traced.value_bind, value_dispatch_event log hw hc]
      dsimp only at h
      split at h
      next ha =>
        simp only [ha, ↓reduceIte]
        split at h
        next hd => simpa [hd] using h
        next => simp at h
      next => simp at h

theorem value_dispatchLines_of_ok (hw : w.Keeps written) (hc : c.KeepsEvents) {number : Nat}
    {line : List UInt8} {more : Tally} {text : String}
    (h : effect c number line = .ok (more, text))
    (rest : List (List UInt8)) (state : ω) (tally : Tally) :
    ∃ next, written next = written state ++ text ∧
      (dispatchLines ⟨c, Sink.jsonLines Encoder.body w⟩ log number (line :: rest) state tally).value =
        (dispatchLines ⟨c, Sink.jsonLines Encoder.body w⟩ log (number + 1) rest next
          (tally.plus more)).value := by
  unfold effect at h
  rw [dispatchLines]
  cases hread : readLine number line with
  | error reason =>
    rw [hread] at h
    simp at h
  | ok found =>
    rw [hread] at h
    cases found with
    | none =>
      obtain ⟨rfl, rfl⟩ := Prod.mk.inj (Except.ok.inj h)
      exact ⟨state, by simp, by simp [Tally.plus]⟩
    | some event =>
      simp only [Traced.value_bind, value_dispatch_event log hw hc]
      dsimp only at h
      split at h
      next ha =>
        simp only [ha, ↓reduceIte]
        split at h
        next => simp at h
        next d hd =>
          obtain ⟨rfl, rfl⟩ := Prod.mk.inj (Except.ok.inj h)
          obtain ⟨next, hline, hnext⟩ := hw.writeLine state (Sink.jsonRecord d event.body).render
          exact ⟨next, hnext, by simp [hline, Tally.plus]⟩
      next ha =>
        obtain ⟨rfl, rfl⟩ := Prod.mk.inj (Except.ok.inj h)
        exact ⟨state, by simp, by simp [ha, Tally.plus]⟩

/-- A writer that never fails is given just what the transcript tells. -/
theorem value_dispatchLines (hw : w.Keeps written) (hc : c.KeepsEvents) (number : Nat)
    (rest : List (List UInt8)) (state : ω) (tally : Tally) :
    ∃ stop, written stop = written state ++ (transcript c number rest).1 ∧
      (dispatchLines ⟨c, Sink.jsonLines Encoder.body w⟩ log number rest state tally).value =
        (stop, (transcript c number rest).2.map tally.plus) := by
  induction rest generalizing number state tally with
  | nil =>
    refine ⟨state, by simp [transcript], ?_⟩
    simp [dispatchLines, transcript, Tally.plus, Except.map]
  | cons line rest ih =>
    unfold transcript
    cases he : effect c number line with
    | error e =>
      exact ⟨state, by simp, value_dispatchLines_of_error log hw hc he rest state tally⟩
    | ok more =>
      obtain ⟨next, hnext, hstep⟩ := value_dispatchLines_of_ok log hw hc he rest state tally
      obtain ⟨stop, hstop, hrest⟩ := ih (number + 1) next (tally.plus more.1)
      refine ⟨stop, ?_, ?_⟩
      · rw [hstop, hnext, String.append_assoc]
      · rw [hstep, hrest]
        cases (transcript c (number + 1) rest).2 with
        | error e => rfl
        | ok last => simp [Except.map, Tally.plus_assoc]

/-- A run ends as its transcript does, and a writer that never fails has been given its text. -/
theorem value_run (hw : w.Keeps written) {settings : Settings} (hs : settings.policy = .ok c)
    (hc : c.KeepsEvents) (state : ω) (input : List UInt8) :
    ∃ stop, written stop = written state ++ (transcript c 1 (lines input)).1 ∧
      (run settings log w state input).value = (stop, (transcript c 1 (lines input)).2) := by
  obtain ⟨stop, hstop, hvalue⟩ := value_dispatchLines log hw hc 1 (lines input) state ⟨0, 0⟩
  refine ⟨stop, hstop, ?_⟩
  unfold run
  rw [hs]
  simp only [hvalue]
  cases (transcript c 1 (lines input)).2 with
  | error e => rfl
  | ok tally => simp [Except.map, Tally.zero_plus]

end

end Stream

end Outbound
