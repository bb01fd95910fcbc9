import Outbound.Proofs.Settings.Naming
import Outbound.Proofs.Stream.Transcript

namespace Outbound

namespace Dispatcher

variable {σ : Type} {d : Dispatcher σ} {log : LogFilter} {state : σ} {p : Payload}

theorem dispatch_unevaluated_iff {e : EvalError} :
    (d.dispatch log state p).value.2 = .error (.unevaluated e) ↔
      (d.policy.accepts p.event).value = true ∧ (evaluate d.policy p).run.value = .error e := by
  rw [value_dispatch]
  split
  next ha =>
    cases (evaluate d.policy p).run.value with
    | error other => simp [ha]
    | ok result =>
      simp only [reduceCtorEq, and_false, iff_false]
      split <;> simp
  next ha => simp [ha]

end Dispatcher

namespace Settings

variable {s : Settings}

/-- The settings list a type under a blank route. -/
def ListsBlank (s : Settings) (name : String) : Prop :=
  ∃ route, s.declarations.get? name = some route ∧ isBlank route = true

theorem registry_routeOf_eq_none_iff {event : StreamEvent} :
    (s.registry.routeOf event.toEvent).value = none ↔
      ∀ route, s.declarations.get? event.typeName = some route → isBlank route = true := by
  rw [value_registry_routeOf]
  change (none : Option String).or ((s.declarations.get? event.typeName).bind unlessBlank) =
    none ↔ _
  rw [Option.none_or, Option.bind_eq_none_iff]
  apply forall₂_congr
  intro route _
  unfold unlessBlank
  split <;> simp_all

theorem registry_covers_iff {event : StreamEvent} :
    (s.registry.sources.any fun source => (source.covers event.toEvent).value) = true ↔
      ∃ route, s.declarations.get? event.typeName = some route := by
  change ([RouteSource.declared .outbound, .table s.declarations].any
    fun source => (source.covers event.toEvent).value) = true ↔ _
  rw [← Option.isSome_iff_exists]
  simp only [List.any_cons, List.any_nil, Bool.or_false]
  change (false || s.declarations.contains event.typeName) = true ↔ _
  rw [Bool.false_or]
  rfl

/-- A listed event of a stream is accepted without getting a destination just when its type is
named by a namespace and is listed under a blank route. -/
theorem invalid_event_iff {c : Policy} (hs : s.policy = .ok c) {event : StreamEvent}
    {reason : InvalidArgument} :
    ((c.accepts event.toEvent).value = true ∧
        (c.destination (.raised event.toEvent)).run.value = .error (.invalidArgument reason)) ↔
      reason = .emptyDestination ∧ s.ListsBlank event.typeName ∧
        Policy.NamedByRoot s.namespaces ⟨event.typeName⟩ := by
  constructor
  · intro h
    obtain ⟨ha, he⟩ := h
    obtain ⟨hroute, hnamed, hreason⟩ :=
      (Policy.destination_eq_error_iff (p := .raised event.toEvent) hs (registry_isBuiltIn s)
        ha _).mp he
    rw [Policy.accepts_of_preset hs, Bool.and_eq_true] at ha
    obtain ⟨route, hlisted⟩ := registry_covers_iff.mp ha.2
    exact ⟨EvalError.invalidArgument.inj hreason,
      ⟨route, hlisted, registry_routeOf_eq_none_iff.mp hroute route hlisted⟩, hnamed⟩
  · intro h
    obtain ⟨rfl, ⟨route, hlisted, hblank⟩, hnamed⟩ := h
    have ha : (c.accepts event.toEvent).value = true := by
      obtain ⟨root, hroot, hwithin, _⟩ := hnamed
      rw [Policy.accepts_of_preset hs, Bool.and_eq_true]
      exact ⟨List.any_eq_true.mpr ⟨root, hroot, hwithin⟩, registry_covers_iff.mpr ⟨route, hlisted⟩⟩
    have hroute : (s.registry.routeOf event.toEvent).value = none := by
      apply registry_routeOf_eq_none_iff.mpr
      intro other hother
      rw [hlisted] at hother
      rwa [← Option.some.inj hother]
    exact ⟨ha, (Policy.destination_eq_error_iff (p := .raised event.toEvent) hs
      (registry_isBuiltIn s) ha _).mpr ⟨hroute, hnamed, rfl⟩⟩

end Settings

namespace Stream

theorem dispatchLines_unevaluated_iff {σ : Type} {d : Dispatcher σ} {log : LogFilter}
    {number : Nat} {line : List UInt8} {state : σ} {tally : Tally} {e : EvalError} :
    (dispatchLines d log number [line] state tally).value.2 =
        .error (.delivery (.unevaluated e)) ↔
      ∃ event, readLine number line = .ok (some event) ∧
        (d.policy.accepts event.toEvent).value = true ∧
        (Dispatcher.evaluate d.policy (.raised event.toEvent)).run.value = .error e := by
  rw [dispatchLines]
  cases hread : readLine number line with
  | error other =>
    have hne : other ≠ .delivery (.unevaluated e) := by
      intro heq
      subst heq
      unfold readLine at hread
      split at hread
      next => simp at hread
      next =>
        split at hread
        next => simp at hread
        next => split at hread <;> simp at hread
    simp [hne]
  | ok event? =>
    cases event? with
    | none => simp [dispatchLines]
    | some event =>
      have hdispatch : (d.dispatch log state (.raised event.toEvent)).value.2 =
          .error (.unevaluated e) ↔ _ := Dispatcher.dispatch_unevaluated_iff
      simp only [Except.ok.injEq, Option.some.injEq, exists_eq_left', Traced.value_bind]
      refine Iff.trans ?_ hdispatch
      split
      next h => simp [h]
      next h => simp [h, dispatchLines]

theorem destination_exists_iff {namespaces : List String} {r : Registry} {c : Policy}
    (hr : r.IsBuiltIn) (h : Policy.preset namespaces r = .ok c) {p : Payload}
    (ha : (c.accepts p.event).value = true) :
    ((∃ d, (c.destination p).run.value = .ok d) ↔
      ¬ ((r.routeOf p.event).value = none ∧ Policy.NamedByRoot namespaces p.event.type)) ∧
    ∀ e, (c.destination p).run.value = .error e → e = .invalidArgument .emptyDestination := by
  have herror := Policy.destination_eq_error_iff h hr ha
  constructor
  · cases hd : (c.destination p).run.value with
    | error e =>
      obtain ⟨hroute, hnamed, _⟩ := (herror e).mp hd
      simp [hroute, hnamed]
    | ok d =>
      have hnot := herror (.invalidArgument .emptyDestination)
      rw [hd] at hnot
      simpa using hnot
  · intro e he
    exact ((herror e).mp he).2.2

theorem run_invalidArgument_iff {settings : Settings} {c : Policy} (hs : settings.policy = .ok c)
    {ω : Type} {w : Writer ω} {log : LogFilter} {start : ω} {input : List UInt8}
    {reason : InvalidArgument} :
    (run settings log w start input).value.2 =
        .error (.delivery (.unevaluated (.invalidArgument reason))) ↔
      reason = .emptyDestination ∧
      ∃ before line after event next tally,
        lines input = before ++ line :: after ∧
        (dispatchLines ⟨c, Sink.jsonLines Encoder.body w⟩ log 1 before start ⟨0, 0⟩).value =
          (next, .ok tally) ∧
        readLine (1 + before.length) line = .ok (some event) ∧
        settings.ListsBlank event.typeName ∧
        Policy.NamedByRoot settings.namespaces ⟨event.typeName⟩ := by
  have hkeeps := Settings.keepsEvents_of_policy hs
  unfold run
  rw [hs]
  rw [value_dispatchLines_eq_error_iff]
  simp only [dispatchLines_unevaluated_iff, Dispatcher.value_evaluate hkeeps]
  constructor
  · intro h
    obtain ⟨before, line, after, next, tally, hlines, hbefore, event, hread, ha, he⟩ := h
    have hd : (c.destination (.raised event.toEvent)).run.value =
        .error (.invalidArgument reason) := by
      cases hd : (c.destination (.raised event.toEvent)).run.value with
      | error e => simpa [hd, Except.map] using he
      | ok d => simp [hd, Except.map] at he
    obtain ⟨hreason, hblank, hnamed⟩ := (Settings.invalid_event_iff hs).mp ⟨ha, hd⟩
    exact ⟨hreason, before, line, after, event, next, tally, hlines, hbefore, hread, hblank,
      hnamed⟩
  · intro h
    obtain ⟨hreason, before, line, after, event, next, tally, hlines, hbefore, hread, hblank,
      hnamed⟩ := h
    obtain ⟨ha, hd⟩ := (Settings.invalid_event_iff hs).mpr ⟨hreason, hblank, hnamed⟩
    refine ⟨before, line, after, next, tally, hlines, hbefore, event, hread, ha, ?_⟩
    simp [hd, Except.map]

/-- Accepted events have destinations, but for those that are named by a namespace and are declared
without a route. A stream is refused an argument at the first line with such an event, and for no
other reason. -/
theorem accepted_events_have_destinations {namespaces : List String} {r : Registry} {c : Policy}
    (hr : r.IsBuiltIn) (h : Policy.preset namespaces r = .ok c) :
    (∀ p : Payload, (c.accepts p.event).value = true →
      ((∃ d, (c.destination p).run.value = .ok d) ↔
        ¬ ((r.routeOf p.event).value = none ∧ Policy.NamedByRoot namespaces p.event.type)) ∧
      ∀ e, (c.destination p).run.value = .error e → e = .invalidArgument .emptyDestination) ∧
    (∀ settings : Settings, settings.policy = .ok c →
      ∀ (ω : Type) (w : Writer ω) (log : LogFilter) (start : ω) (input : List UInt8)
        (reason : InvalidArgument),
        (run settings log w start input).value.2 =
            .error (.delivery (.unevaluated (.invalidArgument reason))) ↔
          reason = .emptyDestination ∧
          ∃ before line after event next tally,
            lines input = before ++ line :: after ∧
            (dispatchLines ⟨c, Sink.jsonLines Encoder.body w⟩ log 1 before start ⟨0, 0⟩).value =
              (next, .ok tally) ∧
            readLine (1 + before.length) line = .ok (some event) ∧
            settings.ListsBlank event.typeName ∧
            Policy.NamedByRoot settings.namespaces ⟨event.typeName⟩) := by
  constructor
  · intro p ha
    exact destination_exists_iff hr h ha
  · intro settings hs ω w log start input reason
    exact run_invalidArgument_iff hs

/-- Settings that list two types without a route, one of them named by the namespace alone. -/
def bareShop : Settings :=
  ⟨["acme::shop"], .ofList [("acme::shop::", ""), ("acme::shop::Ping", "")]⟩

/-- The listed type below the namespace has a destination, the other one ends the stream. -/
theorem destinations_of_bareShop :
    (∃ c, bareShop.policy = .ok c ∧ ∃ d,
      (c.destination (.raised (StreamEvent.toEvent ⟨"acme::shop::Ping", .null⟩))).run.value = .ok d) ∧
    (run bareShop .nothing .memory "" "\x7b\"type\":\"acme::shop::\"\x7d\n".toUTF8.toList).value.2 =
      .error (.delivery (.unevaluated (.invalidArgument .emptyDestination))) := by
  obtain ⟨c, hpolicy⟩ : ∃ c, bareShop.policy = .ok c := ⟨_, rfl⟩
  have hpreset : Policy.preset bareShop.namespaces bareShop.registry = .ok c := hpolicy
  obtain ⟨hevents, hstream⟩ :=
    accepted_events_have_destinations (Settings.registry_isBuiltIn bareShop) hpreset
  constructor
  · have ha : (c.accepts (StreamEvent.toEvent ⟨"acme::shop::Ping", .null⟩)).value = true := by
      rw [Policy.accepts_of_preset hpreset]
      decide +kernel
    refine ⟨c, hpolicy, ?_⟩
    refine (hevents (.raised (StreamEvent.toEvent ⟨"acme::shop::Ping", .null⟩)) ha).1.mpr ?_
    intro h
    obtain ⟨_, root, hroot, _, hname⟩ := h
    rw [List.mem_singleton.mp hroot] at hname
    exact absurd hname (by decide +kernel)
  · have hlines : lines "\x7b\"type\":\"acme::shop::\"\x7d\n".toUTF8.toList =
        [] ++ "\x7b\"type\":\"acme::shop::\"\x7d".toUTF8.toList :: [] := by decide +kernel
    have hread : (readLine 1 "\x7b\"type\":\"acme::shop::\"\x7d".toUTF8.toList).map
        (·.map StreamEvent.typeName) = .ok (some "acme::shop::") := by decide +kernel
    cases hline : readLine 1 "\x7b\"type\":\"acme::shop::\"\x7d".toUTF8.toList with
    | error e =>
      rw [hline] at hread
      simp [Except.map] at hread
    | ok event? =>
      rw [hline] at hread
      obtain ⟨event, rfl, hname⟩ := Option.map_eq_some_iff.mp (Except.ok.inj hread)
      refine (hstream bareShop hpolicy String .memory .nothing "" _ .emptyDestination).mpr
        ⟨rfl, [], _, [], event, _, _, hlines, rfl, hline, ?_, ?_⟩
      · rw [hname]
        exact ⟨"", by decide +kernel, by decide +kernel⟩
      · rw [hname]
        exact ⟨"acme::shop", by decide +kernel, by decide +kernel, by decide +kernel⟩

/-- An accepted event may be left without a destination, although its concrete type has a name. -/
theorem accepted_without_destination :
    isBlank (StreamEvent.toEvent ⟨"acme::shop::", .null⟩).concreteName = false ∧
    ∃ c, bareShop.policy = .ok c ∧
      (c.accepts (StreamEvent.toEvent ⟨"acme::shop::", .null⟩)).value = true ∧
      (c.destination (.raised (StreamEvent.toEvent ⟨"acme::shop::", .null⟩))).run.value =
        .error (.invalidArgument .emptyDestination) := by
  refine ⟨by decide +kernel, _, rfl, by decide +kernel, by decide +kernel⟩

end Stream

end Outbound
