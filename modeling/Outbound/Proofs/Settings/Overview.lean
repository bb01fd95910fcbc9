import Mathlib.Data.List.Forall2
import Outbound.Proofs.Stream.EmptyNames
import Outbound.Proofs.Text.ByteOrder

namespace Outbound

namespace Settings

/-- The event of the given type that a stream may hold. -/
abbrev streamed (typeName : String) (body : Json) : Event :=
  StreamEvent.toEvent ⟨typeName, body⟩

/-- How a report tells that events of a type have a route. -/
def routedLine (name route : String) : String :=
  "  " ++ name ++ " -> " ++ route ++ "\n"

/-- How a report tells that events of a type are covered without a route. -/
def unroutedLine (name : String) : String :=
  "  " ++ name ++ " (default route)\n"

/-- A line tells what becomes of the events of a listed type. -/
structure Tells (s : Settings) (entry : String × String) (line : String) : Prop where
  routed : ∀ body, line = routedLine entry.1 entry.2 ↔
    (s.registry.routeOf (streamed entry.1 body)).value = some entry.2
  unrouted : ∀ body, line = unroutedLine entry.1 ↔
    (s.registry.routeOf (streamed entry.1 body)).value = none ∧
      (s.registry.covers (streamed entry.1 body)).value = true
  either : line = routedLine entry.1 entry.2 ∨ line = unroutedLine entry.1

/-- The text lists the namespaces as they were given, the listed types in the order of their bytes,
and the sources of routes by priority. -/
def IsReport (s : Settings) (text : String) : Prop :=
  ∃ entries lines,
    (∀ name route, (name, route) ∈ entries ↔ s.declarations.get? name = some route) ∧
    (entries.map Prod.fst).Pairwise (fun a b => utf8Bytes a < utf8Bytes b) ∧
    List.Forall₂ s.Tells entries lines ∧
    text = "Settings OK\n" ++
      "Namespaces (" ++ Nat.repr s.namespaces.length ++ "):\n" ++
      String.join (s.namespaces.map fun root => "  " ++ root ++ "\n") ++
      "Declared types (" ++ Nat.repr lines.length ++ "):\n" ++ String.join lines ++
      "Resolvers: " ++ ", ".intercalate (s.registry.sources.map RouteSource.name) ++ "\n"

variable {s : Settings}

theorem routedLine_ne_unroutedLine (name route : String) :
    routedLine name route ≠ unroutedLine name := by
  intro heq
  have hlists := congrArg String.toList heq
  simp [routedLine, unroutedLine] at hlists

theorem declarationLine_eq (entry : String × String) :
    overview.declarationLine entry =
      if isBlank entry.2 then unroutedLine entry.1 else routedLine entry.1 entry.2 := by
  unfold overview.declarationLine unroutedLine routedLine
  split <;> simp [String.append_assoc]

theorem registry_routeOf_of_listed {name route : String}
    (h : s.declarations.get? name = some route) (body : Json) :
    (s.registry.routeOf (streamed name body)).value = unlessBlank route := by
  rw [value_registry_routeOf]
  change (none : Option String).or ((s.declarations.get? name).bind unlessBlank) = _
  rw [h, Option.none_or, Option.bind_some]

theorem registry_covers_of_listed {name route : String}
    (h : s.declarations.get? name = some route) (body : Json) :
    (s.registry.covers (streamed name body)).value = true := by
  unfold Registry.covers
  rw [Registry.value_coveredBy]
  exact registry_covers_iff.mpr ⟨route, h⟩

theorem tells_declarationLine {entry : String × String}
    (h : s.declarations.get? entry.1 = some entry.2) :
    s.Tells entry (overview.declarationLine entry) := by
  have hroute := registry_routeOf_of_listed h
  have hcovers := registry_covers_of_listed h
  have hne := routedLine_ne_unroutedLine entry.1 entry.2
  unfold unlessBlank at hroute
  rw [declarationLine_eq]
  cases hblank : isBlank entry.2 with
  | true =>
    rw [hblank] at hroute
    exact ⟨fun body => by simp [hroute body, hne.symm],
      fun body => by simp [hroute body, hcovers body],
      Or.inr rfl⟩
  | false =>
    rw [hblank] at hroute
    exact ⟨fun body => by simp [hroute body], fun body => by simp [hroute body, hne], Or.inl rfl⟩

theorem isReport_overview (s : Settings) : s.IsReport s.overview := by
  refine ⟨s.declarations.entries, s.declarations.entries.map overview.declarationLine,
    ?_, ?_, ?_, ?_⟩
  · exact fun name route => Keyed.get?_eq_some_iff.symm
  · exact s.declarations.increasing.imp utf8Bytes_lt_iff.mpr
  · apply List.forall₂_map_right_iff.mpr
    apply List.forall₂_same.mpr
    intro entry hentry
    exact tells_declarationLine (Keyed.get?_eq_some_iff.mpr hentry)
  · rw [List.length_map]
    rfl

theorem check_eq (s : Settings) : s.check = s.policy.map fun _ => s.overview := by
  unfold check
  cases s.policy <;> rfl

theorem run_nil (s : Settings) {ω : Type} (w : Writer ω) (log : LogFilter) (start : ω) :
    (Stream.run s log w start []).value =
      (start, match s.policy with
        | .ok _ => .ok ⟨0, 0⟩
        | .error e => .error (.settings e)) := by
  unfold Stream.run
  cases s.policy <;> rfl

theorem policy_error {e : EvalError} (h : s.policy = .error e) :
    ∃ reason, e = .invalidArgument reason := by
  unfold policy at h
  rw [Policy.preset_eq] at h
  split at h
  next => exact ⟨_, (Except.error.inj h).symm⟩
  next =>
    split at h
    next => exact ⟨_, (Except.error.inj h).symm⟩
    next => simp at h

/-- Settings are reported to be fine just when events can be dispatched by them, and are refused for
the same reason otherwise. The report tells what becomes of the events of each listed type. -/
theorem check_tells_what_run_does (s : Settings) {ω : Type} (w : Writer ω) (log : LogFilter)
    (start : ω) :
    ((∃ text, s.check = .ok text) ↔ ∃ c, s.policy = .ok c) ∧
    ((∃ c, s.policy = .ok c) ↔
      ∃ tally, (Stream.run s log w start []).value = (start, .ok tally)) ∧
    (∀ e, (s.check = .error e ↔ s.policy = .error e) ∧
      (s.policy = .error e ↔
        (Stream.run s log w start []).value = (start, .error (.settings e))) ∧
      (s.policy = .error e → ∃ reason, e = .invalidArgument reason)) ∧
    (∀ text, s.check = .ok text → s.IsReport text) := by
  rw [check_eq, run_nil]
  refine ⟨?_, ?_, fun e => ⟨?_, ?_, policy_error⟩, fun text h => ?_⟩
  · cases s.policy <;> simp [Except.map]
  · cases s.policy <;> simp
  · cases s.policy <;> simp [Except.map]
  · cases s.policy <;> simp
  · cases hpolicy : s.policy with
    | error e => simp [hpolicy, Except.map] at h
    | ok c =>
      rw [hpolicy] at h
      exact Except.ok.inj h ▸ isReport_overview s

/-- Settings that list a type with a route and another one with a blank route, not in order. -/
def halfRoutedShop : Settings :=
  ⟨["acme::shop", "acme"],
    .ofList [("acme::shop::Viewed", "\u2003"), ("acme::shop::Placed", "orders")]⟩

/-- A route of Unicode space is told to be none, as it is taken for none. -/
theorem check_halfRoutedShop :
    ∃ text, halfRoutedShop.check = .ok text ∧ halfRoutedShop.IsReport text ∧
      (Stream.run halfRoutedShop .nothing .memory "" []).value = ("", .ok ⟨0, 0⟩) := by
  obtain ⟨c, hpolicy⟩ : ∃ c, halfRoutedShop.policy = .ok c := ⟨_, rfl⟩
  obtain ⟨hcheck, _, _, hreport⟩ :=
    check_tells_what_run_does halfRoutedShop .memory .nothing ""
  obtain ⟨text, htext⟩ := hcheck.mpr ⟨c, hpolicy⟩
  exact ⟨text, htext, hreport text htext, rfl⟩

/-- Each listed type has a line of its own, under the number of them. -/
example : halfRoutedShop.overview =
    "Settings OK\nNamespaces (2):\n  acme::shop\n  acme\nDeclared types (2):\n" ++
      "  acme::shop::Placed -> orders\n  acme::shop::Viewed (default route)\n" ++
      "Resolvers: externalize_core::declaration::Externalized, declaration-table\n" := by
  decide +kernel

end Settings

end Outbound
