import Outbound.Proofs.Policy.Selection

namespace Outbound

namespace Policy

/-- Why a list of namespaces is refused: it is empty, or an entry is blank, wherever it stands. -/
inductive RefusesRoots : List String → EvalError → Prop where
  | none : RefusesRoots [] (.invalidArgument .noBaseNamespaces)
  | blank {before after : List String} {root : String} (h : isBlank root = true) :
      RefusesRoots (before ++ root :: after) (.invalidArgument .blankNamespace)

/-- The filter as a caller would write it to see when it is called. -/
def reportingFilter (label : String) (filter : Event → Traced Bool) : Event → Traced Bool :=
  fun e => do
    Traced.mark (.called label)
    filter e

/-- Asks one policy after the other until one accepts the event. -/
def acceptsAny : List Policy → Event → Traced Bool
  | [], _ => pure false
  | c :: rest, e => do
    if ← c.accepts e then pure true else acceptsAny rest e

/-- Asks the second filter where the first one accepts. -/
def acceptsBoth (first second : Event → Traced Bool) : Event → Traced Bool := fun e => do
  if ← first e then second e else pure false

section

variable {root : String} {roots : List String} {filter : Event → Traced Bool} {c : Policy}
  {error : EvalError}

theorem refusesRoots_iff :
    RefusesRoots roots error ↔
      (roots.any isBlank = true ∧ error = .invalidArgument .blankNamespace) ∨
        (roots = [] ∧ error = .invalidArgument .noBaseNamespaces) := by
  constructor
  · intro h
    cases h with
    | none => exact Or.inr ⟨rfl, rfl⟩
    | blank h => exact Or.inl ⟨by simp [h], rfl⟩
  · intro h
    rcases h with ⟨hblank, rfl⟩ | ⟨rfl, rfl⟩
    · obtain ⟨root, hmem, hroot⟩ := List.any_eq_true.mp hblank
      obtain ⟨before, after, rfl⟩ := List.append_of_mem hmem
      exact .blank hroot
    · exact .none

theorem withinAny_eq_error_iff :
    withinAny roots filter = .error error ↔ RefusesRoots roots error := by
  rw [withinAny_eq, refusesRoots_iff]
  cases roots with
  | nil => simp [eq_comm]
  | cons root rest =>
    cases (root :: rest).any isBlank with
    | true => simp [eq_comm]
    | false => simp

theorem not_blank_of_withinAny (h : withinAny roots filter = .ok c) :
    ∀ root ∈ roots, isBlank root = false := by
  intro root hmem
  rw [Bool.eq_false_iff]
  intro hroot
  obtain ⟨before, after, rfl⟩ := List.append_of_mem hmem
  cases (withinAny_eq_error_iff.mpr (.blank hroot)).symm.trans h

theorem accepts_of_withinAny (h : withinAny roots filter = .ok c) (e : Event) :
    c.accepts e = if roots.any e.type.isWithin then filter e else pure false := by
  rw [eq_of_withinAny h]
  rfl

theorem accepts_of_withinAny_iff (h : withinAny roots filter = .ok c) (e : Event) :
    (c.accepts e).value = true ↔
      (∃ root ∈ roots, e.type.isWithin root = true) ∧ (filter e).value = true := by
  rw [accepts_of_withinAny h, ← List.any_eq_true]
  cases roots.any e.type.isWithin <;> simp

theorem marks_accepts_of_withinAny {label : String}
    (h : withinAny roots (reportingFilter label filter) = .ok c) (e : Event) :
    (c.accepts e).marks =
      if roots.any e.type.isWithin then .called label :: (filter e).marks else [] := by
  rw [accepts_of_withinAny h]
  cases roots.any e.type.isWithin <;> rfl

theorem within_of_not_blank (h : isBlank root = false) :
    within root = .ok (ofFilter fun e => pure (e.type.isWithin root)) := by
  rw [within_eq, h]
  rfl

/-- Policies that select by one namespace each together accept what stands in one of them. -/
theorem acceptsAny_within (hroots : ∀ root ∈ roots, isBlank root = false) :
    ∃ singles, List.Forall₂ (fun root c => within root = .ok c) roots singles ∧
      ∀ e, acceptsAny singles e = pure (roots.any e.type.isWithin) := by
  induction roots with
  | nil => exact ⟨[], .nil, fun _ => rfl⟩
  | cons root rest ih =>
    obtain ⟨hroot, hrest⟩ := List.forall_mem_cons.mp hroots
    obtain ⟨singles, hsingles, haccepts⟩ := ih hrest
    refine ⟨_, .cons (within_of_not_blank hroot) hsingles, fun e => ?_⟩
    change (do if ← pure (e.type.isWithin root) then pure true else acceptsAny singles e) = _
    rw [pure_bind, haccepts, List.any_cons]
    cases e.type.isWithin root <;> rfl

theorem eq_acceptsBoth_of_withinAny (h : withinAny roots filter = .ok c) :
    ∃ singles, List.Forall₂ (fun root c => within root = .ok c) roots singles ∧
      c = ofFilter (acceptsBoth (acceptsAny singles) filter) := by
  obtain ⟨singles, hsingles, haccepts⟩ := acceptsAny_within (not_blank_of_withinAny h)
  refine ⟨singles, hsingles, ?_⟩
  rw [eq_of_withinAny h]
  congr 1
  funext e
  unfold acceptsBoth
  rw [haccepts, pure_bind]

theorem withinAny_singleton_eq_error_iff :
    withinAny [root] filter = .error error ↔ within root = .error error := by
  rw [withinAny_eq, within_eq, List.any_cons, List.any_nil, Bool.or_false]
  cases isBlank root <;> simp

theorem withinAny_singleton (root : String) :
    withinAny [root] (fun _ => pure true) = within root := by
  have hfilter (e : Event) :
      (if [root].any e.type.isWithin then pure true else pure false : Traced Bool) =
        pure (e.type.isWithin root) := by
    rw [List.any_cons, List.any_nil, Bool.or_false]
    cases e.type.isWithin root <;> rfl
  rw [withinAny_eq, within_eq, funext hfilter, List.any_cons, List.any_nil, Bool.or_false]
  rfl

end

/-- Namespaces are checked before there is a policy: a list is refused for being empty or for a
blank entry, whatever the filter. Under any other list an event is accepted where its type stands in
one of the namespaces and the filter accepts it, and the filter is called once for events in one of
them and not at all for others. This is what the selections by each namespace alone come to,
together with the filter. A single namespace is accepted and refused alike either way. -/
theorem withinAny_joins_within (roots : List String) (filter : Event → Traced Bool) :
    (∀ error, withinAny roots filter = .error error ↔ RefusesRoots roots error) ∧
    (∀ c, withinAny roots filter = .ok c →
      (∀ e, (c.accepts e).value = true ↔
        (∃ root ∈ roots, e.type.isWithin root = true) ∧ (filter e).value = true) ∧
      ∃ singles, List.Forall₂ (fun root c => within root = .ok c) roots singles ∧
        c = ofFilter (acceptsBoth (acceptsAny singles) filter)) ∧
    (∀ label c, withinAny roots (reportingFilter label filter) = .ok c → ∀ e,
      (c.accepts e).marks =
        if roots.any e.type.isWithin then .called label :: (filter e).marks else []) ∧
    (∀ root, (∀ error, withinAny [root] filter = .error error ↔ within root = .error error) ∧
      withinAny [root] (fun _ => pure true) = within root) := by
  refine ⟨fun error => withinAny_eq_error_iff, fun c h => ?_, fun label c h e => ?_, fun root => ?_⟩
  · exact ⟨accepts_of_withinAny_iff h, eq_acceptsBoth_of_withinAny h⟩
  · exact marks_accepts_of_withinAny h e
  · exact ⟨fun error => withinAny_singleton_eq_error_iff, withinAny_singleton root⟩

/-- A filter that wants characters. -/
def onlyChars : Event → Traced Bool :=
  reportingFilter "onlyChars" fun e => pure (e.is .char)

/-- The filter is called for the event in one of the namespaces, which it accepts, and does not see
the event that merely begins like one. A blank entry behind them is found. -/
theorem withinAny_joins_within_shop : ∃ c, withinAny ["acme::shop::", "b"] onlyChars = .ok c ∧
    (c.accepts ⟨.char 'a', ⟨"acme::shop::Placed"⟩, "char", []⟩).value = true ∧
    (c.accepts ⟨.char 'a', ⟨"acme::shop::Placed"⟩, "char", []⟩).marks = [.called "onlyChars"] ∧
    (c.accepts ⟨.bool true, ⟨"acme::shopping::Placed"⟩, "bool", []⟩).marks = [] ∧
    withinAny ["acme::shop::", "b", "\u2003"] onlyChars =
      .error (.invalidArgument .blankNamespace) := by
  obtain ⟨c, hc⟩ : ∃ c, withinAny ["acme::shop::", "b"] onlyChars = .ok c := ⟨_, rfl⟩
  obtain ⟨_, hselects, _⟩ := withinAny_joins_within ["acme::shop::", "b"] onlyChars
  obtain ⟨_, _, hcalls, _⟩ :=
    withinAny_joins_within ["acme::shop::", "b"] fun e => pure (e.is .char)
  obtain ⟨hrefused, _⟩ := withinAny_joins_within ["acme::shop::", "b", "\u2003"] onlyChars
  refine ⟨c, hc, ((hselects c hc).1 _).mpr ⟨⟨"acme::shop::", ?_, ?_⟩, rfl⟩, ?_, ?_, ?_⟩
  · exact List.mem_cons_self
  · decide +kernel
  · exact hcalls "onlyChars" c hc _
  · exact hcalls "onlyChars" c hc _
  · have hblank : isBlank "\u2003" = true := by decide +kernel
    exact (hrefused _).mpr (@RefusesRoots.blank ["acme::shop::", "b"] [] "\u2003" hblank)

end Policy

end Outbound
