import Outbound.Proofs.Event.Declarations
import Outbound.Proofs.Policy.Faults

namespace Outbound

namespace Policy

section

variable {k : DeclarationKind} {name : Event → Declaration → Traced String} {p q : Payload}
  {d : Declaration} {error : EvalError}

theorem accepts_byDeclarationOf_iff {e : Event} :
    ((byDeclarationOf k name).accepts e).value = true ↔ ∃ d ∈ e.declarations, d.kind = k :=
  Event.declares_iff

theorem run_destination_of_declared (h : p.event.declaration? k = some d) :
    ((byDeclarationOf k name).destination p).run =
      (do return Destination.ofText (← name p.event d)) := by
  unfold destination byDeclarationOf routeByOrFail
  rw [ExceptT.run_bind]
  simp only [h, ExceptT.run_mk, bind_assoc, pure_bind]

theorem run_destination_of_undeclared (h : p.event.declaration? k = none) :
    ((byDeclarationOf k name).destination p).run =
      pure (.error (.route p.event.type (missingDeclaration k))) := by
  unfold destination byDeclarationOf routeByOrFail
  rw [ExceptT.run_bind]
  simp only [h, ExceptT.run_mk, pure_bind]

theorem destination_of_declared_eq_error_iff (h : p.event.declaration? k = some d) :
    ((byDeclarationOf k name).destination p).run.value = .error error ↔
      (name p.event d).value = "" ∧ error = .invalidArgument .emptyDestination := by
  rw [run_destination_of_declared h, Traced.value_bind, Traced.value_pure]
  exact Destination.ofText_eq_error_iff

theorem exists_declaration?_of_accepts
    (h : ((byDeclarationOf k name).accepts p.event).value = true) :
    ∃ d, p.event.declaration? k = some d := by
  rw [← Option.ne_none_iff_exists', ne_eq, Event.declaration?_eq_none_iff, Classical.not_not]
  exact accepts_byDeclarationOf_iff.mp h

theorem accepts_of_editsOthers {name : Declaration → Traced String} {e e' : Event}
    (h : EditsOthers k e.declarations e'.declarations) :
    (byDeclaration k name).accepts e = (byDeclaration k name).accepts e' := by
  change pure (e.declares k) = pure (e'.declares k)
  unfold Event.declares
  rw [Event.declaration?_of_editsOthers h]

theorem destination_of_editsOthers {name : Declaration → Traced String}
    (h : EditsOthers k p.event.declarations q.event.declarations)
    (ha : ((byDeclaration k name).accepts p.event).value = true) :
    (byDeclaration k name).destination p = (byDeclaration k name).destination q := by
  obtain ⟨d, hp⟩ := exists_declaration?_of_accepts ha
  have hq : q.event.declaration? k = some d := by rw [← Event.declaration?_of_editsOthers h, hp]
  unfold byDeclaration
  apply ExceptT.ext
  rw [run_destination_of_declared hp, run_destination_of_declared hq]

end

/-- Routing by declaration selects the events that carry one of the type, and finds the one that it
selected them for: the first of the type names the destination of an accepted event, which it lacks
for an empty name only. Other events have none, for want of a declaration, and the naming is not
called for them. Where it goes by the declaration alone, declarations of other types do not
matter. -/
theorem byDeclarationOf_names_by_first (k : DeclarationKind)
    (name : Event → Declaration → Traced String) :
    (∀ e, ((byDeclarationOf k name).accepts e).value = true ↔ ∃ d ∈ e.declarations, d.kind = k) ∧
    (∀ p : Payload, ((byDeclarationOf k name).accepts p.event).value = true →
      ∃ d, p.event.DeclaresFirst k d ∧
        ((byDeclarationOf k name).destination p).run =
          (do return Destination.ofText (← name p.event d)) ∧
        ∀ error, ((byDeclarationOf k name).destination p).run.value = .error error ↔
          (name p.event d).value = "" ∧ error = .invalidArgument .emptyDestination) ∧
    (∀ p : Payload, ((byDeclarationOf k name).accepts p.event).value = false →
      ((byDeclarationOf k name).destination p).run =
        pure (.error (.route p.event.type (missingDeclaration k)))) ∧
    (∀ name : Declaration → Traced String,
      byDeclaration k name = byDeclarationOf k (fun _ d => name d) ∧
      ∀ p q : Payload, EditsOthers k p.event.declarations q.event.declarations →
        (byDeclaration k name).accepts p.event = (byDeclaration k name).accepts q.event ∧
        (((byDeclaration k name).accepts p.event).value = true →
          (byDeclaration k name).destination p = (byDeclaration k name).destination q)) := by
  refine ⟨fun e => accepts_byDeclarationOf_iff, fun p ha => ?_, fun p ha => ?_, fun name => ?_⟩
  · obtain ⟨d, hd⟩ := exists_declaration?_of_accepts ha
    exact ⟨d, Event.declaration?_eq_some_iff.mp hd, run_destination_of_declared hd,
      fun error => destination_of_declared_eq_error_iff hd⟩
  · apply run_destination_of_undeclared
    rw [Event.declaration?_eq_none_iff, ← accepts_byDeclarationOf_iff, ha]
    exact Bool.false_ne_true
  · exact ⟨rfl, fun p q h => ⟨accepts_of_editsOthers h, destination_of_editsOthers h⟩⟩

/-- The destination that a declaration names, or nowhere. -/
def declaredText : Declaration → Traced String := fun d =>
  pure (d.route.getD "")

/-- An event with two targets, the first of them blank, behind a declaration of another type. -/
def auditedPing : Event :=
  ⟨.bool true, ⟨"acme::Ping"⟩, "bool",
    [.custom "acme::Audited" none, .outbound " ", .outbound "pings"]⟩

/-- The same event without the declaration of another type. -/
def plainPing : Event :=
  { auditedPing with declarations := [.outbound " ", .outbound "pings"] }

/-- The first declaration counts, blank as it is, and the one of another type does not matter. -/
theorem byDeclarationOf_names_by_first_ping :
    ((byDeclaration .outbound declaredText).accepts auditedPing).value = true ∧
    ((byDeclaration .outbound declaredText).destination (.raised plainPing)).run.value =
      .error (.invalidArgument .emptyDestination) ∧
    EditsOthers .outbound auditedPing.declarations plainPing.declarations ∧
    (byDeclaration .outbound declaredText).destination (.raised auditedPing) =
      (byDeclaration .outbound declaredText).destination (.raised plainPing) ∧
    ((byDeclaration (.custom "acme::Topic") declaredText).accepts auditedPing).value = false ∧
    ((byDeclaration (.custom "acme::Topic") declaredText).destination (.raised auditedPing)).run =
      pure (.error (.route ⟨"acme::Ping"⟩ (missingDeclaration (.custom "acme::Topic")))) := by
  obtain ⟨haccepts, hfirst, _, hothers⟩ :=
    byDeclarationOf_names_by_first .outbound fun _ d => declaredText d
  obtain ⟨_, _, hmissing, _⟩ :=
    byDeclarationOf_names_by_first (.custom "acme::Topic") fun _ d => declaredText d
  have hedits : EditsOthers .outbound auditedPing.declarations plainPing.declarations :=
    .single (@ChangesOther.remove .outbound (.custom "acme::Audited" none) [] _ (by decide))
  have ha : ((byDeclaration .outbound declaredText).accepts auditedPing).value = true :=
    (haccepts auditedPing).mpr ⟨.outbound " ", by decide, rfl⟩
  obtain ⟨hsame, hdestination⟩ :=
    (hothers declaredText).2 (.raised auditedPing) (.raised plainPing) hedits
  obtain ⟨d, hd, _, herror⟩ := hfirst (.raised plainPing) (hsame ▸ ha)
  have hblank : d = .outbound " " :=
    Option.some.inj ((Event.declaration?_eq_some_iff.mpr hd).symm.trans (by decide))
  refine ⟨ha, (herror _).mpr ⟨?_, rfl⟩, hedits, hdestination ha, rfl, ?_⟩
  · rw [hblank]
    decide +kernel
  · exact hmissing (.raised auditedPing) rfl

end Policy

end Outbound
