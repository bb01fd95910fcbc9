import Outbound.Policy.Select
import Outbound.Proofs.Destination
import Outbound.Proofs.Route.LocalName
import Outbound.Proofs.Route.Sources

namespace Outbound

theorem mapM_requireNamespace (roots : List String) :
    roots.mapM requireNamespace =
      if roots.any isBlank then .error (.invalidArgument .blankNamespace) else .ok roots := by
  induction roots with
  | nil => rfl
  | cons root rest ih =>
    rw [List.mapM_cons, ih, List.any_cons]
    unfold requireNamespace
    cases isBlank root with
    | true => rfl
    | false => cases rest.any isBlank <;> rfl

namespace Policy

theorem run_destination_of_ok {c : Policy} {p : Payload} {name : String}
    (h : (c.route p).run.value = .ok name) :
    (c.destination p).run.value = Destination.ofText name := by
  unfold destination
  rw [ExceptT.run_bind, Traced.value_bind, h]
  rfl

theorem within_eq (root : String) :
    within root =
      if isBlank root then .error (.invalidArgument .blankNamespace)
      else .ok (ofFilter fun e => pure (e.type.isWithin root)) := by
  unfold within requireNamespace
  cases isBlank root <;> rfl

theorem withinAny_eq (roots : List String) (filter : Event → Traced Bool) :
    withinAny roots filter =
      if roots.any isBlank then .error (.invalidArgument .blankNamespace)
      else if roots.isEmpty then .error (.invalidArgument .noBaseNamespaces)
      else .ok (ofFilter fun e => if roots.any e.type.isWithin then filter e else pure false) := by
  unfold withinAny
  rw [mapM_requireNamespace]
  cases roots.any isBlank with
  | true => rfl
  | false => cases hempty : roots.isEmpty <;> simp [bind, Except.bind, hempty] <;> rfl

/-- The preset is refused for the lack of namespaces or for a blank one, and for nothing else. -/
theorem preset_eq (namespaces : List String) (r : Registry) :
    preset namespaces r =
      if namespaces.isEmpty then .error (.invalidArgument .noNamespaces)
      else if namespaces.any isBlank then .error (.invalidArgument .blankNamespace)
      else .ok <|
        (ofFilter fun e => if namespaces.any e.type.isWithin then r.covers e else pure false).routeBy
          (Naming.declaredOrLocal namespaces r) := by
  unfold preset withinAny
  rw [mapM_requireNamespace]
  cases hempty : namespaces.isEmpty with
  | true => rfl
  | false =>
    cases namespaces.any isBlank with
    | true => rfl
    | false =>
      simp only [Bool.false_eq_true, ↓reduceIte, bind, Except.bind, hempty]
      rfl

theorem eq_of_preset {namespaces : List String} {r : Registry} {c : Policy}
    (h : preset namespaces r = .ok c) :
    c = (ofFilter fun e =>
      if namespaces.any e.type.isWithin then r.covers e else pure false).routeBy
        (Naming.declaredOrLocal namespaces r) := by
  rw [preset_eq] at h
  split at h
  next => simp at h
  next =>
    split at h
    next => simp at h
    next => exact (Except.ok.inj h).symm

section

variable {namespaces : List String} {r : Registry} {c : Policy}

theorem accepts_of_preset (h : preset namespaces r = .ok c) (e : Event) :
    (c.accepts e).value =
      (namespaces.any e.type.isWithin && r.sources.any fun source => (source.covers e).value) := by
  rw [eq_of_preset h, ← Registry.value_coveredBy]
  change (if namespaces.any e.type.isWithin then r.covers e else pure false).value = _
  cases namespaces.any e.type.isWithin <;> rfl

theorem transform_of_preset (h : preset namespaces r = .ok c) (p : Payload) :
    c.transform p = pure p := by
  rw [eq_of_preset h]
  rfl

/-- The destination is named by the first of the declared route, the local part and the full name
that there is. -/
theorem route_of_preset (h : preset namespaces r = .ok c) (p : Payload) :
    (c.route p).run.value =
      .ok (((r.routeOf p.event).value.or (PartialNaming.localPart namespaces p.event.type)).getD
        (Naming.fullName p.event)) := by
  have hname : (c.route p).run.value = .ok (Naming.declaredOrLocal namespaces r p.event).value := by
    rw [eq_of_preset h]
    rfl
  rw [hname]
  unfold Naming.declaredOrLocal PartialNaming.otherwise PartialNaming.orElse
    PartialNaming.declared PartialNaming.byLocalPart Naming.byFullName
  simp only [Traced.value_bind]
  cases (r.routeOf p.event).value with
  | some route => rfl
  | none => cases PartialNaming.localPart namespaces p.event.type <;> rfl

theorem destination_of_preset (h : preset namespaces r = .ok c) (p : Payload) :
    (c.destination p).run.value =
      Destination.ofText
        (((r.routeOf p.event).value.or (PartialNaming.localPart namespaces p.event.type)).getD
          (Naming.fullName p.event)) :=
  run_destination_of_ok (route_of_preset h p)

/-- The type is named by one of the namespaces and a separator, with nothing below. -/
def NamedByRoot (namespaces : List String) (t : TypePath) : Prop :=
  ∃ root ∈ namespaces, t.isWithin root = true ∧
    t.name.toList = Path.trim root.toList ++ [':', ':']

theorem exists_within_of_accepted (h : preset namespaces r = .ok c) {e : Event}
    (ha : (c.accepts e).value = true) : ∃ root ∈ namespaces, e.type.isWithin root = true := by
  rw [accepts_of_preset h, Bool.and_eq_true] at ha
  exact List.any_eq_true.mp ha.1

/-- Built-in sources route no event to nowhere, and the full name is never asked for an accepted
event, so that an empty destination can only come from an empty local part. -/
theorem destination_eq_error_iff (h : preset namespaces r = .ok c) (hr : r.IsBuiltIn)
    {p : Payload} (ha : (c.accepts p.event).value = true) (error : EvalError) :
    (c.destination p).run.value = .error error ↔
      (r.routeOf p.event).value = none ∧ NamedByRoot namespaces p.event.type ∧
        error = .invalidArgument .emptyDestination := by
  obtain ⟨x, hx⟩ := PartialNaming.localPart_exists_iff.mpr (exists_within_of_accepted h ha)
  rw [destination_of_preset h, Destination.ofText_eq_error_iff, hx]
  cases hroute : (r.routeOf p.event).value with
  | some route =>
    have hne : route ≠ "" := ne_empty_of_not_blank (Registry.routeOf_not_blank hr hroute)
    simp [hne]
  | none =>
    have hnamed : x = "" ↔ NamedByRoot namespaces p.event.type := by
      unfold NamedByRoot
      rw [← PartialNaming.localPart_eq_empty_iff, hx, Option.some.injEq]
    simp [hnamed]

end

end Policy

end Outbound
