import Outbound.Proofs.Policy.Routing
import Outbound.Proofs.Settings.Naming

namespace Outbound

/-- The name that events have where nothing is configured: the target of their first declaration, the
name of their type or that of their concrete type, whichever is the first that is not blank. -/
inductive DefaultName (e : Event) : String → Prop where
  | declared {target : String} (h : e.DeclaresRoute target) : DefaultName e target
  | named (undeclared : ∀ target, ¬ e.DeclaresRoute target) (h : isBlank e.type.name = false) :
      DefaultName e e.type.name
  | unnamed (undeclared : ∀ target, ¬ e.DeclaresRoute target) (h : isBlank e.type.name = true) :
      DefaultName e e.concreteName

theorem defaultName_exists (e : Event) : ∃ name, DefaultName e name := by
  by_cases hdeclared : ∃ target, e.DeclaresRoute target
  · obtain ⟨target, h⟩ := hdeclared
    exact ⟨target, .declared h⟩
  · have undeclared := not_exists.mp hdeclared
    cases hblank : isBlank e.type.name with
    | false => exact ⟨_, .named undeclared hblank⟩
    | true => exact ⟨_, .unnamed undeclared hblank⟩

namespace Naming

variable {r : Registry} {e : Event}

theorem value_declaredOrFull (r : Registry) (e : Event) :
    (declaredOrFull r e).value = (r.routeOf e).value.getD (fullName e) := by
  unfold declaredOrFull PartialNaming.otherwise PartialNaming.declared byFullName
  rw [Traced.value_bind]
  cases (r.routeOf e).value <;> rfl

theorem fullName_not_blank (h : isBlank e.concreteName = false) : isBlank (fullName e) = false := by
  unfold fullName
  split
  next => exact h
  next hname => exact Bool.eq_false_iff.mpr hname

/-- Built-in sources give no blank routes, and the full name is not blank either. -/
theorem declaredOrFull_not_blank (hr : r.IsBuiltIn) (h : isBlank e.concreteName = false) :
    isBlank (declaredOrFull r e).value = false := by
  rw [value_declaredOrFull]
  cases hroute : (r.routeOf e).value with
  | some route => exact Registry.routeOf_not_blank hr hroute
  | none => exact fullName_not_blank h

theorem value_standard_routeOf_iff {route : String} :
    (Registry.standard.routeOf e).value = some route ↔ e.DeclaresRoute route := by
  rw [← RouteSource.routeOf_outbound_iff, Registry.routeOf, Registry.value_routeFrom]
  change List.findSome? _ [RouteSource.declared .outbound] = _ ↔ _
  rw [List.findSome?_cons, List.findSome?_nil]
  cases ((RouteSource.declared .outbound).routeOf e).value <;> simp

end Naming

theorem Registry.standard_isBuiltIn : Registry.standard.IsBuiltIn := by
  intro source hmem
  cases List.mem_singleton.mp hmem
  rfl

variable {e : Event} {name : String}

theorem DefaultName.eq_declaredOrFull (h : DefaultName e name) :
    name = (Naming.declaredOrFull .standard e).value := by
  have hnone (undeclared : ∀ target, ¬ e.DeclaresRoute target) :
      (Registry.standard.routeOf e).value = none :=
    Option.eq_none_iff_forall_ne_some.mpr fun route hroute =>
      undeclared route (Naming.value_standard_routeOf_iff.mp hroute)
  rw [Naming.value_declaredOrFull]
  cases h with
  | declared h => rw [Naming.value_standard_routeOf_iff.mpr h, Option.getD_some]
  | named undeclared h => simp [hnone undeclared, Naming.fullName, h]
  | unnamed undeclared h => simp [hnone undeclared, Naming.fullName, h]

theorem DefaultName.not_blank (h : DefaultName e name) (hconcrete : isBlank e.concreteName = false) :
    isBlank name = false := by
  rw [h.eq_declaredOrFull]
  exact Naming.declaredOrFull_not_blank Registry.standard_isBuiltIn hconcrete

theorem Destination.exists_ofText {s : String} (h : isBlank s = false) :
    ∃ d : Destination, d.text = s ∧ ofText s = .ok d := by
  obtain ⟨d, hd⟩ := exists_text_eq_iff.mpr (ne_empty_of_not_blank h)
  exact ⟨d, hd, ofText_eq_ok_iff.mpr hd⟩

namespace Policy

/-- Where the last step has no answer, the default naming gives the destination. -/
theorem destination_develop_of_no_answer (accepts : Event → Traced Bool) {last : Finish} {p : Payload}
    (h : (last.answer p).run.value = .ok none) :
    (((ofFilter accepts).develop [] last).destination p).run.value =
      Destination.ofText (Naming.declaredOrFull .standard p.event).value := by
  apply run_destination_of_ok
  rw [route_develop accepts (.default (by simp)) last p, Finish.nameOr, ExceptT.run_bind,
    Traced.value_bind, h]
  rfl

/-- A policy that is made of a filter alone accepts what the filter accepts, keeps events as they
are, and has a destination for each of them, which is not blank. A partial naming that never answers
changes nothing about that, and the default naming gives no blank names under any registry of
built-in sources. -/
theorem total_of_filter (accepts : Event → Traced Bool) :
    ((ofFilter accepts).develop [] .asIs).accepts = accepts ∧
    (∀ p, ((ofFilter accepts).develop [] .asIs).transform p = pure p) ∧
    (∀ p : Payload, isBlank p.event.concreteName = false →
      (∃ name, DefaultName p.event name) ∧
      ∀ name, DefaultName p.event name → isBlank name = false ∧ ∃ d : Destination, d.text = name ∧
        (((ofFilter accepts).develop [] .asIs).destination p).run.value = .ok d ∧
        ∀ n : PartialNaming, (∀ e, (n e).value = none) →
          (((ofFilter accepts).develop [] (.routeWhere n)).destination p).run.value = .ok d) ∧
    (∀ (r : Registry) (e : Event), r.IsBuiltIn → isBlank e.concreteName = false →
      isBlank (Naming.declaredOrFull r e).value = false) := by
  refine ⟨rfl, fun _ => rfl, fun p hp => ⟨defaultName_exists p.event, fun name hname => ?_⟩, ?_⟩
  · have hblank := hname.not_blank hp
    obtain ⟨d, htext, hd⟩ := Destination.exists_ofText hblank
    rw [hname.eq_declaredOrFull] at hd
    refine ⟨hblank, d, htext, ?_, fun n hn => ?_⟩
    · exact (destination_develop_of_no_answer accepts rfl).trans hd
    · refine (destination_develop_of_no_answer accepts ?_).trans hd
      exact congrArg Except.ok (hn p.event)
  · intro r e hr hconcrete
    exact Naming.declaredOrFull_not_blank hr hconcrete

/-- An event with a blank type name and a blank declaration. -/
def anonymous : Event :=
  ⟨.application "acme::Anonymous" .null "Anonymous", ⟨" "⟩, "acme::Anonymous", [.outbound "\t"]⟩

theorem defaultName_anonymous : DefaultName anonymous "acme::Anonymous" := by
  refine .unnamed (fun target h => ?_) (by decide +kernel)
  have hroute := Naming.value_standard_routeOf_iff.mpr h
  have hnone : (Registry.standard.routeOf anonymous).value = none := by decide +kernel
  rw [hnone] at hroute
  simp at hroute

/-- The event goes by its concrete type, and a table under its blank type name does not give it a
blank one. -/
theorem total_of_filter_anonymous :
    isBlank anonymous.concreteName = false ∧
    (∃ d : Destination, d.text = "acme::Anonymous" ∧
      (((ofFilter fun _ => pure true).develop [] (.routeWhere fun _ => pure none)).destination
        (.raised anonymous)).run.value = .ok d) ∧
    (Registry.standard.add (.table (.ofList [(" ", "\n")]))).IsBuiltIn ∧
    isBlank (Naming.declaredOrFull (Registry.standard.add (.table (.ofList [(" ", "\n")])))
      anonymous).value = false := by
  have hconcrete : isBlank anonymous.concreteName = false := by decide +kernel
  have hbuiltIn : (Registry.standard.add (.table (.ofList [(" ", "\n")]))).IsBuiltIn := by
    simp [Registry.IsBuiltIn, Registry.standard, Registry.add, RouteSource.isBuiltIn]
  obtain ⟨_, _, hdestination, hnaming⟩ := total_of_filter fun _ => pure true
  obtain ⟨_, d, htext, _, hquiet⟩ :=
    (hdestination (.raised anonymous) hconcrete).2 _ defaultName_anonymous
  exact ⟨hconcrete, ⟨d, htext, hquiet _ fun _ => rfl⟩, hbuiltIn,
    hnaming _ anonymous hbuiltIn hconcrete⟩

end Policy

end Outbound
