import Outbound.Proofs.Policy.Transformation

namespace Outbound

namespace Policy

namespace Step

/-- The naming that takes the place of the route before the step. -/
def naming? : Step → Option Naming
  | .routeByFeature name => some name
  | .routeByType name => some fun e => name e.type
  | _ => none

/-- The step is about the transformation. -/
def Transforms (step : Step) : Prop :=
  step.replacement? ≠ none ∨ step.conversion? ≠ none

end Step

/-- The naming that replaces all routes before it for the last time, with the steps up to it and
those that follow. Before any of these events are routed as declared or by their full names. -/
inductive Routed : List Step → Naming → List Step → List Step → Prop where
  | default {steps : List Step} (h : ∀ step ∈ steps, step.naming? = none) :
      Routed steps (Naming.declaredOrFull .standard) [] steps
  | last {before after : List Step} {step : Step} {n : Naming} (hstep : step.naming? = some n)
      (h : ∀ step ∈ after, step.naming? = none) :
      Routed (before ++ step :: after) n (before ++ [step]) after

/-- The steps before each point from which the route sees transformed events, in order. -/
def cuts : List Step → List (List Step)
  | [] => []
  | .routeTransformed :: rest => [] :: (cuts rest).map (.routeTransformed :: ·)
  | step :: rest => (cuts rest).map (step :: ·)

/-- The transformations one after the other, the last one first. The first failure is the end. -/
def transformAll (p : Payload) : List (Payload → Eval Payload) → Eval Payload
  | [] => pure p
  | m :: later => transformAll p later >>= m

/-- What the last step of all has to say to the name of an event as it is. -/
def Finish.answer (p : Payload) : Finish → Eval (Option String)
  | .asIs => pure none
  | .routeBy n => some <$> (ExceptT.lift (n p.event) : Eval String)
  | .routeByOrFail f => ExceptT.mk do
      match ← f p.event with
      | .ok name => pure (.ok (some name))
      | .error source => pure (.error (.route p.event.type source))
  | .routeWhere n => ExceptT.lift (n p.event)
  | .routeWhereType name => ExceptT.lift (name p.event.type)
  | .routeByFullName => pure (some (Naming.fullName p.event))

/-- The answer of the last step, and something else where it has none. -/
def Finish.nameOr (last : Finish) (p : Payload) (otherwise : Eval String) : Eval String :=
  last.answer p >>= fun answer? =>
    match answer? with
    | some name => pure name
    | none => otherwise

theorem route_finish (c : Policy) (last : Finish) (p : Payload) :
    (c.finish last).route p = last.nameOr p (c.route p) := by
  unfold Finish.nameOr
  cases last with
  | asIs =>
    rw [Finish.answer, pure_bind]
    rfl
  | routeBy n => simp [Finish.answer, finish, routeBy, named]
  | routeByOrFail f =>
    apply ExceptT.ext
    have hrun : ((c.routeByOrFail f).route p).run = f p.event >>= fun r =>
      match r with
      | .ok name => pure (.ok name)
      | .error source => pure (.error (.route p.event.type source)) := rfl
    refine hrun.trans ?_
    rw [ExceptT.run_bind]
    change _ = (f p.event >>= _) >>= _
    rw [bind_assoc]
    exact Traced.bind_congr (by cases (f p.event).value <;> rfl)
  | routeWhere n => rfl
  | routeWhereType name => rfl
  | routeByFullName => rfl

section

variable {c : Policy} {step : Step}

theorem route_refine_of_naming {n : Naming} (h : step.naming? = some n) :
    (c.refine step).route = named n := by
  cases step with
  | routeByFeature name =>
    cases Option.some.inj h
    simp [refine, routeByFeature]
  | routeByType =>
    cases Option.some.inj h
    rfl
  | _ => simp [Step.naming?] at h

theorem routeByFeature_eq_refine {α : Type} (c : Policy) (extract : Event → Traced α)
    (name : α → Traced String) :
    c.routeByFeature extract name = c.refine (.routeByFeature fun e => extract e >>= name) := by
  simp [refine, routeByFeature]

theorem route_refine_of_transforms (h : step.Transforms) : (c.refine step).route = c.route := by
  cases step with
  | replace | replaceOrFail | convert => rfl
  | _ => simp [Step.Transforms, Step.replacement?, Step.conversion?] at h

theorem accepts_refine : (c.refine step).accepts = c.accepts := by
  cases step <;> rfl

end

theorem accepts_develop (c : Policy) (steps : List Step) (last : Finish) :
    (c.develop steps last).accepts = c.accepts := by
  have hfinish (c : Policy) : (c.finish last).accepts = c.accepts := by cases last <;> rfl
  unfold develop
  rw [hfinish]
  induction steps generalizing c with
  | nil => rfl
  | cons step rest ih => rw [List.foldl_cons, ih, accepts_refine]

/-- Where no step replaces the route, each cut puts the transformation of its moment before the
route so far, and so before those of all earlier cuts. -/
theorem route_foldl {steps : List Step} (h : ∀ step ∈ steps, step.naming? = none) (c : Policy)
    (p : Payload) :
    (steps.foldl refine c).route p =
      transformAll p ((cuts steps).map fun early => (early.foldl refine c).transform) >>=
        c.route := by
  induction steps generalizing c with
  | nil => rfl
  | cons step rest ih =>
    rw [List.foldl_cons, ih fun x hx => h x (List.mem_cons_of_mem step hx)]
    cases step with
    | routeTransformed =>
      -- the cut keeps the transformation that `c` has now, and later steps run before it
      simp only [cuts, List.map_cons, List.map_map, transformAll, bind_assoc]
      rfl
    | replace | replaceOrFail | convert =>
      simp only [cuts, List.map_map]
      rfl
    | routeByFeature | routeByType => exact absurd (h _ List.mem_cons_self) (by simp [Step.naming?])

theorem routed_exists (steps : List Step) : ∃ n lead after, Routed steps n lead after := by
  rcases last_some_or_none Step.naming? steps with h | ⟨before, step, after, n, rfl, hstep, h⟩
  · exact ⟨_, [], steps, .default h⟩
  · exact ⟨n, before ++ [step], after, .last hstep h⟩

/-- The transformations at the cuts of the later steps. -/
def captured (c : Policy) (lead after : List Step) : List (Payload → Eval Payload) :=
  (cuts after).map fun early => (c.develop (lead ++ early) .asIs).transform

theorem route_develop (accepts : Event → Traced Bool) {steps lead after : List Step} {n : Naming}
    (h : Routed steps n lead after) (last : Finish) (p : Payload) :
    ((ofFilter accepts).develop steps last).route p =
      last.nameOr p (transformAll p (captured (ofFilter accepts) lead after) >>= named n) := by
  unfold develop
  rw [route_finish]
  have hroute : (steps.foldl refine (ofFilter accepts)).route p =
      transformAll p (captured (ofFilter accepts) lead after) >>= named n := by
    cases h with
    | default h => exact route_foldl h (ofFilter accepts) p
    | @last before after step n hstep h =>
      have hsplit : before ++ step :: after = (before ++ [step]) ++ after := by simp
      have hlead : ((before ++ [step]).foldl refine (ofFilter accepts)).route = named n := by
        rw [List.foldl_append]
        exact route_refine_of_naming hstep
      rw [hsplit, List.foldl_append, route_foldl h, hlead]
      simp only [captured, develop, finish, List.foldl_append]
  rw [hroute]

theorem route_foldl_of_no_cut {steps : List Step} (h : ∀ step ∈ steps, step ≠ .routeTransformed)
    (c : Policy) :
    (steps.foldl refine c).route =
      (steps.filterMap Step.naming?).foldl (fun _ n => named n) c.route := by
  induction steps generalizing c with
  | nil => rfl
  | cons step rest ih =>
    rw [List.foldl_cons, ih fun x hx => h x (List.mem_cons_of_mem step hx)]
    cases hstep : step.naming? with
    | some n => rw [List.filterMap_cons_some hstep, List.foldl_cons, route_refine_of_naming hstep]
    | none =>
      have htransforms : step.Transforms := by
        cases step with
        | routeTransformed => exact absurd rfl (h _ List.mem_cons_self)
        | routeByFeature | routeByType => simp [Step.naming?] at hstep
        | _ => simp [Step.Transforms, Step.replacement?, Step.conversion?]
      rw [List.filterMap_cons_none hstep, route_refine_of_transforms htransforms]

theorem destination_congr {c c' : Policy} (h : c.route = c'.route) :
    c.destination = c'.destination := by
  unfold destination
  rw [h]

/-- Without a cut only the namings count, whatever is done about the transformation meanwhile. -/
theorem destination_of_same_namings (c : Policy) {lead steps steps' : List Step}
    (h : ∀ step ∈ steps, step ≠ .routeTransformed) (h' : ∀ step ∈ steps', step ≠ .routeTransformed)
    (hsame : steps.filterMap Step.naming? = steps'.filterMap Step.naming?) (last : Finish) :
    (c.develop (lead ++ steps) last).destination = (c.develop (lead ++ steps') last).destination := by
  apply destination_congr
  funext p
  unfold develop
  rw [route_finish, route_finish, List.foldl_append, List.foldl_append, route_foldl_of_no_cut h,
    route_foldl_of_no_cut h', hsame]

theorem refine_comm (c : Policy) {step routing : Step} (h : step.Transforms)
    (hr : routing.naming? ≠ none) : (c.refine step).refine routing = (c.refine routing).refine step := by
  cases routing with
  | routeByFeature | routeByType =>
    cases step with
    | replace | replaceOrFail | convert => rfl
    | _ => simp [Step.Transforms, Step.replacement?, Step.conversion?] at h
  | _ => exact absurd rfl hr

theorem develop_comm (c : Policy) {step routing : Step} (h : step.Transforms)
    (hr : routing.naming? ≠ none) (lead after : List Step) (last : Finish) :
    c.develop (lead ++ step :: routing :: after) last =
      c.develop (lead ++ routing :: step :: after) last := by
  unfold develop
  simp only [List.foldl_append, List.foldl_cons, refine_comm _ h hr]

/-- The route so far is lost. -/
def Finish.Replaces : Finish → Prop
  | .routeBy _ | .routeByOrFail _ | .routeByFullName => True
  | .asIs | .routeWhere _ | .routeWhereType _ => False

theorem destination_of_replaces {last : Finish} (h : last.Replaces) (c c' : Policy) :
    (c.finish last).destination = (c'.finish last).destination := by
  apply destination_congr
  cases last with
  | asIs | routeWhere | routeWhereType => exact h.elim
  | _ => rfl

theorem run_transformAll_of_error {p q : Payload} {earlier later : List (Payload → Eval Payload)}
    {m : Payload → Eval Payload} {e : EvalError}
    (hq : (transformAll p later).run.value = .ok q) (he : (m q).run.value = .error e) :
    (transformAll p (earlier ++ m :: later)).run.value = .error e := by
  induction earlier with
  | nil =>
    change (transformAll p later >>= m).run.value = _
    rw [ExceptT.run_bind, Traced.value_bind, hq]
    exact he
  | cons first rest ih =>
    change (transformAll p (rest ++ m :: later) >>= first).run.value = _
    rw [ExceptT.run_bind, Traced.value_bind, ih]
    rfl

theorem run_destination_of_error {c : Policy} {p : Payload} {e : EvalError}
    (h : (c.route p).run.value = .error e) : (c.destination p).run.value = .error e := by
  unfold destination
  rw [ExceptT.run_bind, Traced.value_bind, h]
  rfl

/-- However a policy is developed, its filter stays. The last step is asked for the name of the
event as it is. Where it has no answer, the last naming among the steps sees what the
transformations of all later cuts make of the event, the last cut first, and their first failure
is the result. Transformations bear on the destination at cuts only. -/
theorem destination_of_program (accepts : Event → Traced Bool) (steps : List Step)
    (last : Finish) :
    ((ofFilter accepts).develop steps last).accepts = accepts ∧
    (∀ (c : Policy) (α : Type) (extract : Event → Traced α) (name : α → Traced String),
      c.routeByFeature extract name = c.refine (.routeByFeature fun e => extract e >>= name)) ∧
    (∃ n lead after, Routed steps n lead after) ∧
    (∀ n lead after, Routed steps n lead after → ∀ p,
      ((ofFilter accepts).develop steps last).destination p = (do
        let name ← last.nameOr p
          (transformAll p (captured (ofFilter accepts) lead after) >>= named n)
        ExceptT.mk (pure (Destination.ofText name))) ∧
      ∀ earlier m later q e,
        captured (ofFilter accepts) lead after = earlier ++ m :: later →
        (last.answer p).run.value = .ok none → (transformAll p later).run.value = .ok q →
        (m q).run.value = .error e →
        (((ofFilter accepts).develop steps last).destination p).run.value = .error e) ∧
    (∀ lead between between', (∀ step ∈ between, step ≠ .routeTransformed) →
      (∀ step ∈ between', step ≠ .routeTransformed) →
      between.filterMap Step.naming? = between'.filterMap Step.naming? →
      ((ofFilter accepts).develop (lead ++ between) last).destination =
        ((ofFilter accepts).develop (lead ++ between') last).destination) ∧
    (∀ lead step routing after, step.Transforms → routing.naming? ≠ none →
      (ofFilter accepts).develop (lead ++ step :: routing :: after) last =
        (ofFilter accepts).develop (lead ++ routing :: step :: after) last) ∧
    (last.Replaces → ∀ steps', ((ofFilter accepts).develop steps last).destination =
      ((ofFilter accepts).develop steps' last).destination) := by
  refine ⟨accepts_develop _ steps last, ?_, routed_exists steps, ?_, ?_, ?_, ?_⟩
  · intro c α extract name
    exact routeByFeature_eq_refine c extract name
  · intro n lead after h p
    have hroute := route_develop accepts h last p
    constructor
    · unfold destination
      rw [hroute]
    · intro earlier m later q e hcaptured hanswer hq he
      apply run_destination_of_error
      rw [hroute, Finish.nameOr, ExceptT.run_bind, Traced.value_bind, hanswer]
      change (transformAll p (captured (ofFilter accepts) lead after) >>= named n).run.value = _
      rw [hcaptured, ExceptT.run_bind, Traced.value_bind, run_transformAll_of_error hq he]
      rfl
  · intro lead between between' h h' hsame
    exact destination_of_same_namings _ h h' hsame last
  · intro lead step routing after hstep hrouting
    exact develop_comm _ hstep hrouting lead after last
  · intro h steps'
    exact destination_of_replaces h _ _

/-- Routes by type. The first cut shows flags as texts, and the second one all events as flags. -/
def twoCuts : List Step :=
  [.routeByType fun t => pure t.name,
    .convert .bool fun _ => pure (Event.ofContent (.text "on")),
    .routeTransformed,
    .replace fun _ => pure (.made (Event.ofContent (.bool true))),
    .routeTransformed,
    .convert .text fun e => pure e]

/-- A transformation that always fails, at a cut. -/
def tornCut : List Step :=
  [.replaceOrFail fun _ => pure (.error (.ofMessage "torn")), .routeTransformed]

/-- The later cut makes a flag of the character, and the earlier one a text of the flag. A failure
at a cut is the result, unless the last step replaces the route. -/
theorem destination_of_program_twoCuts :
    (((ofFilter fun _ => pure true).develop twoCuts (.routeWhere fun _ => pure none)).destination
      (.raised (Event.ofContent (.char 'a')))).run.value =
      Destination.ofText "alloc::string::String" ∧
    (((ofFilter fun _ => pure true).develop tornCut .asIs).destination
      (.raised (Event.ofContent (.char 'a')))).run.value =
      .error (.transform ⟨"char"⟩ (.ofMessage "torn")) ∧
    ((ofFilter fun _ => pure true).develop tornCut .routeByFullName).destination =
      ((ofFilter fun _ => pure true).develop twoCuts .routeByFullName).destination := by
  refine ⟨?_, ?_, ?_⟩
  · have hrouted : Routed twoCuts (fun e => pure e.type.name) (twoCuts.take 1) (twoCuts.drop 1) :=
      @Routed.last [] (twoCuts.drop 1) _ _ rfl (by simp [twoCuts, Step.naming?])
    obtain ⟨hdestination, _⟩ := (destination_of_program (fun _ => pure true) twoCuts
      (.routeWhere fun _ => pure none)).2.2.2.1 _ _ _ hrouted (.raised (Event.ofContent (.char 'a')))
    rw [hdestination]
    rfl
  · have hrouted : Routed tornCut (Naming.declaredOrFull .standard) [] tornCut :=
      .default (by simp [tornCut, Step.naming?])
    obtain ⟨_, hfailure⟩ := (destination_of_program (fun _ => pure true) tornCut
      .asIs).2.2.2.1 _ _ _ hrouted (.raised (Event.ofContent (.char 'a')))
    exact hfailure [] _ [] _ _ rfl rfl rfl rfl
  · exact (destination_of_program (fun _ => pure true) tornCut
      .routeByFullName).2.2.2.2.2.2 trivial twoCuts

end Policy

end Outbound
