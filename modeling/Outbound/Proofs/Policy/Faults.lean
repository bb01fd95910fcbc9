import Outbound.Policy.Select
import Outbound.Proofs.Policy.Preset
import Outbound.Proofs.Policy.Routing

namespace Outbound

section

variable {α β : Type} {x : Eval α} {f : α → Eval β}

theorem value_run_bind_eq_ok_iff {b : β} :
    (x >>= f).run.value = .ok b ↔ ∃ a, x.run.value = .ok a ∧ (f a).run.value = .ok b := by
  rw [ExceptT.run_bind, Traced.value_bind]
  cases x.run.value <;> simp

theorem value_run_bind_eq_error_iff {e : EvalError} :
    (x >>= f).run.value = .error e ↔
      x.run.value = .error e ∨ ∃ a, x.run.value = .ok a ∧ (f a).run.value = .error e := by
  rw [ExceptT.run_bind, Traced.value_bind]
  cases x.run.value <;> simp

theorem value_run_lift_bind (x : Traced α) :
    ((ExceptT.lift x : Eval α) >>= f).run.value = (f x.value).run.value := rfl

theorem value_bind_eq_error_iff {x : Traced (Except Failure α)}
    {k : Except Failure α → Traced (Except EvalError β)} {wrap : Failure → EvalError} {e : EvalError}
    (hok : ∀ a, ∃ b, (k (.ok a)).value = .ok b)
    (herror : ∀ source, (k (.error source)).value = .error (wrap source)) :
    (x >>= k).value = .error e ↔ ∃ source, x.value = .error source ∧ wrap source = e := by
  rw [Traced.value_bind]
  cases hx : x.value with
  | ok a =>
    obtain ⟨b, hb⟩ := hok a
    simp [hb]
  | error source => simp [herror]

end

namespace Policy

/-- What the transformation makes of a payload after the steps: the conversions since the last
replacement come first. -/
def Makes (steps : List Step) (p q : Payload) : Prop :=
  ∃ base after matching run, Bases steps base after ∧
    Converts p (after.filterMap Step.conversion?) matching run ∧
    (base run.value).run.value = .ok q

/-- The last replacement may fail, and does so at what the conversions since then make of the payload.
The failure is told as it is, together with the type of what the function was given. -/
inductive TransformFault (steps : List Step) (p : Payload) : EvalError → Prop where
  | failed {before after : List Step} {f : Payload → Traced (Except Failure Payload)}
      {matching : List Conversion} {run : Traced Payload} {source : Failure}
      (hsteps : steps = before ++ .replaceOrFail f :: after)
      (h : ∀ step ∈ after, step.replacement? = none)
      (hrun : Converts p (after.filterMap Step.conversion?) matching run)
      (hf : (f run.value).value = .error source) :
      TransformFault steps p (.transform run.value.event.type source)

/-- What becomes of a payload at cuts after the leading steps, the last cut first. -/
inductive PassesCuts (lead : List Step) (p : Payload) : List (List Step) → Payload → Prop where
  | start : PassesCuts lead p [] p
  | cut {early : List Step} {later : List (List Step)} {q q' : Payload}
      (h : PassesCuts lead p later q) (hmakes : Makes (lead ++ early) q q') :
      PassesCuts lead p (early :: later) q'

/-- The route comes to its end with this name: the last step answers with it, or has no answer and
the last naming gives it to what the cuts make of the payload. -/
inductive RoutesTo (steps : List Step) (last : Finish) (p : Payload) : String → Prop where
  | answered {name : String} (h : (last.answer p).run.value = .ok (some name)) :
      RoutesTo steps last p name
  | fallen {n : Naming} {lead after : List Step} {q : Payload} {name : String}
      (hanswer : (last.answer p).run.value = .ok none) (hrouted : Routed steps n lead after)
      (hcuts : PassesCuts lead p (cuts after) q) (hname : (n q.event).value = name) :
      RoutesTo steps last p name

/-- What can leave a payload without a destination: an empty name at the end of the route, a last
step that fails, or a transformation that fails at a cut. A cut is reached where the last step has no
answer and all later cuts succeed. -/
inductive DestinationFault (steps : List Step) (last : Finish) (p : Payload) : EvalError → Prop where
  | emptyName (h : RoutesTo steps last p "") :
      DestinationFault steps last p (.invalidArgument .emptyDestination)
  | lastStep {f : Event → Traced (Except Failure String)} {source : Failure}
      (hlast : last = .routeByOrFail f) (hf : (f p.event).value = .error source) :
      DestinationFault steps last p (.route p.event.type source)
  | cut {n : Naming} {lead after early : List Step} {earlier later : List (List Step)} {q : Payload}
      {e : EvalError} (hanswer : (last.answer p).run.value = .ok none)
      (hrouted : Routed steps n lead after) (hcuts : cuts after = earlier ++ early :: later)
      (hlater : PassesCuts lead p later q) (hfault : TransformFault (lead ++ early) q e) :
      DestinationFault steps last p e

theorem Converts.eq_convertAll {p : Payload} {conversions matching : List Conversion}
    {run : Traced Payload} (h : Converts p conversions matching run) :
    run = convertAll p conversions := by
  induction h with
  | start => rfl
  | @applied s newer matching run _ hs ih =>
    subst ih
    exact (Traced.bind_congr (convertPayload_of_matches hs)).symm
  | @passed s newer matching run _ hs ih =>
    subst ih
    have hall : convertAll p (s :: newer) = convertAll p newer >>= pure :=
      Traced.bind_congr (convertPayload_of_not_matches hs)
    rw [hall, bind_pure]

section

variable {accepts : Event → Traced Bool} {steps : List Step} {last : Finish} {p q : Payload}
  {e : EvalError}

theorem value_transform_develop {after : List Step} {base : Payload → Eval Payload}
    (h : Bases steps base after) :
    (((ofFilter accepts).develop steps last).transform p).run.value =
      (base (convertAll p (after.filterMap Step.conversion?)).value).run.value := by
  rw [transform_develop h, value_run_lift_bind]

theorem transform_eq_ok_iff :
    (((ofFilter accepts).develop steps last).transform p).run.value = .ok q ↔ Makes steps p q := by
  constructor
  · intro h
    obtain ⟨base, after, hbases⟩ := bases_exists steps
    obtain ⟨matching, hrun⟩ := converts_convertAll p (after.filterMap Step.conversion?)
    rw [value_transform_develop hbases] at h
    exact ⟨base, after, matching, _, hbases, hrun, h⟩
  · intro h
    obtain ⟨base, after, matching, run, hbases, hrun, hq⟩ := h
    rw [value_transform_develop hbases, ← hrun.eq_convertAll]
    exact hq

/-- A replacement fails only where the function that it puts in place does. -/
theorem replacement_eq_error_iff {step : Step} {base : Payload → Eval Payload}
    (h : step.replacement? = some base) :
    (base q).run.value = .error e ↔ ∃ f source, step = .replaceOrFail f ∧
      (f q).value = .error source ∧ .transform q.event.type source = e := by
  cases step with
  | replace f =>
    cases Option.some.inj h
    constructor
    · intro hok
      cases hok
    · intro hh
      obtain ⟨_, _, heq, _⟩ := hh
      cases heq
  | replaceOrFail f =>
    cases Option.some.inj h
    change (f q >>= _).value = _ ↔ _
    rw [value_bind_eq_error_iff (fun made => ⟨made, rfl⟩) (fun source => rfl)]
    simp
  | _ => simp [Step.replacement?] at h

theorem transform_eq_error_iff :
    (((ofFilter accepts).develop steps last).transform p).run.value = .error e ↔
      TransformFault steps p e := by
  constructor
  · intro h
    obtain ⟨base, after, hbases⟩ := bases_exists steps
    rw [value_transform_develop hbases] at h
    cases hbases with
    | none => cases h -- without a replacement the payload stays as the conversions leave it
    | last hstep hafter =>
      obtain ⟨f, source, rfl, hf, rfl⟩ := (replacement_eq_error_iff hstep).mp h
      obtain ⟨matching, hrun⟩ := converts_convertAll p (after.filterMap Step.conversion?)
      exact .failed rfl hafter hrun hf
  · intro h
    obtain ⟨hsteps, hafter, hrun, hf⟩ := h
    subst hsteps
    rw [value_transform_develop (.last rfl hafter), ← hrun.eq_convertAll]
    exact (replacement_eq_error_iff rfl).mpr ⟨_, _, rfl, hf, rfl⟩

theorem answer_eq_error_iff :
    (last.answer p).run.value = .error e ↔ ∃ f source, last = .routeByOrFail f ∧
      (f p.event).value = .error source ∧ .route p.event.type source = e := by
  cases last with
  | routeByOrFail f =>
    change (f p.event >>= _).value = _ ↔ _
    rw [value_bind_eq_error_iff (fun name => ⟨some name, rfl⟩) (fun source => rfl)]
    simp
  | _ =>
    constructor
    · intro hok
      cases hok
    · intro hh
      obtain ⟨_, _, heq, _⟩ := hh
      cases heq

theorem transformAll_eq_error_iff {ms : List (Payload → Eval Payload)} :
    (transformAll p ms).run.value = .error e ↔ ∃ earlier m later q, ms = earlier ++ m :: later ∧
      (transformAll p later).run.value = .ok q ∧ (m q).run.value = .error e := by
  constructor
  · intro h
    induction ms with
    | nil => cases h
    | cons m later ih =>
      -- the later ones run first, so that `m` is to blame only where they succeed
      rcases value_run_bind_eq_error_iff.mp h with hlater | ⟨q, hq, hm⟩
      · obtain ⟨earlier, m', later', q, rfl, hq, hm'⟩ := ih hlater
        exact ⟨m :: earlier, m', later', q, rfl, hq, hm'⟩
      · exact ⟨[], m, later, q, rfl, hq, hm⟩
  · intro h
    obtain ⟨earlier, m, later, q, rfl, hq, hm⟩ := h
    exact run_transformAll_of_error hq hm

/-- The transformations at cuts after the leading steps. -/
def atCuts (c : Policy) (lead : List Step) (early : List (List Step)) :
    List (Payload → Eval Payload) :=
  early.map fun steps => (c.develop (lead ++ steps) .asIs).transform

theorem transformAll_eq_ok_iff {lead : List Step} {early : List (List Step)} :
    (transformAll p (atCuts (ofFilter accepts) lead early)).run.value = .ok q ↔
      PassesCuts lead p early q := by
  constructor
  · intro h
    induction early generalizing q with
    | nil =>
      cases h
      exact .start
    | cons first later ih =>
      obtain ⟨q', hlater, hq⟩ := value_run_bind_eq_ok_iff.mp h
      exact .cut (ih hlater) (transform_eq_ok_iff.mp hq)
  · intro h
    induction h with
    | start => rfl
    | cut _ hmakes ih => exact value_run_bind_eq_ok_iff.mpr ⟨_, ih, transform_eq_ok_iff.mpr hmakes⟩

theorem atCuts_eq_error_iff {lead : List Step} {early : List (List Step)} :
    (transformAll p (atCuts (ofFilter accepts) lead early)).run.value = .error e ↔
      ∃ earlier steps later q, early = earlier ++ steps :: later ∧ PassesCuts lead p later q ∧
        TransformFault (lead ++ steps) q e := by
  rw [transformAll_eq_error_iff]
  constructor
  · intro h
    obtain ⟨before, m, after, q, hsplit, hq, hm⟩ := h
    obtain ⟨earlier, rest, rfl, rfl, hrest⟩ := List.map_eq_append_iff.mp hsplit
    obtain ⟨steps, later, rfl, rfl, rfl⟩ := List.map_eq_cons_iff.mp hrest
    exact ⟨earlier, steps, later, q, rfl, transformAll_eq_ok_iff.mp hq, transform_eq_error_iff.mp hm⟩
  · intro h
    obtain ⟨earlier, steps, later, q, rfl, hq, hfault⟩ := h
    exact ⟨_, _, _, q, List.map_append, transformAll_eq_ok_iff.mpr hq,
      transform_eq_error_iff.mpr hfault⟩

theorem route_eq_ok_iff {name : String} :
    (((ofFilter accepts).develop steps last).route p).run.value = .ok name ↔
      RoutesTo steps last p name := by
  constructor
  · intro h
    obtain ⟨n, lead, after, hrouted⟩ := routed_exists steps
    rw [route_develop accepts hrouted] at h
    obtain ⟨answer?, hanswer, hname⟩ := value_run_bind_eq_ok_iff.mp h
    cases answer? with
    | some answer =>
      cases hname
      exact .answered hanswer
    | none =>
      obtain ⟨q, hq, hn⟩ := value_run_bind_eq_ok_iff.mp hname
      exact .fallen hanswer hrouted (transformAll_eq_ok_iff.mp hq) (Except.ok.inj hn)
  · intro h
    cases h with
    | answered h =>
      obtain ⟨n, lead, after, hrouted⟩ := routed_exists steps
      rw [route_develop accepts hrouted]
      exact value_run_bind_eq_ok_iff.mpr ⟨_, h, rfl⟩
    | fallen hanswer hrouted hcuts hname =>
      rw [route_develop accepts hrouted]
      refine value_run_bind_eq_ok_iff.mpr ⟨_, hanswer, ?_⟩
      exact value_run_bind_eq_ok_iff.mpr
        ⟨_, transformAll_eq_ok_iff.mpr hcuts, congrArg Except.ok hname⟩

theorem route_eq_error_iff {n : Naming} {lead after : List Step} (h : Routed steps n lead after) :
    (((ofFilter accepts).develop steps last).route p).run.value = .error e ↔
      (last.answer p).run.value = .error e ∨
        (last.answer p).run.value = .ok none ∧
          (transformAll p (atCuts (ofFilter accepts) lead (cuts after))).run.value = .error e := by
  rw [route_develop accepts h]
  refine value_run_bind_eq_error_iff.trans (or_congr_right ?_)
  constructor
  · intro hh
    obtain ⟨answer?, hanswer, he⟩ := hh
    cases answer? with
    | some answer => cases he
    | none =>
      rcases value_run_bind_eq_error_iff.mp he with hall | ⟨q, _, hnamed⟩
      · exact ⟨hanswer, hall⟩
      · cases hnamed
  · intro hh
    obtain ⟨hanswer, hall⟩ := hh
    exact ⟨none, hanswer, value_run_bind_eq_error_iff.mpr (Or.inl hall)⟩

theorem destination_eq_error_iff_route {c : Policy} :
    (c.destination p).run.value = .error e ↔ (c.route p).run.value = .error e ∨
      (c.route p).run.value = .ok "" ∧ e = .invalidArgument .emptyDestination := by
  refine value_run_bind_eq_error_iff.trans (or_congr_right ?_)
  change (∃ name, _ ∧ Destination.ofText name = .error e) ↔ _
  simp only [Destination.ofText_eq_error_iff]
  constructor
  · intro h
    obtain ⟨name, hname, rfl, he⟩ := h
    exact ⟨hname, he⟩
  · intro h
    exact ⟨"", h.1, rfl, h.2⟩

theorem destination_develop_eq_error_iff :
    (((ofFilter accepts).develop steps last).destination p).run.value = .error e ↔
      DestinationFault steps last p e := by
  rw [destination_eq_error_iff_route, route_eq_ok_iff]
  constructor
  · intro h
    obtain ⟨n, lead, after, hrouted⟩ := routed_exists steps
    rw [route_eq_error_iff hrouted, answer_eq_error_iff, atCuts_eq_error_iff] at h
    rcases h with (⟨f, source, hlast, hf, rfl⟩ | ⟨hanswer, hcut⟩) | ⟨hname, rfl⟩
    · exact .lastStep hlast hf
    · obtain ⟨earlier, early, later, q, hcuts, hlater, hfault⟩ := hcut
      exact .cut hanswer hrouted hcuts hlater hfault
    · exact .emptyName hname
  · intro h
    cases h with
    | emptyName hname => exact Or.inr ⟨hname, rfl⟩
    | lastStep hlast hf =>
      obtain ⟨n, lead, after, hrouted⟩ := routed_exists steps
      have hanswer := answer_eq_error_iff.mpr ⟨_, _, hlast, hf, rfl⟩
      exact Or.inl ((route_eq_error_iff hrouted).mpr (Or.inl hanswer))
    | cut hanswer hrouted hcuts hlater hfault =>
      refine Or.inl ((route_eq_error_iff hrouted).mpr (Or.inr ⟨hanswer, ?_⟩))
      exact atCuts_eq_error_iff.mpr ⟨_, _, _, _, hcuts, hlater, hfault⟩

end

/-- What can leave an event without a destination that is routed by its first declaration of a type:
that there is none, or that it gives an empty name. -/
inductive DeclarationFault (k : DeclarationKind) (name : Event → Declaration → Traced String)
    (e : Event) : EvalError → Prop where
  | undeclared (h : e.declaration? k = none) :
      DeclarationFault k name e (.route e.type (missingDeclaration k))
  | emptyName {d : Declaration} (h : e.declaration? k = some d) (hname : (name e d).value = "") :
      DeclarationFault k name e (.invalidArgument .emptyDestination)

/-- Names the destination by the first declaration of a type, and fails where there is none. -/
def byFirst (k : DeclarationKind) (name : Event → Declaration → Traced String) :
    Event → Traced (Except Failure String) := fun e =>
  match e.declaration? k with
  | some d => do return .ok (← name e d)
  | none => pure (.error (missingDeclaration k))

theorem byDeclarationOf_eq_develop (k : DeclarationKind)
    (name : Event → Declaration → Traced String) :
    byDeclarationOf k name = (declaring k).develop [] (.routeByOrFail (byFirst k name)) := rfl

theorem byDeclarationOf_eq_error_iff {k : DeclarationKind}
    {name : Event → Declaration → Traced String} {p : Payload} {e : EvalError} :
    ((byDeclarationOf k name).destination p).run.value = .error e ↔
      DeclarationFault k name p.event e := by
  rw [destination_eq_error_iff_route]
  change (_ >>= _ : Traced _).value = _ ∨ (_ >>= _ : Traced _).value = _ ∧ _ ↔ _
  simp only [Traced.value_bind]
  cases hfind : p.event.declaration? k with
  | none =>
    constructor
    · intro h
      rcases h with h | ⟨h, _⟩
      · cases h
        exact .undeclared hfind
      · cases h
    · intro h
      cases h with
      | undeclared => exact Or.inl rfl
      | emptyName h => simp [hfind] at h
  | some d =>
    constructor
    · intro h
      rcases h with h | ⟨h, rfl⟩
      · cases h
      · exact .emptyName hfind (Except.ok.inj h)
    · intro h
      cases h with
      | undeclared h => simp [hfind] at h
      | emptyName h hname =>
        cases Option.some.inj (hfind.symm.trans h)
        exact Or.inr ⟨congrArg Except.ok hname, rfl⟩

/-- However a policy is developed, an error comes from the function that failed. The transformation
fails just where its last replacement does. A destination is missing just where the route ends with
an empty name, where the last step fails, or where a transformation fails at a cut that is reached.
Failures are told as they are, with the type of what the function was given. To go by the first
declaration of a type is a last step that fails where there is none. -/
theorem faults_of_program {s : Selection} {c : Policy} (hc : select s = .ok c) (steps : List Step)
    (last : Finish) (p : Payload) :
    (∀ e, ((c.develop steps last).transform p).run.value = .error e ↔ TransformFault steps p e) ∧
    (∀ e, ((c.develop steps last).destination p).run.value = .error e ↔
      DestinationFault steps last p e) ∧
    (∀ k name,
      byDeclarationOf k name = (declaring k).develop [] (.routeByOrFail (byFirst k name)) ∧
      ∀ e, ((byDeclarationOf k name).destination p).run.value = .error e ↔
        DeclarationFault k name p.event e) := by
  rw [eq_ofFilter_of_select hc]
  refine ⟨fun e => transform_eq_error_iff, fun e => destination_develop_eq_error_iff, ?_⟩
  intro k name
  exact ⟨byDeclarationOf_eq_develop k name, fun e => byDeclarationOf_eq_error_iff⟩

/-- A failure with a cause. -/
def torn : Failure :=
  (Failure.ofMessage "closed").within "torn"

/-- Makes texts of characters, and then fails. -/
def tornText : List Step :=
  [.replaceOrFail fun _ => pure (.error torn),
    .convert .char fun _ => pure (Event.ofContent (.text "a"))]

theorem transformFault_tornText :
    TransformFault tornText (.raised (Event.ofContent (.char 'a')))
      (.transform ⟨"alloc::string::String"⟩ torn) := by
  have hrun : Converts (.raised (Event.ofContent (.char 'a')))
      [⟨.char, fun _ => pure (Event.ofContent (.text "a"))⟩] _ _ := .applied .start rfl
  exact @TransformFault.failed _ _ [] (tornText.drop 1) (fun _ => pure (.error torn)) _ _ torn rfl
    (by simp [tornText, Step.replacement?]) hrun rfl

/-- The failure names the text that the function was given and not the character that was raised. At
a cut it leaves the character without a destination, unless the last step has one. -/
theorem faults_of_program_tornText : ∃ c, select (.within "acme") = .ok c ∧
    ((c.develop tornText .asIs).transform (.raised (Event.ofContent (.char 'a')))).run.value =
      .error (.transform ⟨"alloc::string::String"⟩ torn) ∧
    ((c.develop (tornText ++ [.routeTransformed]) .asIs).destination
      (.raised (Event.ofContent (.char 'a')))).run.value =
      .error (.transform ⟨"alloc::string::String"⟩ torn) ∧
    ∀ e, ((c.develop (tornText ++ [.routeTransformed])
      (.routeWhere fun _ => pure (some "spare"))).destination
      (.raised (Event.ofContent (.char 'a')))).run.value ≠ .error e := by
  obtain ⟨c, hc⟩ : ∃ c, select (.within "acme") = .ok c := ⟨_, rfl⟩
  refine ⟨c, hc, ?_, ?_, fun e he => ?_⟩
  · obtain ⟨htransform, _, _⟩ := faults_of_program hc tornText .asIs _
    exact (htransform _).mpr transformFault_tornText
  · obtain ⟨_, hdestination, _⟩ := faults_of_program hc (tornText ++ [.routeTransformed]) .asIs _
    have hrouted : Routed (tornText ++ [.routeTransformed]) (Naming.declaredOrFull .standard) []
        (tornText ++ [.routeTransformed]) := .default (by simp [tornText, Step.naming?])
    exact (hdestination _).mpr (@DestinationFault.cut _ _ _ _ _ _ tornText [] [] _ _ rfl hrouted rfl
      .start transformFault_tornText)
  · obtain ⟨_, hdestination, _⟩ := faults_of_program hc (tornText ++ [.routeTransformed])
      (.routeWhere fun _ => pure (some "spare")) (.raised (Event.ofContent (.char 'a')))
    cases (hdestination e).mp he with
    | emptyName h =>
      cases h with
      | answered h => exact absurd (Option.some.inj (Except.ok.inj h)) (by decide)
      | fallen hanswer => cases hanswer
    | lastStep hlast => cases hlast
    | cut hanswer => cases hanswer

end Policy

end Outbound
