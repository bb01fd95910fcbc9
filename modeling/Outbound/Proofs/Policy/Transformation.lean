import Outbound.Policy.Refine
import Outbound.Proofs.Policy.Selection

namespace Outbound

namespace Policy

/-- A function for the payloads of one concrete type. -/
structure Conversion where
  kind : Kind
  convert : Event → Traced Event

def Conversion.Matches (s : Conversion) (p : Payload) : Prop :=
  p.event.content.kind = s.kind

/-- The way of a payload through conversions. It meets the last of them first. Those that match
what reaches them apply, the others hand it on as it is. -/
inductive Converts (p : Payload) :
    List Conversion → List Conversion → Traced Payload → Prop where
  | start : Converts p [] [] (pure p)
  | applied {s : Conversion} {newer matching : List Conversion} {run : Traced Payload}
      (h : Converts p newer matching run) (hs : s.Matches run.value) :
      Converts p (s :: newer) (s :: matching) (do return .made (← s.convert (← run).event))
  | passed {s : Conversion} {newer matching : List Conversion} {run : Traced Payload}
      (h : Converts p newer matching run) (hs : ¬ s.Matches run.value) :
      Converts p (s :: newer) matching run

namespace Step

/-- The transformation that takes the place of the one before the step. -/
def replacement? : Step → Option (Payload → Eval Payload)
  | .replace f => some fun p => ExceptT.lift (f p)
  | .replaceOrFail f => some fun p => ExceptT.mk do
      match ← f p with
      | .ok q => pure (.ok q)
      | .error source => pure (.error (.transform p.event.type source))
  | _ => none

def conversion? : Step → Option Conversion
  | .convert kind f => some ⟨kind, f⟩
  | _ => none

end Step

/-- The conversions one after the other, the last one first. -/
def convertAll (p : Payload) : List Conversion → Traced Payload
  | [] => pure p
  | s :: newer => do convertPayload s.kind s.convert (← convertAll p newer)

theorem matches_iff_is {s : Conversion} {q : Payload} :
    s.Matches q ↔ q.event.is s.kind = true := by
  unfold Conversion.Matches Event.is
  exact decide_eq_true_iff.symm

theorem convertPayload_of_matches {s : Conversion} {q : Payload} (h : s.Matches q) :
    convertPayload s.kind s.convert q = do return .made (← s.convert q.event) := by
  unfold convertPayload
  rw [if_pos (matches_iff_is.mp h)]

theorem convertPayload_of_not_matches {s : Conversion} {q : Payload} (h : ¬ s.Matches q) :
    convertPayload s.kind s.convert q = pure q := by
  unfold convertPayload
  rw [if_neg (mt matches_iff_is.mpr h)]

theorem converts_convertAll (p : Payload) (conversions : List Conversion) :
    ∃ matching, Converts p conversions matching (convertAll p conversions) := by
  induction conversions with
  | nil => exact ⟨[], .start⟩
  | cons s newer ih =>
    obtain ⟨matching, hnewer⟩ := ih
    have hall : convertAll p (s :: newer) =
        convertAll p newer >>= fun q => convertPayload s.kind s.convert q := rfl
    -- whether `s` applies depends on what the newer conversions make of the payload
    by_cases hs : s.Matches (convertAll p newer).value
    · have hrun : convertAll p (s :: newer) =
          do return .made (← s.convert (← convertAll p newer).event) :=
        hall.trans (Traced.bind_congr (convertPayload_of_matches hs))
      rw [hrun]
      exact ⟨s :: matching, .applied hnewer hs⟩
    · have hrun : convertAll p (s :: newer) = convertAll p newer >>= pure :=
        hall.trans (Traced.bind_congr (convertPayload_of_not_matches hs))
      rw [hrun, bind_pure]
      exact ⟨matching, .passed hnewer hs⟩

section

variable {c : Policy} {step : Step}

theorem transform_refine_of_replacement {base : Payload → Eval Payload}
    (h : step.replacement? = some base) : (c.refine step).transform = base := by
  cases step with
  | replace | replaceOrFail => exact Option.some.inj h
  | _ => simp [Step.replacement?] at h

theorem transform_refine_of_conversion {s : Conversion} (h : step.conversion? = some s) :
    (c.refine step).transform =
      fun p => ExceptT.lift (convertPayload s.kind s.convert p) >>= c.transform := by
  cases step with
  | convert =>
    cases Option.some.inj h
    rfl
  | _ => simp [Step.conversion?] at h

theorem transform_refine_of_none (hr : step.replacement? = none) (hc : step.conversion? = none) :
    (c.refine step).transform = c.transform := by
  cases step with
  | replace | replaceOrFail => simp [Step.replacement?] at hr
  | convert => simp [Step.conversion?] at hc
  | _ => rfl

end

theorem transform_finish (c : Policy) (last : Finish) : (c.finish last).transform = c.transform := by
  cases last <;> rfl

/-- Steps that replace nothing put their conversions in front of the transformation so far. -/
theorem transform_foldl {steps : List Step} (h : ∀ step ∈ steps, step.replacement? = none)
    (c : Policy) (p : Payload) :
    (steps.foldl refine c).transform p =
      ExceptT.lift (convertAll p (steps.filterMap Step.conversion?)) >>= c.transform := by
  induction steps generalizing c with
  | nil => rfl
  | cons step rest ih =>
    have hstep := h step List.mem_cons_self
    rw [List.foldl_cons, ih fun x hx => h x (List.mem_cons_of_mem step hx)]
    cases hc : step.conversion? with
    | none => rw [List.filterMap_cons_none hc, transform_refine_of_none hstep hc]
    | some s =>
      -- the first conversion of the list is met last, right before the transformation so far
      have hlift : (ExceptT.lift (convertAll p (s :: rest.filterMap Step.conversion?)) :
          Eval Payload) = ExceptT.lift (convertAll p (rest.filterMap Step.conversion?)) >>=
            fun q => ExceptT.lift (convertPayload s.kind s.convert q) :=
        monadLift_bind (m := Traced) (n := Eval) _ _
      rw [List.filterMap_cons_some hc, transform_refine_of_conversion hc, hlift, bind_assoc]

/-- The last of the transformations that replace what is before them, or none at all, and the
steps that follow it. -/
inductive Bases : List Step → (Payload → Eval Payload) → List Step → Prop where
  | none {steps : List Step} (h : ∀ step ∈ steps, step.replacement? = none) :
      Bases steps pure steps
  | last {before after : List Step} {step : Step} {base : Payload → Eval Payload}
      (hstep : step.replacement? = some base) (h : ∀ step ∈ after, step.replacement? = none) :
      Bases (before ++ step :: after) base after

theorem last_some_or_none {β : Type} (f : Step → Option β) (steps : List Step) :
    (∀ step ∈ steps, f step = none) ∨ ∃ before step after b,
      steps = before ++ step :: after ∧ f step = some b ∧ ∀ step ∈ after, f step = none := by
  cases h : steps.reverse.findSome? f with
  | none =>
    refine Or.inl fun step hstep => ?_
    exact List.findSome?_eq_none_iff.mp h step (List.mem_reverse.mpr hstep)
  | some b =>
    obtain ⟨later, step, earlier, heq, hstep, hlater⟩ := List.findSome?_eq_some_iff.mp h
    refine Or.inr ⟨earlier.reverse, step, later.reverse, b, ?_, hstep, fun x hx => ?_⟩
    · simpa using congrArg List.reverse heq
    · exact hlater x (List.mem_reverse.mp hx)

theorem bases_exists (steps : List Step) : ∃ base after, Bases steps base after := by
  rcases last_some_or_none Step.replacement? steps with h | ⟨before, step, after, base, rfl, hstep, h⟩
  · exact ⟨pure, steps, .none h⟩
  · exact ⟨base, after, .last hstep h⟩

/-- Steps before the last replacement have no part in the transformation. -/
theorem transform_develop {accepts : Event → Traced Bool} {steps after : List Step}
    {base : Payload → Eval Payload} (h : Bases steps base after) (last : Finish) (p : Payload) :
    ((ofFilter accepts).develop steps last).transform p =
      ExceptT.lift (convertAll p (after.filterMap Step.conversion?)) >>= base := by
  unfold develop
  rw [transform_finish]
  cases h with
  | none h => exact transform_foldl h (ofFilter accepts) p
  | last hstep h =>
    rw [List.foldl_append, List.foldl_cons, transform_foldl h, transform_refine_of_replacement hstep]

theorem convertAll_of_no_match {p : Payload} {conversions : List Conversion}
    (h : ∀ s ∈ conversions, ¬ s.Matches p) : convertAll p conversions = pure p := by
  induction conversions with
  | nil => rfl
  | cons s newer ih =>
    unfold convertAll
    rw [ih fun x hx => h x (List.mem_cons_of_mem s hx), pure_bind]
    exact convertPayload_of_not_matches (h s List.mem_cons_self)

/-- What the function makes of an event does not depend on how the event is named. -/
def Conversion.IgnoresNames (s : Conversion) : Prop :=
  ∀ e e' : Event, e.content = e'.content → (s.convert e).value.content = (s.convert e').value.content

theorem Converts.renamed {p p' : Payload} {conversions matching : List Conversion}
    {run : Traced Payload} (h : Converts p conversions matching run)
    (hp : p.event.content = p'.event.content) (hs : ∀ s ∈ conversions, s.IgnoresNames) :
    ∃ run', Converts p' conversions matching run' ∧
      run.value.event.content = run'.value.event.content := by
  induction h with
  | start => exact ⟨pure p', .start, hp⟩
  | @applied s newer matching run _ hmatch ih =>
    obtain ⟨run', hrun', hsame⟩ := ih fun x hx => hs x (List.mem_cons_of_mem s hx)
    have hmatch' : s.Matches run'.value := (congrArg Content.kind hsame).symm.trans hmatch
    exact ⟨_, .applied hrun' hmatch', hs s List.mem_cons_self _ _ hsame⟩
  | @passed s newer matching run _ hmatch ih =>
    obtain ⟨run', hrun', hsame⟩ := ih fun x hx => hs x (List.mem_cons_of_mem s hx)
    have hmatch' : ¬ s.Matches run'.value :=
      fun h' => hmatch ((congrArg Content.kind hsame).trans h')
    exact ⟨run', .passed hrun' hmatch', hsame⟩

/-- However a policy is developed, it transforms a payload by the conversions after the last
replacement, the newest first, and then by that replacement. Each conversion applies to what reaches
it by the concrete type of this alone, whatever its name. Nothing else in the program has a part. -/
theorem transform_of_program {s : Selection} {c : Policy} (hc : select s = .ok c)
    (steps : List Step) (last : Finish) :
    (∃ base after, Bases steps base after) ∧
    (∀ base after, Bases steps base after →
      (∀ p, ∃ matching run, Converts p (after.filterMap Step.conversion?) matching run ∧
        (c.develop steps last).transform p = ExceptT.lift run >>= base) ∧
      (∀ s' c' steps' last' after', select s' = .ok c' → Bases steps' base after' →
        after'.filterMap Step.conversion? = after.filterMap Step.conversion? →
        (c'.develop steps' last').transform = (c.develop steps last).transform) ∧
      (∀ p p' : Payload, p.event.content = p'.event.content →
        (∀ s ∈ after.filterMap Step.conversion?, s.IgnoresNames) → ∀ matching run,
        Converts p (after.filterMap Step.conversion?) matching run →
        ∃ run', Converts p' (after.filterMap Step.conversion?) matching run')) ∧
    ((∀ step ∈ steps, step.replacement? = none) → ∀ p,
      (∀ s ∈ steps.filterMap Step.conversion?, ¬ s.Matches p) →
      (c.develop steps last).transform p = pure p) := by
  rw [eq_ofFilter_of_select hc]
  refine ⟨bases_exists steps, fun base after hbases => ⟨?_, ?_, ?_⟩, ?_⟩
  · intro p
    obtain ⟨matching, hrun⟩ := converts_convertAll p (after.filterMap Step.conversion?)
    exact ⟨matching, _, hrun, transform_develop hbases last p⟩
  · intro s' c' steps' last' after' hc' hbases' hsame
    rw [eq_ofFilter_of_select hc']
    funext p
    rw [transform_develop hbases', transform_develop hbases, hsame]
  · intro p p' hp hs matching run hrun
    obtain ⟨run', hrun', _⟩ := hrun.renamed hp hs
    exact ⟨run', hrun'⟩
  · intro h p hnone
    rw [transform_develop (.none h), convertAll_of_no_match hnone]
    rfl

/-- A conversion that is replaced, and two that undo each other. -/
def thereAndBack : List Step :=
  [.convert .text fun _ => pure (Event.ofContent (.char 'a')),
    .replace fun p => pure p,
    .convert .bool fun _ => pure (Event.ofContent (.text "on")),
    .routeTransformed,
    .convert .text fun _ => pure (Event.ofContent (.bool true))]

/-- The newest conversion makes a flag of the text, and the one before it a text of the flag. The
oldest one is out of force, and does not see that text. A character matches neither. -/
theorem transform_of_program_thereAndBack : ∃ c, select (.within "acme") = .ok c ∧
    ((c.develop thereAndBack .routeByFullName).transform
      (.raised (Event.ofContent (.text "off")))).run.value =
      .ok (.made (Event.ofContent (.text "on"))) ∧
    (c.develop (thereAndBack.drop 2) .asIs).transform (.raised (Event.ofContent (.char 'b'))) =
      pure (.raised (Event.ofContent (.char 'b'))) := by
  obtain ⟨c, hc⟩ : ∃ c, select (.within "acme") = .ok c := ⟨_, rfl⟩
  refine ⟨c, hc, ?_, ?_⟩
  · have hbases : Bases thereAndBack (fun p => ExceptT.lift (pure p)) (thereAndBack.drop 2) :=
      @Bases.last (thereAndBack.take 1) (thereAndBack.drop 2) _ _ rfl
        (by simp [thereAndBack, Step.replacement?])
    obtain ⟨matching, run, hrun, htransform⟩ :=
      ((transform_of_program hc thereAndBack .routeByFullName).2.1 _ _ hbases).1
        (.raised (Event.ofContent (.text "off")))
    rw [htransform]
    change Converts _ [⟨.bool, _⟩, ⟨.text, _⟩] matching run at hrun
    cases hrun with
    | passed h hs =>
      cases h with
      | passed h hs' => cases h; exact absurd rfl hs'
      | applied h hs' => cases h; exact absurd rfl hs
    | applied h hs =>
      cases h with
      | passed h hs' => cases h; exact absurd rfl hs'
      | applied h hs' => cases h; rfl
  · refine (transform_of_program hc (thereAndBack.drop 2) .asIs).2.2 ?_ _ ?_
    · simp [thereAndBack, Step.replacement?]
    · simp [thereAndBack, Step.conversion?, Conversion.Matches, Payload.event, Event.ofContent,
        Content.kind]

end Policy

end Outbound
