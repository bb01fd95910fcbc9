import Mathlib.Data.List.TakeWhile
import Outbound.Proofs.Route.Sources

namespace Outbound

/-- The members of a list before the first one with a property, and then that one if there is one. -/
def upToFirst {α : Type} (p : α → Bool) (l : List α) : List α :=
  l.takeWhile (fun x => !p x) ++ (l.find? p).toList

section

variable {α β : Type} {p : α → Bool} {x : α} {rest : List α}

theorem upToFirst_of_holds (h : p x = true) : upToFirst p (x :: rest) = [x] := by
  simp [upToFirst, h]

theorem upToFirst_of_not_holds (h : p x = false) :
    upToFirst p (x :: rest) = x :: upToFirst p rest := by
  simp [upToFirst, h]

theorem upToFirst_map (f : β → α) (l : List β) :
    upToFirst p (l.map f) = (upToFirst (fun b => p (f b)) l).map f := by
  unfold upToFirst
  rw [List.takeWhile_map, List.find?_map, List.map_append, Option.toList_map]
  rfl

end

theorem unlessBlank_of_blank {s : String} (h : isBlank s = true) : unlessBlank s = none := by
  unfold unlessBlank
  rw [if_pos h]

namespace RouteSource

/-- The source as a caller would write it to see when it is asked. -/
def reporting (source : RouteSource) (label : String) : RouteSource :=
  .custom source.name (fun e => do Traced.mark (.called label); source.covers e)
    (fun e => do Traced.mark (.called label); source.routeOf e)

/-- The source knows the event, but all that it has for a route is blank. Of the declarations of one
type the first one counts. -/
inductive CoversBlank (e : Event) : RouteSource → Prop where
  | declared {kind : DeclarationKind} {d : Declaration} (h : e.declaration? kind = some d)
      (hblank : ∀ route, d.route = some route → isBlank route = true) : CoversBlank e (.declared kind)
  | table {routes : RouteTable} {route : String} (h : routes.get? e.type.name = some route)
      (hblank : isBlank route = true) : CoversBlank e (.table routes)

variable {source : RouteSource} {e : Event}

theorem value_covers_declared {kind : DeclarationKind} :
    ((declared kind).covers e).value = (e.declaration? kind).isSome := rfl

theorem value_routeOf_declared {kind : DeclarationKind} :
    ((declared kind).routeOf e).value =
      ((e.declaration? kind).bind Declaration.route).bind unlessBlank := rfl

theorem value_covers_table {routes : RouteTable} :
    ((table routes).covers e).value = (routes.get? e.type.name).isSome := rfl

theorem value_routeOf_table {routes : RouteTable} :
    ((table routes).routeOf e).value = (routes.get? e.type.name).bind unlessBlank := rfl

theorem covers_of_coversBlank (h : source.CoversBlank e) : (source.covers e).value = true := by
  cases h with
  | declared h => rw [value_covers_declared, h, Option.isSome_some]
  | table h => rw [value_covers_table, h, Option.isSome_some]

theorem routeOf_of_coversBlank (h : source.CoversBlank e) : (source.routeOf e).value = none := by
  cases h with
  | declared h hblank =>
    rw [value_routeOf_declared, h, Option.bind_eq_none_iff]
    exact fun route hroute => unlessBlank_of_blank (hblank route hroute)
  | table h hblank =>
    rw [value_routeOf_table, h]
    exact unlessBlank_of_blank hblank

theorem covers_of_routeOf {route : String} (hs : source.isBuiltIn = true)
    (h : (source.routeOf e).value = some route) : (source.covers e).value = true := by
  -- a route is found where something is declared
  cases source with
  | declared kind =>
    rw [value_covers_declared, Option.isSome_iff_ne_none]
    intro hnone
    simp [value_routeOf_declared, hnone] at h
  | table routes =>
    rw [value_covers_table, Option.isSome_iff_ne_none]
    intro hnone
    simp [value_routeOf_table, hnone] at h
  | custom => simp [isBuiltIn] at hs

end RouteSource

namespace Registry

theorem routeFrom_append (xs ys : List RouteSource) (e : Event) :
    routeFrom (xs ++ ys) e = (do
      match ← routeFrom xs e with
      | some route => pure (some route)
      | none => routeFrom ys e) := by
  induction xs with
  | nil => exact (pure_bind _ _).symm
  | cons source rest ih =>
    rw [List.cons_append, routeFrom, routeFrom, bind_assoc]
    apply Traced.bind_congr
    cases (source.routeOf e).value with
    | some route => exact (pure_bind _ _).symm
    | none => exact ih

theorem coveredBy_append (xs ys : List RouteSource) (e : Event) :
    coveredBy (xs ++ ys) e = (do if ← coveredBy xs e then pure true else coveredBy ys e) := by
  induction xs with
  | nil => exact (pure_bind _ _).symm
  | cons source rest ih =>
    rw [List.cons_append, coveredBy, coveredBy, bind_assoc]
    apply Traced.bind_congr
    cases (source.covers e).value with
    | true => exact (pure_bind _ _).symm
    | false => exact ih

theorem marks_routeFrom (sources : List RouteSource) (e : Event) :
    (routeFrom sources e).marks =
      (upToFirst (fun source => (source.routeOf e).value.isSome) sources).flatMap
        fun source => (source.routeOf e).marks := by
  induction sources with
  | nil => rfl
  | cons source rest ih =>
    rw [routeFrom, Traced.marks_bind]
    cases h : (source.routeOf e).value with
    | some route => simp [upToFirst_of_holds, h]
    | none => simp [upToFirst_of_not_holds, h, ih]

theorem marks_coveredBy (sources : List RouteSource) (e : Event) :
    (coveredBy sources e).marks =
      (upToFirst (fun source => (source.covers e).value) sources).flatMap
        fun source => (source.covers e).marks := by
  induction sources with
  | nil => rfl
  | cons source rest ih =>
    rw [coveredBy, Traced.marks_bind]
    cases h : (source.covers e).value with
    | true => simp [upToFirst_of_holds, h]
    | false => simp [upToFirst_of_not_holds, h, ih]

/-- A registry of labelled sources that report when they are asked. -/
def reporting (labelled : List (String × RouteSource)) : Registry :=
  ⟨labelled.map fun s => s.2.reporting s.1⟩

theorem value_reporting_routeOf (labelled : List (String × RouteSource)) (e : Event) :
    ((reporting labelled).routeOf e).value = ((mk (labelled.map Prod.snd)).routeOf e).value := by
  unfold routeOf
  simp only [value_routeFrom, reporting, List.findSome?_map]
  rfl

theorem value_reporting_covers (labelled : List (String × RouteSource)) (e : Event) :
    ((reporting labelled).covers e).value = ((mk (labelled.map Prod.snd)).covers e).value := by
  unfold covers
  simp only [value_coveredBy, reporting, List.any_map]
  rfl

theorem marks_reporting_routeOf (labelled : List (String × RouteSource)) (e : Event) :
    ((reporting labelled).routeOf e).marks =
      (upToFirst (fun s => (s.2.routeOf e).value.isSome) labelled).flatMap
        fun s => .called s.1 :: (s.2.routeOf e).marks := by
  unfold routeOf
  rw [marks_routeFrom, reporting, upToFirst_map, List.flatMap_map]
  rfl

theorem marks_reporting_covers (labelled : List (String × RouteSource)) (e : Event) :
    ((reporting labelled).covers e).marks =
      (upToFirst (fun s => (s.2.covers e).value) labelled).flatMap
        fun s => .called s.1 :: (s.2.covers e).marks := by
  unfold covers
  rw [marks_coveredBy, reporting, upToFirst_map, List.flatMap_map]
  rfl

section

variable {r : Registry} {e : Event}

theorem covers_of_routeOf {route : String} (hr : r.IsBuiltIn)
    (h : (r.routeOf e).value = some route) : (r.covers e).value = true := by
  unfold routeOf at h
  rw [value_routeFrom] at h
  obtain ⟨source, hmem, hroute⟩ := List.exists_of_findSome?_eq_some h
  unfold covers
  rw [value_coveredBy, List.any_eq_true]
  exact ⟨source, hmem, RouteSource.covers_of_routeOf (hr source hmem) hroute⟩

theorem covers_of_coversBlank {source : RouteSource} (hmem : source ∈ r.sources)
    (h : source.CoversBlank e) : (r.covers e).value = true := by
  unfold covers
  rw [value_coveredBy, List.any_eq_true]
  exact ⟨source, hmem, RouteSource.covers_of_coversBlank h⟩

/-- A source without a route for the event leaves it to the others. -/
theorem value_routeFrom_of_none {source : RouteSource} (h : (source.routeOf e).value = none)
    (before after : List RouteSource) :
    (routeFrom (before ++ source :: after) e).value = (routeFrom (before ++ after) e).value := by
  simp only [value_routeFrom, List.findSome?_append, List.findSome?_cons, h]

end

/-- Registries compose: sources are asked one after the other, each one once, up to the first that
answers, and later ones answer where earlier ones do not. Built-in sources give no blank routes and
none for events that they do not know. Where one has only a blank route, the event is known and the
others have to name its route. -/
theorem sources_in_order_of_priority :
    (∀ (xs ys : List RouteSource) (e : Event),
      (mk (xs ++ ys)).routeOf e = (do
        match ← (mk xs).routeOf e with
        | some route => pure (some route)
        | none => (mk ys).routeOf e) ∧
      (mk (xs ++ ys)).covers e = (do if ← (mk xs).covers e then pure true else (mk ys).covers e) ∧
      ((mk (xs ++ ys)).routeOf e).value = ((mk xs).routeOf e).value.or ((mk ys).routeOf e).value ∧
      ((mk (xs ++ ys)).covers e).value =
        (((mk xs).covers e).value || ((mk ys).covers e).value)) ∧
    (∀ (labelled : List (String × RouteSource)) (e : Event),
      ((reporting labelled).routeOf e).value = ((mk (labelled.map Prod.snd)).routeOf e).value ∧
      ((reporting labelled).routeOf e).marks =
        (upToFirst (fun s => (s.2.routeOf e).value.isSome) labelled).flatMap
          (fun s => .called s.1 :: (s.2.routeOf e).marks) ∧
      ((reporting labelled).covers e).value = ((mk (labelled.map Prod.snd)).covers e).value ∧
      ((reporting labelled).covers e).marks =
        (upToFirst (fun s => (s.2.covers e).value) labelled).flatMap
          (fun s => .called s.1 :: (s.2.covers e).marks)) ∧
    (∀ (r : Registry) (e : Event) (route : String), r.IsBuiltIn →
      (r.routeOf e).value = some route → isBlank route = false ∧ (r.covers e).value = true) ∧
    (∀ (r : Registry) (e : Event) (before : List RouteSource) (source : RouteSource)
      (after : List RouteSource), r.sources = before ++ source :: after → source.CoversBlank e →
        (r.covers e).value = true ∧
          (r.routeOf e).value = ((mk (before ++ after)).routeOf e).value) := by
  refine ⟨fun xs ys e => ?_, fun labelled e => ?_, fun r e route hr h => ?_, ?_⟩
  · refine ⟨routeFrom_append xs ys e, coveredBy_append xs ys e, ?_, ?_⟩
    · simp only [routeOf, value_routeFrom, List.findSome?_append]
    · simp only [covers, value_coveredBy, List.any_append]
  · exact ⟨value_reporting_routeOf labelled e, marks_reporting_routeOf labelled e,
      value_reporting_covers labelled e, marks_reporting_covers labelled e⟩
  · exact ⟨routeOf_not_blank hr h, covers_of_routeOf hr h⟩
  · intro r e before source after hsources hblank
    have hmem : source ∈ r.sources := by simp [hsources]
    refine ⟨covers_of_coversBlank hmem hblank, ?_⟩
    unfold routeOf
    rw [hsources]
    exact value_routeFrom_of_none (RouteSource.routeOf_of_coversBlank hblank) before after

/-- Topics that events declare come before a table. -/
def topicsFirst : Registry :=
  ⟨[.declared (.custom "acme::Topic"), .table (.ofList [("acme::Ping", "pings")])]⟩

/-- An event with two topics, the first of them blank. -/
def twiceNamedPing : Event :=
  ⟨.bool true, ⟨"acme::Ping"⟩, "bool",
    [.custom "acme::Topic" (some " "), .custom "acme::Topic" (some "late")]⟩

/-- The blank topic counts although a later one is not blank, so that the table names the route. -/
theorem sources_in_order_of_priority_topicsFirst :
    topicsFirst.IsBuiltIn ∧
    (RouteSource.declared (.custom "acme::Topic")).CoversBlank twiceNamedPing ∧
    (topicsFirst.covers twiceNamedPing).value = true ∧
    (topicsFirst.routeOf twiceNamedPing).value = some "pings" ∧ isBlank "pings" = false := by
  obtain ⟨_, _, hnamed, hblank⟩ := sources_in_order_of_priority
  have hbuiltIn : topicsFirst.IsBuiltIn := by simp [IsBuiltIn, topicsFirst, RouteSource.isBuiltIn]
  have hcovers : (RouteSource.declared (.custom "acme::Topic")).CoversBlank twiceNamedPing := by
    refine .declared (d := .custom "acme::Topic" (some " ")) (by decide) fun route h => ?_
    cases Option.some.inj h
    decide +kernel
  obtain ⟨_, hroute⟩ := hblank topicsFirst twiceNamedPing [] _ _ rfl hcovers
  have htable : (topicsFirst.routeOf twiceNamedPing).value = some "pings" := by
    rw [hroute]
    decide +kernel
  obtain ⟨hnot, hknown⟩ := hnamed topicsFirst twiceNamedPing "pings" hbuiltIn htable
  exact ⟨hbuiltIn, hcovers, hknown, htable, hnot⟩

end Registry

end Outbound
