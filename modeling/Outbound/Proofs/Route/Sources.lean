import Outbound.Route.Registry

namespace Outbound

namespace RouteSource

/-- The sources that are not brought along by the caller. -/
def isBuiltIn : RouteSource → Bool
  | declared _ => true
  | table _ => true
  | custom _ _ _ => false

theorem routeOf_not_blank {source : RouteSource} {e : Event} {route : String}
    (hs : source.isBuiltIn = true) (h : (source.routeOf e).value = some route) :
    isBlank route = false := by
  have hbind : ∃ raw : Option String, raw.bind unlessBlank = some route := by
    cases source with
    | declared kind => exact ⟨_, h⟩
    | table routes => exact ⟨_, h⟩
    | custom => simp [isBuiltIn] at hs
  obtain ⟨raw, hraw⟩ := hbind
  obtain ⟨s, _, hblank⟩ := Option.bind_eq_some_iff.mp hraw
  obtain ⟨hs, rfl⟩ := unlessBlank_eq_some_iff.mp hblank
  exact hs

end RouteSource

namespace Registry

theorem value_coveredBy (sources : List RouteSource) (e : Event) :
    (coveredBy sources e).value = sources.any fun source => (source.covers e).value := by
  induction sources with
  | nil => rfl
  | cons source rest ih =>
    unfold coveredBy
    rw [Traced.value_bind, List.any_cons]
    cases (source.covers e).value with
    | true => rfl
    | false => simpa using ih

theorem value_routeFrom (sources : List RouteSource) (e : Event) :
    (routeFrom sources e).value = sources.findSome? fun source => (source.routeOf e).value := by
  induction sources with
  | nil => rfl
  | cons source rest ih =>
    unfold routeFrom
    rw [Traced.value_bind, List.findSome?_cons]
    cases (source.routeOf e).value with
    | some route => rfl
    | none => simpa using ih

/-- No source of the registry is brought along by the caller. -/
def IsBuiltIn (r : Registry) : Prop :=
  ∀ source ∈ r.sources, source.isBuiltIn = true

theorem routeOf_not_blank {r : Registry} {e : Event} {route : String} (hr : r.IsBuiltIn)
    (h : (r.routeOf e).value = some route) : isBlank route = false := by
  unfold routeOf at h
  rw [value_routeFrom] at h
  obtain ⟨source, hmem, hroute⟩ := List.exists_of_findSome?_eq_some h
  exact RouteSource.routeOf_not_blank (hr source hmem) hroute

end Registry

end Outbound
