import Outbound.Proofs.Policy.Preset

namespace Outbound

/-- Of two namespaces that a type stands in, the one of greater length is not the shorter text. -/
theorem length_trim_le {t : TypePath} {root other : String} (h : t.isWithin root = true)
    (ho : t.isWithin other = true) (hle : trimmedLength root ≤ trimmedLength other) :
    (Path.trim root.toList).length ≤ (Path.trim other.toList).length := by
  rcases Path.trim_comparable h ho with hprefix | hprefix
  · exact hprefix.length_le
  · exact Nat.le_of_eq (congrArg List.length (trim_eq_of_extension hprefix hle).symm)

/-- What is left below the longer namespace ends what is left below the shorter one. -/
theorem TypePath.localPart_extends {t : TypePath} {root other x y : String}
    (hx : t.localPart root = some x) (hy : t.localPart other = some y)
    (hle : trimmedLength root ≤ trimmedLength other) : ∃ outer, x = outer ++ y := by
  obtain ⟨hroot, hnamex⟩ := TypePath.localPart_eq_some_iff.mp hx
  obtain ⟨hother, hnamey⟩ := TypePath.localPart_eq_some_iff.mp hy
  have hsuffixx : x.toList <:+ t.name.toList :=
    ⟨Path.trim root.toList ++ [':', ':'], by rw [hnamex, List.append_assoc]; rfl⟩
  have hsuffixy : y.toList <:+ t.name.toList :=
    ⟨Path.trim other.toList ++ [':', ':'], by rw [hnamey, List.append_assoc]; rfl⟩
  have hlength : y.toList.length ≤ x.toList.length := by
    have htrim := length_trim_le hroot hother hle
    have hsame := congrArg List.length (hnamex.symm.trans hnamey)
    simp only [List.length_append, List.length_cons] at hsame
    omega
  obtain ⟨outer, houter⟩ := List.suffix_of_suffix_length_le hsuffixy hsuffixx hlength
  refine ⟨String.ofList outer, String.toList_injective ?_⟩
  rw [String.toList_append, String.toList_ofList, houter]

variable {first second : List String}

/-- With more namespaces local names are taken below ones that are no shorter. -/
theorem PartialNaming.localPart_of_subset (h : ∀ root ∈ first, root ∈ second) {t : TypePath}
    {x : String} (hx : localPart first t = some x) :
    ∃ outer y, localPart second t = some y ∧ x = outer ++ y := by
  obtain ⟨root, hroot, hlocal, _⟩ := localPart_eq_some_iff.mp hx
  have hwithin : t.isWithin root = true := TypePath.isWithin_iff_localPart.mpr ⟨x, hlocal⟩
  obtain ⟨y, hy⟩ := localPart_exists_iff.mpr ⟨root, h root hroot, hwithin⟩
  obtain ⟨longest, _, hbelow, hmax⟩ := localPart_eq_some_iff.mp hy
  obtain ⟨outer, houter⟩ :=
    TypePath.localPart_extends hlocal hbelow (hmax root (h root hroot) hwithin)
  exact ⟨outer, y, hy, houter⟩

namespace Policy

variable {r : Registry} {c c' : Policy}

theorem route_of_preset_of_declared (hc : preset first r = .ok c) {p : Payload} {route : String}
    (h : (r.routeOf p.event).value = some route) : (c.route p).run.value = .ok route := by
  rw [route_of_preset hc, h]
  rfl

theorem accepts_of_preset_iff (hc : preset first r = .ok c) (e : Event) :
    (c.accepts e).value = true ↔
      (∃ root ∈ first, e.type.isWithin root = true) ∧ (r.covers e).value = true := by
  rw [accepts_of_preset hc, Bool.and_eq_true, List.any_eq_true, ← Registry.value_coveredBy]
  rfl

/-- More namespaces let more events through. They do not bear on declared routes, and can only take
more from the front of local names. What only the longer list lets through stands in one of the
namespaces that were added. -/
theorem preset_widens (hc : preset first r = .ok c) (hc' : preset second r = .ok c')
    (h : ∀ root ∈ first, root ∈ second) (p : Payload) :
    ((c.accepts p.event).value = true → (c'.accepts p.event).value = true) ∧
    (∀ route, (r.routeOf p.event).value = some route →
      (c.route p).run.value = .ok route ∧ (c'.route p).run.value = .ok route) ∧
    ((∃ root ∈ first, p.event.type.isWithin root = true) → ∃ outer y,
      (PartialNaming.byLocalPart first p.event).value = some (outer ++ y) ∧
      (PartialNaming.byLocalPart second p.event).value = some y) ∧
    ((c'.accepts p.event).value = true → (c.accepts p.event).value = false →
      ∃ root ∈ second, root ∉ first ∧ p.event.type.isWithin root = true) := by
  refine ⟨fun ha => ?_, fun route hroute => ?_, fun hwithin => ?_, fun ha' ha => ?_⟩
  · obtain ⟨⟨root, hroot, hwithin⟩, hcovers⟩ := (accepts_of_preset_iff hc p.event).mp ha
    exact (accepts_of_preset_iff hc' p.event).mpr ⟨⟨root, h root hroot, hwithin⟩, hcovers⟩
  · exact ⟨route_of_preset_of_declared hc hroute, route_of_preset_of_declared hc' hroute⟩
  · obtain ⟨x, hx⟩ := PartialNaming.localPart_exists_iff.mpr hwithin
    obtain ⟨outer, y, hy, rfl⟩ := PartialNaming.localPart_of_subset h hx
    exact ⟨outer, y, hx, hy⟩
  · obtain ⟨⟨root, hroot, hwithin⟩, hcovers⟩ := (accepts_of_preset_iff hc' p.event).mp ha'
    refine ⟨root, hroot, fun hfirst => ?_, hwithin⟩
    rw [(accepts_of_preset_iff hc p.event).mpr ⟨⟨root, hfirst, hwithin⟩, hcovers⟩] at ha
    exact Bool.noConfusion ha

/-- An event whose type stands in the namespaces `a` and `a:` alike. -/
def oddlySeparated : Event :=
  ⟨.bool true, ⟨"a:::b::C"⟩, "bool", [.outbound "letters"]⟩

/-- An event whose type stands in the namespace `b` alone. -/
def besideOdd : Event :=
  ⟨.bool true, ⟨"b::D"⟩, "bool", [.outbound ""]⟩

/-- The added namespace `a:` takes one more colon from the name, and the added `b` lets an event
through that `a` does not. -/
theorem preset_widens_oddlySeparated : ∃ c c' : Policy,
    preset ["a"] .standard = .ok c ∧ preset ["b", "a:", "a"] .standard = .ok c' ∧
    (c'.accepts oddlySeparated).value = true ∧
    (c'.route (.raised oddlySeparated)).run.value = .ok "letters" ∧
    (∃ outer, ":b::C" = outer ++ "b::C") ∧
    (∃ root ∈ ["b", "a:", "a"], root ∉ ["a"] ∧ besideOdd.type.isWithin root = true) := by
  obtain ⟨c, hc⟩ : ∃ c, preset ["a"] .standard = .ok c := ⟨_, rfl⟩
  obtain ⟨c', hc'⟩ : ∃ c', preset ["b", "a:", "a"] .standard = .ok c' := ⟨_, rfl⟩
  obtain ⟨hwiden, hroute, hlocal, _⟩ := preset_widens hc hc' (by simp) (.raised oddlySeparated)
  obtain ⟨_, _, _, hadded⟩ := preset_widens hc hc' (by simp) (.raised besideOdd)
  have hbefore : (PartialNaming.byLocalPart ["a"] oddlySeparated).value = some ":b::C" := by
    decide +kernel
  have hafter : (PartialNaming.byLocalPart ["b", "a:", "a"] oddlySeparated).value = some "b::C" := by
    decide +kernel
  refine ⟨c, c', hc, hc', hwiden ?_, (hroute "letters" (by decide +kernel)).2, ?_, hadded ?_ ?_⟩
  · rw [accepts_of_preset hc]
    decide +kernel
  · obtain ⟨outer, y, houter, hy⟩ := hlocal ⟨"a", by simp, by decide +kernel⟩
    cases Option.some.inj (hafter.symm.trans hy)
    exact ⟨outer, Option.some.inj (hbefore.symm.trans houter)⟩
  · rw [accepts_of_preset hc']
    decide +kernel
  · rw [accepts_of_preset hc]
    decide +kernel

end Policy

end Outbound
