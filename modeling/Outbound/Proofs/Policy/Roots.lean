import Outbound.Proofs.Policy.Preset

namespace Outbound

/-- Both lists hold the same namespaces, up to order, repetition and separators at the ends. -/
def SameRoots (first second : List String) : Prop :=
  ∀ root, (∃ n ∈ first, Path.trim n.toList = root) ↔ ∃ n ∈ second, Path.trim n.toList = root

variable {first second : List String}

theorem sameRoots_iff :
    SameRoots first second ↔
      (∀ n ∈ first, ∃ m ∈ second, Path.trim m.toList = Path.trim n.toList) ∧
        ∀ m ∈ second, ∃ n ∈ first, Path.trim n.toList = Path.trim m.toList := by
  constructor
  · intro h
    exact ⟨fun n hn => (h _).mp ⟨n, hn, rfl⟩, fun m hm => (h _).mpr ⟨m, hm, rfl⟩⟩
  · intro hh root
    obtain ⟨hfirst, hsecond⟩ := hh
    constructor
    · rintro ⟨n, hn, rfl⟩
      exact hfirst n hn
    · rintro ⟨m, hm, rfl⟩
      exact hsecond m hm

instance : Decidable (SameRoots first second) :=
  decidable_of_iff _ sameRoots_iff.symm

namespace SameRoots

theorem symm (h : SameRoots first second) : SameRoots second first :=
  fun root => (h root).symm

theorem exists_isWithin (h : SameRoots first second) {t : TypePath}
    (hfirst : ∃ root ∈ first, t.isWithin root = true) :
    ∃ root ∈ second, t.isWithin root = true := by
  obtain ⟨n, hn, hwithin⟩ := hfirst
  obtain ⟨m, hm, htrim⟩ := (sameRoots_iff.mp h).1 n hn
  exact ⟨m, hm, (TypePath.isWithin_of_trim_eq htrim t).trans hwithin⟩

theorem any_isWithin (h : SameRoots first second) (t : TypePath) :
    first.any t.isWithin = second.any t.isWithin := by
  rw [Bool.eq_iff_iff, List.any_eq_true, List.any_eq_true]
  exact ⟨h.exists_isWithin, h.symm.exists_isWithin⟩

theorem localPart_eq_some (h : SameRoots first second) {t : TypePath} {x : String}
    (hx : PartialNaming.localPart first t = some x) :
    PartialNaming.localPart second t = some x := by
  obtain ⟨hforth, hback⟩ := sameRoots_iff.mp h
  obtain ⟨n, hn, hlocal, hmax⟩ := PartialNaming.localPart_eq_some_iff.mp hx
  obtain ⟨m, hm, htrim⟩ := hforth n hn
  have hlocal' : t.localPart m = some x := (TypePath.localPart_of_trim_eq htrim t).trans hlocal
  refine PartialNaming.localPart_eq_some_iff.mpr ⟨m, hm, hlocal', ?_⟩
  -- what is within the second list has a twin within the first, where `n` is a longest one
  intro other hother hwithin
  obtain ⟨known, hknown, hsame⟩ := hback other hother
  have hle := hmax known hknown ((TypePath.isWithin_of_trim_eq hsame t).trans hwithin)
  calc trimmedLength other = trimmedLength known := (trimmedLength_of_trim_eq hsame).symm
    _ ≤ trimmedLength n := hle
    _ = trimmedLength m := (trimmedLength_of_trim_eq htrim).symm

theorem localPart_eq (h : SameRoots first second) :
    PartialNaming.localPart first = PartialNaming.localPart second := by
  funext t
  apply Option.ext
  intro x
  exact ⟨h.localPart_eq_some, h.symm.localPart_eq_some⟩

theorem eq_of_preset (h : SameRoots first second) {r : Registry} {c c' : Policy}
    (hc : Policy.preset first r = .ok c) (hc' : Policy.preset second r = .ok c') : c = c' := by
  have hfilter (e : Event) : first.any e.type.isWithin = second.any e.type.isWithin :=
    h.any_isWithin e.type
  have hnaming : Naming.declaredOrLocal first r = Naming.declaredOrLocal second r := by
    unfold Naming.declaredOrLocal PartialNaming.byLocalPart
    rw [h.localPart_eq]
  rw [Policy.eq_of_preset hc, Policy.eq_of_preset hc', hnaming]
  simp only [hfilter]

end SameRoots

namespace Policy

/-- The namespaces of the preset are a set of roots: it decides alike on every event under lists
that hold the same ones. Local names are taken below the longest root that holds the type, however
the roots are listed. -/
theorem preset_of_sameRoots {first second : List String} (h : SameRoots first second) :
    (∀ (r : Registry) (c c' : Policy), preset first r = .ok c → preset second r = .ok c' →
      ∀ p : Payload, c.accepts p.event = c'.accepts p.event ∧ c.transform p = c'.transform p ∧
        c.destination p = c'.destination p) ∧
    (∀ e, PartialNaming.byLocalPart first e = PartialNaming.byLocalPart second e) ∧
    (∀ (e : Event) (x : String), (PartialNaming.byLocalPart first e).value = some x ↔
      ∃ root ∈ first, e.type.localPart root = some x ∧
        ∀ other ∈ first, e.type.isWithin other = true →
          trimmedLength other ≤ trimmedLength root) := by
  refine ⟨?_, ?_, ?_⟩
  · intro r c c' hc hc' p
    cases h.eq_of_preset hc hc'
    exact ⟨rfl, rfl, rfl⟩
  · intro e
    unfold PartialNaming.byLocalPart
    rw [h.localPart_eq]
  · intro e x
    exact PartialNaming.localPart_eq_some_iff

/-- Written once with the outer namespace first, and once with the inner one first, both ending in
separators, and the outer one twice. -/
theorem preset_of_sameRoots_shop : ∃ c c' : Policy,
    preset ["acme::shop", "acme::shop::orders"] .standard = .ok c ∧
    preset ["acme::shop::orders::", "acme::shop::::", "acme::shop"] .standard = .ok c' ∧
    (c'.destination (.raised
      ⟨.bool true, ⟨"acme::shop::orders::Placed"⟩, "bool", [.outbound " "]⟩)).run.value =
      Destination.ofText "Placed" := by
  have hroots : SameRoots ["acme::shop", "acme::shop::orders"]
      ["acme::shop::orders::", "acme::shop::::", "acme::shop"] := by decide +kernel
  refine ⟨_, _, rfl, rfl, ?_⟩
  rw [← ((preset_of_sameRoots hroots).1 .standard _ _ rfl rfl _).2.2]
  decide +kernel

end Policy

end Outbound
