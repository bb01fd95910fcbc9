import Outbound.Proofs.Event.Segments
import Outbound.Proofs.Policy.Preset
import Outbound.Settings.Basic

namespace Outbound

namespace Path

theorem not_mem_enclosing (s : List Char) : '<' ∉ enclosing s := by
  have hplain := not_mem_plain s
  unfold enclosing
  split
  next before after hsplit =>
    rw [eq_of_splitLast hsplit] at hplain
    exact fun h => hplain (List.mem_append_left _ h)
  next => simp

/-- The types right below a namespace lie in it. -/
theorem isWithin_child {root last : List Char} (hne : trim root ≠ []) (hroot : '<' ∉ root)
    (hlast : ':' ∉ last ∧ '<' ∉ last) :
    isWithin (trim root ++ ':' :: ':' :: last) root = true := by
  have htrim : '<' ∉ trim root := by
    obtain ⟨k, hk⟩ := exists_trim root
    rw [hk] at hroot
    exact fun h => hroot (List.mem_append_left _ h)
  have hpath : '<' ∉ trim root ++ ':' :: ':' :: last := by
    simp [htrim, hlast.2]
  have henclosing : enclosing (trim root ++ ':' :: ':' :: last) = trim root := by
    unfold enclosing
    have hplain := plain_append hpath (Or.inl rfl)
    rw [List.append_nil] at hplain
    rw [hplain, splitLast_append _ hlast.1]
  exact isWithin_iff.mpr ⟨hne, [], by rw [henclosing, List.append_nil], rfl⟩

end Path

/-- Types can stand in a namespace unless it is made of separators alone or has an angle bracket,
which no path goes beyond. -/
theorem TypePath.exists_isWithin_iff {root : String} :
    (∃ t : TypePath, t.isWithin root = true) ↔
      Path.trim root.toList ≠ [] ∧ '<' ∉ root.toList := by
  constructor
  · intro h
    obtain ⟨t, ht⟩ := h
    obtain ⟨hne, rest, henclosing, _⟩ := Path.isWithin_iff.mp ht
    refine ⟨hne, fun hmem => ?_⟩
    have htrim := Path.mem_trim_of_mem (by decide) hmem
    apply Path.not_mem_enclosing t.name.toList
    rw [henclosing]
    exact List.mem_append_left rest htrim
  · intro h
    refine ⟨⟨String.ofList (Path.trim root.toList ++ "::X".toList)⟩, ?_⟩
    unfold isWithin
    rw [String.toList_ofList]
    exact Path.isWithin_child h.1 h.2 (by decide)

namespace Policy

/-- The policy decides by the filter on all events in the namespace, and types can stand in it just
where it has no angle bracket. Whether types stand in a namespace of separators alone is left
open. -/
def DecidesIn (c : Policy) (filter : Event → Traced Bool) (root : String) : Prop :=
  (∀ e : Event, e.type.isWithin root = true → c.accepts e = filter e) ∧
  (Path.trim root.toList ≠ [] →
    ((∃ t : TypePath, t.isWithin root = true) ↔ '<' ∉ root.toList))

/-- What selecting by namespaces comes to: a policy that decides in each of them, or a refusal where
there is none or one of them is blank. A namespace of separators alone may be accepted or refused,
and the others with it. -/
def SelectsBy (filter : Event → Traced Bool) (roots : List String) :
    Except EvalError Policy → Prop
  | .ok c => roots ≠ [] ∧ ∀ root ∈ roots, isBlank root = false ∧ c.DecidesIn filter root
  | .error e =>
    (roots = [] ∨ ∃ root ∈ roots, isBlank root = true ∨ Path.trim root.toList = []) ∧
      ∃ reason, e = .invalidArgument reason

section

variable {root : String} {roots : List String} {filter : Event → Traced Bool}

theorem exists_isWithin_iff_of_trim (h : Path.trim root.toList ≠ []) :
    (∃ t : TypePath, t.isWithin root = true) ↔ '<' ∉ root.toList := by
  rw [TypePath.exists_isWithin_iff]
  exact and_iff_right h

theorem decidesIn_of_accepts {c : Policy}
    (h : ∀ e, c.accepts e = if roots.any e.type.isWithin then filter e else pure false)
    (hroot : root ∈ roots) : c.DecidesIn filter root := by
  refine ⟨fun e he => ?_, exists_isWithin_iff_of_trim⟩
  have hany : roots.any e.type.isWithin = true := List.any_eq_true.mpr ⟨root, hroot, he⟩
  rw [h e, if_pos hany]

theorem selectsBy_ok {c : Policy} (hempty : roots.isEmpty = false)
    (hblank : roots.any isBlank = false)
    (h : ∀ e, c.accepts e = if roots.any e.type.isWithin then filter e else pure false) :
    SelectsBy filter roots (.ok c) := by
  have hroots : ∀ root ∈ roots, isBlank root = false := by simpa using hblank
  refine ⟨fun hnil => ?_, fun root hroot => ⟨hroots root hroot, decidesIn_of_accepts h hroot⟩⟩
  rw [hnil] at hempty
  exact Bool.noConfusion hempty

theorem selectsBy_error (hblank : roots.any isBlank = true) (reason : InvalidArgument) :
    SelectsBy filter roots (.error (.invalidArgument reason)) := by
  obtain ⟨root, hroot, hblank⟩ := List.any_eq_true.mp hblank
  exact ⟨.inr ⟨root, hroot, .inl hblank⟩, reason, rfl⟩

theorem selectsBy_within (root : String) :
    SelectsBy (fun _ => pure true) [root] (within root) := by
  rw [within_eq]
  cases hblank : isBlank root with
  | true => exact selectsBy_error (by simp [hblank]) _
  | false =>
    apply selectsBy_ok rfl (by simp [hblank])
    intro e
    change pure (e.type.isWithin root) = _
    rw [List.any_cons, List.any_nil, Bool.or_false]
    cases e.type.isWithin root <;> rfl

theorem selectsBy_withinAny (roots : List String) (filter : Event → Traced Bool) :
    SelectsBy filter roots (withinAny roots filter) := by
  rw [withinAny_eq]
  cases hblank : roots.any isBlank with
  | true => exact selectsBy_error hblank _
  | false =>
    cases hempty : roots.isEmpty with
    | true => exact ⟨.inl (List.isEmpty_iff.mp hempty), _, rfl⟩
    | false => exact selectsBy_ok hempty hblank fun _ => rfl

theorem selectsBy_preset (namespaces : List String) (r : Registry) :
    SelectsBy r.covers namespaces (preset namespaces r) := by
  rw [preset_eq]
  cases hempty : namespaces.isEmpty with
  | true => exact ⟨.inl (List.isEmpty_iff.mp hempty), _, rfl⟩
  | false =>
    cases hblank : namespaces.any isBlank with
    | true => exact selectsBy_error hblank _
    | false => exact selectsBy_ok hempty hblank fun _ => rfl

end

/-- Lists of namespaces are refused where there is none or one is blank, and an accepted namespace
selects the events in it, which there can be unless it has an angle bracket, however it came to be
asked for. Namespaces of separators alone are left out of this. -/
theorem selectsBy_namespaces :
    (∀ root, SelectsBy (fun _ => pure true) [root] (within root)) ∧
    (∀ roots filter, SelectsBy filter roots (withinAny roots filter)) ∧
    (∀ namespaces r, SelectsBy r.covers namespaces (preset namespaces r)) ∧
    (∀ s : Settings, SelectsBy s.registry.covers s.namespaces s.policy) :=
  ⟨selectsBy_within, selectsBy_withinAny, selectsBy_preset,
    fun s => selectsBy_preset s.namespaces s.registry⟩

/-- Events are selected by a namespace with a separator at its end. -/
theorem selectsBy_namespaces_shop :
    ∃ single listed, within "acme::shop::" = .ok single ∧
      (Settings.mk ["acme::shop::"] .empty).policy = .ok listed ∧
      single.DecidesIn (fun _ => pure true) "acme::shop::" ∧
      listed.DecidesIn (Settings.mk ["acme::shop::"] .empty).registry.covers "acme::shop::" ∧
      ∃ t : TypePath, t.isWithin "acme::shop::" = true := by
  obtain ⟨hwithin, _, _, hsettings⟩ := selectsBy_namespaces
  have hsingle := ((hwithin "acme::shop::").2 "acme::shop::" List.mem_cons_self).2
  have hlisted :=
    ((hsettings ⟨["acme::shop::"], .empty⟩).2 "acme::shop::" List.mem_cons_self).2
  exact ⟨_, _, rfl, rfl, hsingle, hlisted, (hsingle.2 (by decide)).mpr (by decide)⟩

/-- A namespace with an angle bracket is not refused, although nothing can stand in it. -/
theorem bracketed_namespace_selects_nothing :
    (∃ c, within "acme::Envelope<T>" = .ok c) ∧
    (∃ c, (Settings.mk ["acme::Envelope<T>"] .empty).policy = .ok c) ∧
    ¬ ∃ t : TypePath, t.isWithin "acme::Envelope<T>" = true := by
  refine ⟨⟨_, rfl⟩, ⟨_, rfl⟩, ?_⟩
  rw [TypePath.exists_isWithin_iff]
  exact fun h => h.2 (by decide)

end Policy

end Outbound
