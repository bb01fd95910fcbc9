import Mathlib.Logic.Relation
import Outbound.Event.Basic

namespace Outbound

/-- Of the declarations of one type that the event carries, this is the first. -/
def Event.DeclaresFirst (e : Event) (k : DeclarationKind) (d : Declaration) : Prop :=
  d.kind = k ∧ ∃ before after, e.declarations = before ++ d :: after ∧
    ∀ other ∈ before, other.kind ≠ k

/-- A declaration that is not of the given type is put in, taken out, or goes to another place. -/
inductive ChangesOther (k : DeclarationKind) : List Declaration → List Declaration → Prop where
  | insert {d : Declaration} {before after : List Declaration} (h : d.kind ≠ k) :
      ChangesOther k (before ++ after) (before ++ d :: after)
  | remove {d : Declaration} {before after : List Declaration} (h : d.kind ≠ k) :
      ChangesOther k (before ++ d :: after) (before ++ after)
  | move {d : Declaration} {before after before' after' : List Declaration} (h : d.kind ≠ k)
      (hrest : before ++ after = before' ++ after') :
      ChangesOther k (before ++ d :: after) (before' ++ d :: after')

/-- Any number of such changes. -/
abbrev EditsOthers (k : DeclarationKind) : List Declaration → List Declaration → Prop :=
  Relation.ReflTransGen (ChangesOther k)

namespace Event

variable {e : Event} {k : DeclarationKind} {d : Declaration}

theorem declaration?_eq_some_iff : e.declaration? k = some d ↔ e.DeclaresFirst k d := by
  unfold declaration? DeclaresFirst
  rw [List.find?_eq_some_iff_append]
  simp only [decide_eq_true_eq, Bool.not_eq_true', decide_eq_false_iff_not, ne_eq]

theorem declaration?_eq_none_iff :
    e.declaration? k = none ↔ ¬ ∃ d ∈ e.declarations, d.kind = k := by
  unfold declaration?
  rw [List.find?_eq_none]
  simp

theorem declares_iff : e.declares k = true ↔ ∃ d ∈ e.declarations, d.kind = k := by
  unfold declares
  rw [Option.isSome_iff_ne_none, ne_eq, declaration?_eq_none_iff, Classical.not_not]

end Event

section

variable {k : DeclarationKind} {ds ds' : List Declaration}

theorem filter_kind_insert {d : Declaration} (h : d.kind ≠ k) (before after : List Declaration) :
    (before ++ d :: after).filter (·.kind = k) = (before ++ after).filter (·.kind = k) := by
  rw [List.filter_append, List.filter_cons_of_neg (by simpa using h), ← List.filter_append]

theorem ChangesOther.filter_eq (h : ChangesOther k ds ds') :
    ds.filter (·.kind = k) = ds'.filter (·.kind = k) := by
  cases h with
  | insert h => exact (filter_kind_insert h _ _).symm
  | remove h => exact filter_kind_insert h _ _
  | move h hrest => rw [filter_kind_insert h, filter_kind_insert h, hrest]

theorem EditsOthers.filter_eq (h : EditsOthers k ds ds') :
    ds.filter (·.kind = k) = ds'.filter (·.kind = k) := by
  induction h with
  | refl => rfl
  | tail _ hchange ih => exact ih.trans hchange.filter_eq

/-- The first declaration of a type is the same before and after changes to the others. -/
theorem Event.declaration?_of_editsOthers {e e' : Event}
    (h : EditsOthers k e.declarations e'.declarations) : e.declaration? k = e'.declaration? k := by
  unfold declaration?
  rw [← List.head?_filter, h.filter_eq, List.head?_filter]

end

end Outbound
