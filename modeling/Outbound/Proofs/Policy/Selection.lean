import Outbound.Proofs.Policy.Preset

namespace Outbound

namespace Policy

/-- The ways to begin a policy. -/
inductive Selection where
  | ofFilter (accepts : Event → Traced Bool)
  | within (root : String)
  | beside (t : TypePath)
  | withinAny (roots : List String) (filter : Event → Traced Bool)
  | declaring (k : DeclarationKind)
  | ofKind (k : Kind)
  | ofType (filter : TypePath → Traced Bool)

def select : Selection → Except EvalError Policy
  | .ofFilter accepts => .ok (ofFilter accepts)
  | .within root => within root
  | .beside t => beside t
  | .withinAny roots filter => withinAny roots filter
  | .declaring k => .ok (declaring k)
  | .ofKind k => .ok (ofKind k)
  | .ofType filter => .ok (ofType filter)

theorem eq_of_within {root : String} {c : Policy} (h : within root = .ok c) :
    c = ofFilter fun e => pure (e.type.isWithin root) := by
  rw [within_eq] at h
  split at h
  next => simp at h
  next => exact (Except.ok.inj h).symm

theorem eq_of_withinAny {roots : List String} {filter : Event → Traced Bool} {c : Policy}
    (h : withinAny roots filter = .ok c) :
    c = ofFilter fun e => if roots.any e.type.isWithin then filter e else pure false := by
  rw [withinAny_eq] at h
  split at h
  next => simp at h
  next =>
    split at h
    next => simp at h
    next => exact (Except.ok.inj h).symm

/-- Whatever selects the events, they stay as they are and go by the default route at first. -/
theorem eq_ofFilter_of_select {s : Selection} {c : Policy} (h : select s = .ok c) :
    c = ofFilter c.accepts := by
  cases s with
  | within root => rw [eq_of_within h]; rfl
  | beside t => rw [eq_of_within h]; rfl
  | withinAny roots filter => rw [eq_of_withinAny h]; rfl
  | ofFilter | declaring | ofKind | ofType =>
    cases Except.ok.inj h
    rfl

end Policy

end Outbound
