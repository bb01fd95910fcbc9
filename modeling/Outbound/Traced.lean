import Outbound.Destination
import Outbound.Event.Basic
import Outbound.Log.Record

namespace Outbound

/-- What can be observed while events are evaluated: a function of the caller that reports itself,
a record in the log, and a payload that is handed to the sink. -/
inductive Mark where
  | called (label : String)
  | logged (record : LogRecord)
  | delivered (destination : Destination) (payload : Payload)

/-- A result together with the marks that were left on the way to it, in order. -/
structure Traced (α : Type) where
  value : α
  marks : List Mark

namespace Traced

instance : Monad Traced where
  pure a := ⟨a, []⟩
  bind x f := ⟨(f x.value).value, x.marks ++ (f x.value).marks⟩

variable {α β : Type}

@[simp] theorem value_pure (a : α) : (pure a : Traced α).value = a := rfl

@[simp] theorem marks_pure (a : α) : (pure a : Traced α).marks = [] := rfl

@[simp] theorem value_bind (x : Traced α) (f : α → Traced β) :
    (x >>= f).value = (f x.value).value := rfl

@[simp] theorem marks_bind (x : Traced α) (f : α → Traced β) :
    (x >>= f).marks = x.marks ++ (f x.value).marks := rfl

theorem bind_of_value {x : Traced α} {a : α} (h : x.value = a) (f : α → Traced β) :
    x >>= f = ⟨(f a).value, x.marks ++ (f a).marks⟩ := by
  subst h
  rfl

/-- What follows a result depends on its value alone. -/
theorem bind_congr {x : Traced α} {f g : α → Traced β} (h : f x.value = g x.value) :
    x >>= f = x >>= g := by
  rw [bind_of_value rfl f, bind_of_value rfl g, h]

instance : LawfulMonad Traced :=
  LawfulMonad.mk' Traced (fun x => by cases x; simp [Functor.map]) (fun _ _ => rfl)
    (fun x f g => by simp [Bind.bind])

/-- Leaves one mark. -/
def mark (m : Mark) : Traced Unit :=
  ⟨(), [m]⟩

end Traced

/-- An evaluation that may fail. The marks of a failed one are kept. -/
abbrev Eval (α : Type) := ExceptT EvalError Traced α

end Outbound
