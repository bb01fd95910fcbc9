import Mathlib.Data.List.Basic
import Outbound.Proofs.Json.RoundTrip

namespace Outbound

namespace Parser

variable {α β κ ν : Type}

/-- Reads on with what the first parser gives. -/
def andThen (p : Parser α) (q : α → Parser β) : Parser β := fun s =>
  (p s).bind fun x => q x.1 x.2

/-- Takes nothing from the text. -/
def give (a : α) : Parser α := fun s =>
  some (a, s)

/-- Skips spaces and reads on by the next character. -/
def dispatch (f : Char → Parser α) : Parser α := fun s =>
  match skipSpaces s with
  | [] => none
  | c :: rest => f c rest

/-- What was read, with a carriage return at the end of what is left. -/
def leaveReturn (x : α × List Char) : α × List Char :=
  (x.1, x.2 ++ ['\r'])

/-- The parser leaves an end of the text that it is given, and it comes to the same result where a
carriage return stands at the end of the text. -/
structure Local (p : Parser α) : Prop where
  suffix : ∀ {s a rest}, p s = some (a, rest) → rest <:+ s
  append_return : ∀ s, p (s ++ ['\r']) = (p s).map leaveReturn

theorem local_none : Local (fun _ => none : Parser α) :=
  ⟨fun h => by simp at h, fun _ => rfl⟩

theorem local_give (a : α) : Local (give a) := by
  refine ⟨fun h => ?_, fun _ => rfl⟩
  obtain ⟨_, rfl⟩ := Prod.mk.inj (Option.some.inj h)
  exact List.suffix_rfl

theorem Local.andThen {p : Parser α} {q : α → Parser β} (hp : Local p) (hq : ∀ a, Local (q a)) :
    Local (p.andThen q) := by
  constructor
  · intro s b rest h
    obtain ⟨⟨a, middle⟩, ha, hb⟩ := Option.bind_eq_some_iff.mp h
    exact ((hq a).suffix hb).trans (hp.suffix ha)
  · intro s
    unfold Parser.andThen
    rw [hp.append_return]
    cases p s with
    | none => rfl
    | some x => exact (hq x.1).append_return x.2

/-- What the parser gives is made out after that, and may be refused. -/
theorem Local.decode {p : Parser α} (hp : Local p) (f : α → Option β) :
    Local (p.andThen fun a s => (f a).bind fun b => some (b, s)) := by
  apply hp.andThen
  intro a
  cases f a with
  | none => exact local_none
  | some b => exact local_give b

theorem Local.map {p : Parser α} (hp : Local p) (f : α → β) :
    Local fun s => (p s).map fun x => (f x.1, x.2) := by
  have heq : (fun s => (p s).map fun x => (f x.1, x.2)) = p.andThen fun a => give (f a) :=
    funext fun s => Option.map_eq_bind
  rw [heq]
  exact hp.andThen fun a => local_give (f a)

theorem local_ite (c : Prop) [Decidable c] {p q : Parser α} (hp : Local p) (hq : Local q) :
    Local fun s => if c then p s else q s := by
  split
  next => exact hp
  next => exact hq

theorem skipSpaces_suffix (s : List Char) : skipSpaces s <:+ s :=
  List.dropWhile_suffix _

/-- A carriage return is a space, so that it goes with the spaces before it. -/
theorem skipSpaces_append_return (s : List Char) :
    skipSpaces (s ++ ['\r']) = if skipSpaces s = [] then [] else skipSpaces s ++ ['\r'] := by
  unfold skipSpaces
  rw [List.dropWhile_append]
  simp [isSpace]

/-- The same of a parser for a text that a character has been taken from. -/
structure LocalAfter (c : Char) (p : Parser α) : Prop where
  suffix : ∀ {s a rest}, p s = some (a, rest) → rest <:+ c :: s
  append_return : ∀ s, p (s ++ ['\r']) = (p s).map leaveReturn

theorem Local.localAfter {p : Parser α} (hp : Local p) (c : Char) : LocalAfter c p :=
  ⟨fun h => (hp.suffix h).trans (List.suffix_cons c _), hp.append_return⟩

/-- The character that was taken may be put back. -/
theorem Local.putBack {p : Parser α} (hp : Local p) (c : Char) : LocalAfter c fun s => p (c :: s) :=
  ⟨fun h => hp.suffix h, fun s => hp.append_return (c :: s)⟩

theorem localAfter_ite (b : Prop) [Decidable b] {c : Char} {p q : Parser α}
    (hp : LocalAfter c p) (hq : LocalAfter c q) :
    LocalAfter c fun s => if b then p s else q s := by
  split
  next => exact hp
  next => exact hq

theorem local_dispatch {f : Char → Parser α} (hf : ∀ c, LocalAfter c (f c)) :
    Local (dispatch f) := by
  unfold dispatch
  constructor
  · intro s a rest h
    split at h
    next => simp at h
    next c after heq => exact ((hf c).suffix h).trans (heq ▸ skipSpaces_suffix s)
  · intro s
    rw [skipSpaces_append_return]
    cases skipSpaces s with
    | nil => rfl
    | cons c rest => exact (hf c).append_return rest

/-- A parser that goes on after a certain character, with spaces before it. -/
theorem Local.after {p : Parser α} (hp : Local p) (k : Char) :
    Local (dispatch fun c rest => if c = k then p rest else none) :=
  local_dispatch fun c => (local_ite (c = k) hp local_none).localAfter c

end Parser

namespace Literal

open Outbound.Parser (leaveReturn Local)

theorem local_body : Local body := by
  constructor
  · intro s b rest h
    fun_induction body s generalizing b rest with
    | case1 => simp at h
    | case2 s =>
      obtain ⟨_, rfl⟩ := Prod.mk.inj (Option.some.inj h)
      exact List.suffix_cons _ _
    | case3 => simp at h
    | case4 c s _ ih =>
      obtain ⟨⟨_, after⟩, hs, h⟩ := Option.map_eq_some_iff.mp h
      obtain ⟨_, rfl⟩ := Prod.mk.inj h
      exact (ih hs).trans ((List.suffix_cons c s).trans (List.suffix_cons _ _))
    | case5 => simp at h
    | case6 c s _ _ _ ih =>
      obtain ⟨⟨_, after⟩, hs, h⟩ := Option.map_eq_some_iff.mp h
      obtain ⟨_, rfl⟩ := Prod.mk.inj h
      exact (ih hs).trans (List.suffix_cons c s)
  · intro s
    fun_induction body s with
    | case1 => rfl
    | case2 s => rfl
    | case3 c s hc => simp [body, hc]
    | case4 c s hc ih =>
      rw [List.cons_append, List.cons_append, body_escape (Nat.not_lt.mp hc), ih]
      cases body s <;> rfl
    | case5 c s _ _ hc =>
      rw [List.cons_append, body_control hc]
      rfl
    | case6 c s hquote hslash hc ih =>
      by_cases hc' : c = '\\'
      · subst hc'
        cases s with
        | nil => rfl
        | cons d s => exact absurd rfl (hslash d s rfl)
      · rw [List.cons_append, body_plain (Nat.not_lt.mp hc) hquote hc', ih]
        cases body s <;> rfl

end Literal

namespace Numeral

open Outbound.Parser (leaveReturn Local)

theorem local_spanDigits : Local fun s => some (spanDigits s) := by
  constructor
  · intro s digits rest h
    obtain ⟨_, rfl⟩ := Prod.mk.inj (Option.some.inj h)
    exact List.dropWhile_suffix _
  · intro s
    have hreturn : Char.isDigit '\r' = false := rfl
    simp only [spanDigits, List.takeWhile_append, List.dropWhile_append, Option.map_some,
      leaveReturn]
    by_cases hall : s.dropWhile Char.isDigit = []
    · have htake : s.takeWhile Char.isDigit = s := by
        simpa [hall] using List.takeWhile_append_dropWhile (p := Char.isDigit) (l := s)
      simp [hall, htake, hreturn]
    · have htake : (s.takeWhile Char.isDigit).length ≠ s.length := by
        intro hlength
        have hsplit := List.takeWhile_append_dropWhile (p := Char.isDigit) (l := s)
        have htotal := congrArg List.length hsplit
        rw [List.length_append, hlength] at htotal
        exact hall (List.length_eq_zero_iff.mp (by omega))
      simp [hall, htake]

/-- Reads on after a first character that is marked, and else takes nothing. -/
def optionally {α : Type} (a : α) (marked : Char → Bool) (p : Char → Parser α) : Parser α
  | [] => some (a, [])
  | c :: s => if marked c then p c s else some (a, c :: s)

theorem local_optionally {α : Type} (a : α) {marked : Char → Bool} {p : Char → Parser α}
    (hreturn : marked '\r' = false) (hp : ∀ c, Local (p c)) : Local (optionally a marked p) := by
  have hgive : ∀ (s rest : List Char) b, some (a, s) = some (b, rest) → rest <:+ s := by
    intro s rest b h
    obtain ⟨_, rfl⟩ := Prod.mk.inj (Option.some.inj h)
    exact List.suffix_rfl
  constructor
  · intro s b rest h
    cases s with
    | nil => exact hgive [] rest b h
    | cons c s =>
      rw [optionally] at h
      split at h
      next => exact ((hp c).suffix h).trans (List.suffix_cons c s)
      next => exact hgive (c :: s) rest b h
  · intro s
    cases s with
    | nil => simp [optionally, hreturn, leaveReturn]
    | cons c s =>
      rw [List.cons_append, optionally, optionally]
      split
      next => exact (hp c).append_return s
      next => rfl

/-- What is made of digits, at least one of which there must be. -/
def someDigits {α : Type} (g : List Char → α) : Parser α :=
  Parser.andThen (fun s => some (spanDigits s)) fun digits s =>
    if digits.isEmpty then none else some (g digits, s)

theorem local_someDigits {α : Type} (g : List Char → α) : Local (someDigits g) :=
  local_spanDigits.andThen fun digits =>
    Parser.local_ite (digits.isEmpty = true) Parser.local_none (Parser.local_give (g digits))

theorem local_minus :
    Local fun s => some (match s with
      | '-' :: s => (true, s)
      | s => (false, s)) := by
  have heq : (fun s => some (match s with
      | '-' :: s => (true, s)
      | s => (false, s))) = optionally false (· == '-') fun _ => Parser.give true := by
    funext s
    split
    next => rfl
    next => cases s <;> simp_all [optionally]
  rw [heq]
  exact local_optionally false rfl fun _ => Parser.local_give true

theorem local_splitSign : Local fun s => some (splitSign s) := by
  have heq : (fun s => some (splitSign s)) =
      optionally false (fun c => c == '-' || c == '+') fun c => Parser.give (c == '-') := by
    funext s
    unfold splitSign
    split
    next => rfl
    next => rfl
    next => cases s <;> simp_all [optionally]
  rw [heq]
  exact local_optionally false rfl fun c => Parser.local_give (c == '-')

theorem local_readFraction : Local readFraction := by
  have heq : readFraction = optionally none (· == '.') fun _ => someDigits some := by
    funext s
    unfold readFraction
    split
    next => rfl
    next => cases s <;> simp_all [optionally]
  rw [heq]
  exact local_optionally none rfl fun _ => local_someDigits some

theorem local_readExponent : Local readExponent := by
  have heq : readExponent = optionally none (fun c => decide (c = 'e' ∨ c = 'E')) fun _ =>
      Parser.andThen (fun s => some (splitSign s)) fun negative =>
        someDigits fun digits => some (negative, digits) := by
    funext s
    cases s with
    | nil => rfl
    | cons c s =>
      unfold readExponent optionally
      simp only [decide_eq_true_eq]
      split <;> rfl
  rw [heq]
  exact local_optionally none rfl fun _ => local_splitSign.andThen fun negative =>
    local_someDigits fun digits => some (negative, digits)

theorem local_read : Local read := by
  have hparts := fun negative whole => local_readFraction.andThen fun fraction =>
    local_readExponent.andThen fun exponent =>
      Parser.local_give (⟨negative, whole, fraction, exponent⟩ : Numeral)
  exact local_minus.andThen fun negative => local_spanDigits.andThen fun whole =>
    Parser.local_ite (isWhole whole = true) (hparts negative whole) Parser.local_none

end Numeral

end Outbound
