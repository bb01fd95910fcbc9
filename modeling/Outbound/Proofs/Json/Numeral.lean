import Outbound.Json.Parser.Numeral
import Outbound.Json.Printer

namespace Outbound

theorem spanDigits_append {digits rest : List Char} (hdigits : ∀ c ∈ digits, c.isDigit = true)
    (hrest : ∀ c ∈ rest.head?, c.isDigit = false) :
    spanDigits (digits ++ rest) = (digits, rest) := by
  have hnone : rest.takeWhile Char.isDigit = [] ∧ rest.dropWhile Char.isDigit = rest := by
    cases rest with
    | nil => exact ⟨rfl, rfl⟩
    | cons c rest =>
      have hc : c.isDigit = false := hrest c rfl
      simp [hc]
  unfold spanDigits
  rw [List.takeWhile_append_of_pos hdigits, List.dropWhile_append_of_pos hdigits, hnone.1, hnone.2,
    List.append_nil]

theorem isDigit_of_mem_toDigits {n : Nat} {c : Char} (hc : c ∈ Nat.toDigits 10 n) :
    c.isDigit = true :=
  Nat.isDigit_of_mem_toDigits (by decide) (by decide) hc

theorem digitsValue_toDigits (n : Nat) : digitsValue (Nat.toDigits 10 n) = n := by
  have hfold := Nat.ofDigitChars_ten_toDigits (n := n)
  rw [Nat.ofDigitChars_eq_foldl] at hfold
  simpa [digitsValue, digitValue, Nat.mul_comm] using hfold

theorem head_toDigits_ne_zero {n : Nat} (hn : 0 < n) : (Nat.toDigits 10 n).head? ≠ some '0' := by
  induction n using Nat.strongRecOn with
  | ind n ih =>
    rw [Nat.toDigits_eq_if (by decide)]
    by_cases hlt : n < 10
    · have hdigit : ∀ d < 10, 0 < d → Nat.digitChar d ≠ '0' := by decide
      simpa [hlt] using hdigit n hlt hn
    · have hhead := ih (n / 10) (by omega) (by omega)
      rw [if_neg hlt, List.head?_append, Option.or_of_isSome]
      · exact hhead
      · rw [List.isSome_head?]
        exact Nat.toDigits_ne_nil

/-- Decimal digits, at least one of them. -/
structure Digits where
  chars : List Char
  isDigit : ∀ c ∈ chars, c.isDigit = true
  ne_nil : chars ≠ []

/-- The mark of an exponent, its sign if it has one, and its digits. -/
structure WrittenExponent where
  mark : Char
  sign : Option Char
  digits : Digits
  isMark : mark = 'e' ∨ mark = 'E'
  isSign : ∀ c ∈ sign, c = '+' ∨ c = '-'

/-- A number as it is written. -/
structure WrittenNumber where
  negative : Bool
  whole : Digits
  fraction : Option Digits
  exponent : Option WrittenExponent
  leading : whole.chars.head? = some '0' → whole.chars = ['0']

namespace WrittenNumber

def fractionText (x : WrittenNumber) : List Char :=
  match x.fraction with
  | none => []
  | some digits => '.' :: digits.chars

def exponentText (x : WrittenNumber) : List Char :=
  match x.exponent with
  | none => []
  | some e => e.mark :: (e.sign.toList ++ e.digits.chars)

def text (x : WrittenNumber) : List Char :=
  (if x.negative then ['-'] else []) ++ (x.whole.chars ++ (x.fractionText ++ x.exponentText))

/-- The number, taken apart. -/
def numeral (x : WrittenNumber) : Numeral where
  negative := x.negative
  whole := x.whole.chars
  fraction := x.fraction.map Digits.chars
  exponent := x.exponent.map fun e => (e.sign = some '-', e.digits.chars)

end WrittenNumber

theorem Digits.exists_cons (d : Digits) : ∃ c rest, d.chars = c :: rest ∧ c.isDigit = true := by
  obtain ⟨c, rest, h⟩ := List.exists_cons_of_ne_nil d.ne_nil
  exact ⟨c, rest, h, d.isDigit c (h ▸ List.mem_cons_self)⟩

theorem Digits.span (d : Digits) {rest : List Char} (hrest : ∀ c ∈ rest.head?, c.isDigit = false) :
    spanDigits (d.chars ++ rest) = (d.chars, rest) :=
  spanDigits_append d.isDigit hrest

theorem Digits.isEmpty (d : Digits) : d.chars.isEmpty = false := by
  rw [← Bool.not_eq_true, List.isEmpty_iff]
  exact d.ne_nil

theorem ne_of_isDigit {c d : Char} (hc : c.isDigit = true) (hd : d.isDigit = false) : c ≠ d := by
  intro heq
  rw [heq, hd] at hc
  exact Bool.noConfusion hc

theorem isWhole_digits {d : Digits} (h : d.chars.head? = some '0' → d.chars = ['0']) :
    Numeral.isWhole d.chars = true := by
  unfold Numeral.isWhole
  split
  next heq => exact absurd heq d.ne_nil
  next => rfl
  next c rest hnot heq =>
    apply bne_iff_ne.mpr
    intro hzero
    subst hzero
    have hall := h (by rw [heq]; rfl)
    rw [heq] at hall
    exact hnot rfl (List.cons.inj hall).2

namespace Numeral

/-- A text that no number goes on with. -/
def Ends (rest : List Char) : Prop :=
  ∀ c ∈ rest.head?, c.isDigit = false ∧ c ≠ '.' ∧ c ≠ 'e' ∧ c ≠ 'E'

theorem ends_nil : Ends [] := by
  simp [Ends]

/-- The integers that are kept exactly: those of 64 bits, with or without a sign. -/
def Exact (n : Int) : Prop :=
  -0x8000000000000000 ≤ n ∧ n ≤ maxCoefficient

section

variable (x : WrittenNumber)

theorem readFraction_written {rest : List Char}
    (h : ∀ c ∈ rest.head?, c.isDigit = false ∧ c ≠ '.') :
    readFraction (x.fractionText ++ rest) = some (x.fraction.map Digits.chars, rest) := by
  unfold WrittenNumber.fractionText
  cases x.fraction with
  | none =>
    rw [List.nil_append]
    unfold readFraction
    split
    next s => exact absurd rfl (h '.' rfl).2
    next => rfl
  | some d => simp [readFraction, d.span fun c hc => (h c hc).1, d.isEmpty]

theorem splitSign_written {sign : Option Char} (hsign : ∀ c ∈ sign, c = '+' ∨ c = '-') (d : Digits)
    (rest : List Char) :
    splitSign (sign.toList ++ (d.chars ++ rest)) = (decide (sign = some '-'), d.chars ++ rest) := by
  cases sign with
  | none =>
    obtain ⟨c, tail, hd, hc⟩ := d.exists_cons
    rw [hd]
    unfold splitSign
    split
    next heq => exact absurd (List.cons.inj heq).1 (ne_of_isDigit hc (by decide))
    next heq => exact absurd (List.cons.inj heq).1 (ne_of_isDigit hc (by decide))
    next => rfl
  | some c => rcases hsign c rfl with rfl | rfl <;> rfl

theorem readExponent_written {rest : List Char} (h : Ends rest) :
    readExponent (x.exponentText ++ rest) =
      some (x.exponent.map fun e => (decide (e.sign = some '-'), e.digits.chars), rest) := by
  unfold WrittenNumber.exponentText
  cases x.exponent with
  | none =>
    cases rest with
    | nil => rfl
    | cons c rest =>
      obtain ⟨_, _, he, hE⟩ := h c rfl
      simp [readExponent, he, hE]
  | some e =>
    have hspan := e.digits.span fun c hc => (h c hc).1
    have hsign := splitSign_written e.isSign e.digits rest
    simp [readExponent, e.isMark, hsign, hspan, e.digits.isEmpty]

/-- A written number is read up to a text that cannot go on with it. -/
theorem read_written {rest : List Char} (h : Ends rest) :
    read (x.text ++ rest) = some (x.numeral, rest) := by
  have hexponent : ∀ c ∈ (x.exponentText ++ rest).head?, c.isDigit = false ∧ c ≠ '.' := by
    intro c hc
    unfold WrittenNumber.exponentText at hc
    cases hx : x.exponent with
    | none =>
      rw [hx] at hc
      exact ⟨(h c hc).1, (h c hc).2.1⟩
    | some e =>
      rw [hx] at hc
      obtain rfl := Option.some.inj hc
      rcases e.isMark with hm | hm <;> rw [hm] <;> decide
  have hfraction : ∀ c ∈ (x.fractionText ++ (x.exponentText ++ rest)).head?, c.isDigit = false := by
    intro c hc
    unfold WrittenNumber.fractionText at hc
    cases hx : x.fraction with
    | none =>
      rw [hx] at hc
      exact (hexponent c hc).1
    | some d =>
      rw [hx] at hc
      obtain rfl := Option.some.inj hc
      decide
  have hspan := x.whole.span hfraction
  have hread := readFraction_written x hexponent
  have hlast := readExponent_written x h
  have hwhole := isWhole_digits x.leading
  unfold WrittenNumber.text WrittenNumber.numeral
  cases x.negative with
  | true => simp [read, hspan, hread, hlast, hwhole]
  | false =>
    obtain ⟨c, tail, hd, hc⟩ := x.whole.exists_cons
    have hminus : ∀ s,
        x.whole.chars ++ (x.fractionText ++ (x.exponentText ++ rest)) ≠ '-' :: s := by
      intro s heq
      rw [hd] at heq
      exact ne_of_isDigit hc (by decide) (List.cons.inj heq).1
    -- `hminus` rules the first branch of the sign out
    simp [read, hspan, hread, hlast, hwhole]

end

/-- Every integer is written in one way, without a fraction and an exponent. -/
theorem exists_writtenNumber (n : Int) :
    ∃ x : WrittenNumber, x.text = Json.writeInt n ∧
      x.numeral = ⟨decide (n < 0), Nat.toDigits 10 n.natAbs, none, none⟩ := by
  have hleading : (Nat.toDigits 10 n.natAbs).head? = some '0' →
      Nat.toDigits 10 n.natAbs = ['0'] := by
    intro hzero
    rcases Nat.eq_zero_or_pos n.natAbs with hn | hn
    · rw [hn]
      rfl
    · exact absurd hzero (head_toDigits_ne_zero hn)
  refine ⟨⟨decide (n < 0), ⟨Nat.toDigits 10 n.natAbs, fun _ => isDigit_of_mem_toDigits,
    Nat.toDigits_ne_nil⟩, none, none, hleading⟩, ?_, rfl⟩
  simp [WrittenNumber.text, WrittenNumber.fractionText, WrittenNumber.exponentText, Json.writeInt]

theorem value_writeInt {n : Int} (h : Exact n) :
    (⟨decide (n < 0), Nat.toDigits 10 n.natAbs, none, none⟩ : Numeral).value = some (.int n) := by
  obtain ⟨hleast, hgreatest⟩ := h
  simp only [value, digitsValue_toDigits]
  by_cases hn : n < 0
  · have hbound : 0 < n.natAbs ∧ n.natAbs ≤ 0x8000000000000000 := by omega
    have habs : -(n.natAbs : Int) = n := by omega
    simp only [hn, decide_true, ↓reduceIte, hbound, and_self, habs]
  · have hbound : n.natAbs ≤ maxCoefficient := by omega
    have habs : (n.natAbs : Int) = n := by omega
    simp only [hn, decide_false, Bool.false_eq_true, ↓reduceIte, hbound, habs]

/-- What is written like an integer is read as that integer. -/
theorem value_of_text_eq_writeInt {x : WrittenNumber} {n : Int} (hn : Exact n)
    (h : x.text = Json.writeInt n) : x.numeral.value = some (.int n) := by
  obtain ⟨y, htext, hnumeral⟩ := exists_writtenNumber n
  have hx := read_written x ends_nil
  rw [h, ← htext, read_written y ends_nil] at hx
  have heq : y.numeral = x.numeral := (Prod.mk.inj (Option.some.inj hx)).1
  rw [← heq, hnumeral, value_writeInt hn]

theorem asFloat_ne_int (numeral : Numeral) (n : Int) : numeral.asFloat ≠ some (.int n) := by
  intro h
  obtain ⟨x, _, hx⟩ := Option.map_eq_some_iff.mp h
  exact Number.noConfusion hx

/-- Whatever is kept as an integer is one of those that are kept exactly. -/
theorem exact_of_value {numeral : Numeral} {n : Int} (h : numeral.value = some (.int n)) :
    Exact n := by
  unfold value at h
  split at h
  next =>
    simp only at h
    by_cases hneg : numeral.negative
    · rw [if_pos hneg] at h
      split at h
      next hbound =>
        have hn : -(digitsValue numeral.whole : Int) = n := by simpa using h
        subst hn
        unfold Exact maxCoefficient
        omega
      next => exact absurd h (asFloat_ne_int numeral n)
    · rw [if_neg hneg] at h
      split at h
      next hbound =>
        have hn : (digitsValue numeral.whole : Int) = n := by simpa using h
        subst hn
        unfold Exact
        omega
      next => exact absurd h (asFloat_ne_int numeral n)
  next => exact absurd h (asFloat_ne_int numeral n)

end Numeral

end Outbound
