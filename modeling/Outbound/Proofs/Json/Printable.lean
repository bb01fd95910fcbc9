import Outbound.Proofs.Json.Literal
import Outbound.Proofs.Json.Numeral

namespace Outbound

/-- The text has no control characters below the space, so that it stays on one line. -/
def Printable (s : List Char) : Prop :=
  ∀ c ∈ s, 0x20 ≤ c.toNat

@[simp] theorem printable_nil : Printable [] := by
  simp [Printable]

@[simp] theorem printable_cons {c : Char} {s : List Char} :
    Printable (c :: s) ↔ 0x20 ≤ c.toNat ∧ Printable s := by
  simp [Printable]

@[simp] theorem printable_append {s t : List Char} :
    Printable (s ++ t) ↔ Printable s ∧ Printable t := by
  simp only [Printable, List.forall_mem_append]

theorem printable_toDigits (n : Nat) : Printable (Nat.toDigits 10 n) := by
  intro c hc
  have hdigit := isDigit_of_mem_toDigits hc
  have hle : '0'.toNat ≤ c.toNat := by
    simp only [Char.isDigit, Bool.and_eq_true, decide_eq_true_eq] at hdigit
    exact hdigit.1
  exact Nat.le_trans (by decide) hle

theorem printable_zeros (n : Nat) : Printable (zeros n) := by
  intro c hc
  rw [List.eq_of_mem_replicate hc]
  decide

theorem printable_positional {digits : List Char} (h : Printable digits) (exponent : Int) :
    Printable (positional digits exponent) := by
  have htake : ∀ n, Printable (digits.take n) := fun n c hc => h c (List.mem_of_mem_take hc)
  have hdrop : ∀ n, Printable (digits.drop n) := fun n c hc => h c (List.mem_of_mem_drop hc)
  unfold positional
  split
  next => simp [h, printable_zeros]
  next =>
    simp only
    split
    next => simp [htake, hdrop]
    next => simp [h, printable_zeros]

theorem printable_scientific {digits : List Char} (h : Printable digits) (plusSign : Bool)
    (leading : Int) : Printable (scientific plusSign digits leading) := by
  have hsign : Printable (if leading < 0 then ['-'] else if plusSign then ['+'] else []) := by
    split
    next => simp
    next => split <;> simp
  unfold scientific
  simp only [printable_append, printable_cons]
  refine ⟨⟨?_, by decide, hsign⟩, printable_toDigits _⟩
  match digits, h with
  | [], _ => exact printable_nil
  | [d], h => exact h
  | d :: e :: rest, h => simpa using h

theorem printable_float (style : FloatStyle) (x : Float) : Printable (style.float x) := by
  have hsign : ∀ negative : Bool, Printable (if negative then ['-'] else []) := by
    intro negative
    cases negative <;> simp
  unfold FloatStyle.float FloatStyle.bits
  simp only
  split
  next => simp
  next => simp [hsign]
  next d _ =>
    rw [printable_append]
    refine ⟨hsign _, ?_⟩
    unfold FloatStyle.decimal
    simp only
    split
    next => exact printable_positional (printable_toDigits _) _
    next => exact printable_scientific (printable_toDigits _) _ _

namespace Json

theorem printable_writeNumber (n : Number) : Printable (writeNumber n) := by
  cases n with
  | int n =>
    have hsign : Printable (if n < 0 then ['-'] else []) := by
      split <;> simp
    exact printable_append.mpr ⟨hsign, printable_toDigits _⟩
  | float x => exact printable_float floatStyle x

theorem printable_writeChar (c : Char) : Printable (writeChar c) := by
  rcases writeChar_cases c with ⟨hw, hc, _, _⟩ | ⟨e, hw, _, he⟩ | ⟨hw, hc⟩
  · simp [hw, hc]
  · simp [hw, he]
  · have hunit : Printable (hexUnit c.toNat) := fun d hd =>
      (Literal.hexUnit_plain c.toNat d hd).1
    simp [hw, hunit]

theorem printable_writeString (s : String) : Printable (writeString s) := by
  have hbody : Printable (s.toList.flatMap writeChar) := by
    intro c hc
    obtain ⟨d, _, hd⟩ := List.mem_flatMap.mp hc
    exact printable_writeChar d c hd
  simp [writeString, hbody]

theorem printable_commaSeparated {texts : List (List Char)} (h : ∀ text ∈ texts, Printable text) :
    Printable (commaSeparated texts) := by
  induction texts with
  | nil => exact printable_nil
  | cons text rest ih =>
    have htext := h text List.mem_cons_self
    have hrest := ih fun t ht => h t (List.mem_cons_of_mem text ht)
    cases rest with
    | nil => exact htext
    | cons next rest => simp [commaSeparated, htext, hrest]

mutual

/-- A written value has no control characters. -/
theorem printable_write (v : Json) : Printable v.write := by
  cases v with
  | null => simp [write]
  | bool b => cases b <;> simp [write]
  | number n => exact printable_writeNumber n
  | string s => exact printable_writeString s
  | array items =>
    have hitems := printable_commaSeparated (printable_writeItems items)
    simp [write, hitems]
  | object members =>
    have hmembers := printable_commaSeparated (printable_writeMembers members)
    simp [write, hmembers]

theorem printable_writeItems (items : List Json) : ∀ text ∈ writeItems items, Printable text := by
  cases items with
  | nil => simp [writeItems]
  | cons v rest =>
    exact List.forall_mem_cons.mpr ⟨printable_write v, printable_writeItems rest⟩

theorem printable_writeMembers (members : List (String × Json)) :
    ∀ text ∈ writeMembers members, Printable text := by
  cases members with
  | nil => simp [writeMembers]
  | cons m rest =>
    obtain ⟨k, v⟩ := m
    have hk := printable_writeString k
    have hv := printable_write v
    have hm : Printable (writeString k ++ ':' :: v.write) := by
      simp [hk, hv]
    exact List.forall_mem_cons.mpr ⟨hm, printable_writeMembers rest⟩

end

end Json

end Outbound
