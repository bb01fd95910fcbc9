namespace Outbound

/-- The characters with the Unicode property `White_Space`. -/
def isWhiteSpace (c : Char) : Bool :=
  let n := c.toNat
  (0x09 ≤ n && n ≤ 0x0D) || n == 0x20 || n == 0x85 || n == 0xA0 || n == 0x1680 ||
    (0x2000 ≤ n && n ≤ 0x200A) || n == 0x2028 || n == 0x2029 || n == 0x202F ||
    n == 0x205F || n == 0x3000

/-- A text is blank when it holds white space only; the empty text is blank. -/
def isBlank (s : String) : Bool :=
  s.toList.all isWhiteSpace

/-- The text itself unless it is blank. -/
def unlessBlank (s : String) : Option String :=
  if isBlank s then none else some s

@[simp] theorem isBlank_empty : isBlank "" = true := by
  simp [isBlank]

theorem ne_empty_of_not_blank {s : String} (h : isBlank s = false) : s ≠ "" := by
  rintro rfl
  simp at h

theorem unlessBlank_eq_some_iff {s t : String} :
    unlessBlank s = some t ↔ isBlank s = false ∧ s = t := by
  unfold unlessBlank
  split <;> simp_all

end Outbound
