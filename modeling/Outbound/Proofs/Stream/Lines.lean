import Outbound.Stream.Run

namespace Outbound

namespace Stream

/-- The bytes end where a line ends. -/
def Aligned (bytes : List UInt8) : Prop :=
  bytes = [] ∨ bytes.getLast? = some 10

theorem Aligned.tail {b : UInt8} {rest : List UInt8} (h : Aligned (b :: rest)) :
    Aligned rest := by
  cases rest with
  | nil => exact Or.inl rfl
  | cons c more =>
    rcases h with h | h
    · simp at h
    · exact Or.inr (by simpa using h)

theorem lines_eq_nil_iff {bytes : List UInt8} : lines bytes = [] ↔ bytes = [] := by
  fun_cases lines bytes <;> simp_all

/-- A byte that no line ends with goes to the front of the line after it. -/
theorem lines_cons {b : UInt8} {rest : List UInt8} {line : List UInt8} {more : List (List UInt8)}
    (hlf : b ≠ 10) (hcr : b = 13 → rest.head? ≠ some 10) (h : lines rest = line :: more) :
    lines (b :: rest) = (b :: line) :: more := by
  unfold lines
  split
  next heq => simp at heq
  next heq =>
    obtain ⟨rfl, rfl⟩ := List.cons.inj heq
    exact absurd rfl (hcr rfl)
  next heq => exact absurd (List.cons.inj heq).1 hlf
  next b' rest' _ _ heq =>
    obtain ⟨rfl, rfl⟩ := List.cons.inj heq
    rw [h]

theorem lines_append {first : List UInt8} (second : List UInt8) (h : Aligned first) :
    lines (first ++ second) = lines first ++ lines second := by
  fun_induction lines first with
  | case1 => rfl
  | case2 rest ih =>
    have := ih h.tail.tail
    simpa [lines] using this
  | case3 rest ih =>
    have := ih h.tail
    simpa [lines] using this
  | case4 b rest _ hlf hrest =>
    have hempty := lines_eq_nil_iff.mp hrest
    subst hempty
    rcases h with h | h
    · simp at h
    · simp_all
  | case5 b rest hcr hlf line more hrest ih =>
    have htail := ih h.tail
    rw [hrest, List.cons_append] at htail
    apply lines_cons hlf _ htail
    intro heq hhead
    subst heq
    cases rest with
    | nil => simp [lines] at hrest
    | cons c after =>
      have hc : c = 10 := by simpa using hhead
      exact hcr after rfl (by rw [hc])

/-- Aligned bytes have as many lines as line feeds. -/
theorem length_lines {bytes : List UInt8} (h : Aligned bytes) :
    (lines bytes).length = bytes.count 10 := by
  fun_induction lines bytes with
  | case1 => rfl
  | case2 rest ih =>
    have := ih h.tail.tail
    simpa using this
  | case3 rest ih =>
    have := ih h.tail
    simpa using this
  | case4 b rest _ hlf hrest =>
    have hempty := lines_eq_nil_iff.mp hrest
    subst hempty
    rcases h with h | h
    · simp at h
    · simp_all
  | case5 b rest hcr hlf line more hrest ih =>
    have htail := ih h.tail
    rw [hrest] at htail
    rw [List.count_cons_of_ne hlf]
    simpa using htail

theorem aligned_feed {rest : List UInt8} (h : Aligned rest) (line : List UInt8) :
    Aligned (line ++ 10 :: rest) := by
  have hlast : (10 :: rest).getLast? = some 10 := by
    rcases h with rfl | hlast
    · rfl
    · rw [List.getLast?_cons, hlast]
      rfl
  exact Or.inr (by rw [List.getLast?_append, hlast, Option.some_or])

/-- Bytes are taken apart into lines with their line feeds and a last line without one. -/
theorem feed_induction {motive : List UInt8 → Prop} (last : ∀ line, 10 ∉ line → motive line)
    (feed : ∀ line rest, 10 ∉ line → motive rest → motive (line ++ 10 :: rest))
    (bytes : List UInt8) : motive bytes := by
  -- The bytes of the line that is under way are kept in front.
  suffices h : ∀ line, 10 ∉ line → motive (line ++ bytes) from h [] List.not_mem_nil
  induction bytes with
  | nil =>
    intro line hline
    rw [List.append_nil]
    exact last line hline
  | cons b rest ih =>
    intro line hline
    by_cases hb : b = 10
    · subst hb
      exact feed line rest hline (ih [] List.not_mem_nil)
    · have hnext : 10 ∉ line ++ [b] := by
        rw [List.mem_append, List.mem_singleton]
        exact fun h => h.elim hline fun heq => hb heq.symm
      rw [List.append_cons]
      exact ih (line ++ [b]) hnext

/-- A line without the carriage return that goes with its line feed. -/
def stripReturn (line : List UInt8) : List UInt8 :=
  if line.getLast? = some 13 then line.dropLast else line

@[simp] theorem stripReturn_append_return (line : List UInt8) :
    stripReturn (line ++ [13]) = line := by
  simp [stripReturn]

theorem stripReturn_cons (b : UInt8) {line : List UInt8} (h : line ≠ []) :
    stripReturn (b :: line) = b :: stripReturn line := by
  obtain ⟨c, rest, rfl⟩ := List.exists_cons_of_ne_nil h
  unfold stripReturn
  rw [List.getLast?_cons_cons]
  split <;> rfl

theorem lines_append_feed {line : List UInt8} (h : 10 ∉ line) (rest : List UInt8) :
    lines (line ++ 10 :: rest) = stripReturn line :: lines rest := by
  induction line with
  | nil => rfl
  | cons b line ih =>
    obtain ⟨hb, hline⟩ := not_or.mp (mt List.mem_cons.mpr h)
    cases line with
    | nil =>
      by_cases hcr : b = 13
      · subst hcr
        rfl
      · have hstrip : stripReturn [b] = [b] := by simp [stripReturn, hcr]
        rw [hstrip]
        exact lines_cons (Ne.symm hb) (fun h => absurd h hcr) (ih hline)
    | cons c line =>
      have hc : c ≠ 10 := fun heq => hline (heq ▸ List.mem_cons_self)
      rw [stripReturn_cons b (List.cons_ne_nil c line)]
      exact lines_cons (Ne.symm hb) (fun _ hhead => hc (Option.some.inj hhead)) (ih hline)

/-- The last line needs no line feed. -/
theorem lines_last {line : List UInt8} (h : 10 ∉ line) (hne : line ≠ []) : lines line = [line] := by
  induction line with
  | nil => exact absurd rfl hne
  | cons b line ih =>
    obtain ⟨hb, hline⟩ := not_or.mp (mt List.mem_cons.mpr h)
    cases line with
    | nil =>
      unfold lines
      split <;> simp_all [lines]
    | cons c line =>
      have hc : c ≠ 10 := fun heq => hline (heq ▸ List.mem_cons_self)
      exact lines_cons (Ne.symm hb) (fun _ hhead => hc (Option.some.inj hhead))
        (ih hline (List.cons_ne_nil c line))

end Stream

end Outbound
