import Outbound.Json.Parser.Basic
import Outbound.Json.Printer

namespace Outbound

/-- A character is written as it is, after a backslash in a short form, or by its number. -/
theorem Json.writeChar_cases (c : Char) :
    (writeChar c = [c] ∧ 0x20 ≤ c.toNat ∧ c ≠ '"' ∧ c ≠ '\\') ∨
    (∃ e, writeChar c = ['\\', e] ∧ Literal.shortEscape e = some c ∧ 0x20 ≤ e.toNat) ∨
    (writeChar c = '\\' :: 'u' :: hexUnit c.toNat ∧ c.toNat < 0x20) := by
  unfold writeChar
  split
  next => exact Or.inr (Or.inl ⟨'"', rfl, rfl, by decide⟩)
  next => exact Or.inr (Or.inl ⟨'\\', rfl, rfl, by decide⟩)
  next => exact Or.inr (Or.inl ⟨'b', rfl, rfl, by decide⟩)
  next => exact Or.inr (Or.inl ⟨'t', rfl, rfl, by decide⟩)
  next => exact Or.inr (Or.inl ⟨'n', rfl, rfl, by decide⟩)
  next => exact Or.inr (Or.inl ⟨'f', rfl, rfl, by decide⟩)
  next => exact Or.inr (Or.inl ⟨'r', rfl, rfl, by decide⟩)
  next hquote hslash _ _ _ _ _ =>
    by_cases hc : c.toNat < 0x20
    · exact Or.inr (Or.inr ⟨by simp [hc], hc⟩)
    · exact Or.inl ⟨by simp [hc], by omega, hquote, hslash⟩

/-- One place of a string literal as it is written: a character that stands for itself, a letter or
mark after a backslash, or a UTF-16 unit in four hexadecimal digits. -/
inductive Glyph where
  | plain (c : Char) (h : 0x20 ≤ c.toNat ∧ c ≠ '"' ∧ c ≠ '\\')
  | short (mark c : Char) (h : Literal.shortEscape mark = some c)
  | unit (n : Nat) (a b c d : Char) (h : Literal.unitValue a b c d = some n)

def Glyph.text : Glyph → List Char
  | plain c _ => [c]
  | short mark _ _ => ['\\', mark]
  | unit _ a b c d _ => ['\\', 'u', a, b, c, d]

theorem Glyph.length_text_pos (g : Glyph) : 0 < g.text.length := by
  cases g <;> simp [text]

def Glyph.isPlain (c : Char) : Bool :=
  0x20 ≤ c.toNat && c != '"' && c != '\\'

theorem Glyph.isPlain_iff {c : Char} :
    isPlain c = true ↔ 0x20 ≤ c.toNat ∧ c ≠ '"' ∧ c ≠ '\\' := by
  simp [isPlain, and_assoc]

/-- Characters that stand for themselves, one by one. -/
def Glyph.verbatim (s : String) (h : s.toList.all isPlain = true) : List Glyph :=
  s.toList.pmap (fun c hc => .plain c (isPlain_iff.mp hc)) (List.all_eq_true.mp h)

def Glyph.piece : Glyph → Piece
  | plain c _ => .scalar c
  | short _ c _ => .scalar c
  | unit n _ _ _ _ _ => .unit n

theorem plain_of_hexValue {c : Char} {n : Nat} (h : hexValue c = some n) :
    0x20 ≤ c.toNat ∧ c ≠ '"' ∧ c ≠ '\\' := by
  have hrange : ('0' ≤ c ∧ c ≤ '9') ∨ ('a' ≤ c ∧ c ≤ 'f') ∨ ('A' ≤ c ∧ c ≤ 'F') := by
    unfold hexValue at h
    split at h
    next h0 => exact Or.inl h0
    next =>
      split at h
      next ha => exact Or.inr (Or.inl ha)
      next =>
        split at h
        next hA => exact Or.inr (Or.inr hA)
        next => simp at h
  refine ⟨?_, ?_, ?_⟩
  · have hle : '0'.toNat ≤ c.toNat := by
      rcases hrange with h | h | h
      · exact h.1
      · exact Nat.le_trans (by decide) h.1
      · exact Nat.le_trans (by decide) h.1
    exact Nat.le_trans (by decide) hle
  · rintro rfl
    revert hrange
    decide
  · rintro rfl
    revert hrange
    decide

namespace Literal

/-- The text that the glyphs of a literal stand for. Units above the basic plane come in pairs, and
half a pair stands for nothing. -/
inductive Spells : List Glyph → List Char → Prop
  | nil : Spells [] []
  | plain {c h glyphs s} : Spells glyphs s → Spells (.plain c h :: glyphs) (c :: s)
  | short {mark c h glyphs s} : Spells glyphs s → Spells (.short mark c h :: glyphs) (c :: s)
  | unit {n a b c d h glyphs s} : n < 0xD800 ∨ 0xE000 ≤ n → Spells glyphs s →
      Spells (.unit n a b c d h :: glyphs) (Char.ofNat n :: s)
  | pair {high low a b c d a' b' c' d' h h' glyphs s} : 0xD800 ≤ high ∧ high < 0xDC00 →
      0xDC00 ≤ low ∧ low < 0xE000 → Spells glyphs s →
      Spells (.unit high a b c d h :: .unit low a' b' c' d' h' :: glyphs)
        (Char.ofNat (0x10000 + (high - 0xD800) * 0x400 + (low - 0xDC00)) :: s)

theorem body_cons {c : Char} (hquote : c ≠ '"') (hslash : c ≠ '\\') (rest : List Char) :
    body (c :: rest) = if c.toNat < 0x20 then none
      else (body rest).map fun (b, after) => (c :: b, after) := by
  rw [body.eq_def]
  split
  next heq => simp at heq
  next heq => exact absurd (List.cons.inj heq).1 hquote
  next heq => exact absurd (List.cons.inj heq).1 hslash
  next heq =>
    obtain ⟨rfl, rfl⟩ := List.cons.inj heq
    rfl

theorem body_plain {c : Char} (hc : 0x20 ≤ c.toNat) (hquote : c ≠ '"') (hslash : c ≠ '\\')
    (rest : List Char) : body (c :: rest) = (body rest).map fun (b, after) => (c :: b, after) := by
  rw [body_cons hquote hslash, if_neg (Nat.not_lt.mpr hc)]

theorem body_escape {e : Char} (he : 0x20 ≤ e.toNat) (rest : List Char) :
    body ('\\' :: e :: rest) = (body rest).map fun (b, after) => ('\\' :: e :: b, after) := by
  simp [body, Nat.not_lt.mpr he]

theorem le_of_shortEscape {mark c : Char} (h : shortEscape mark = some c) : 0x20 ≤ mark.toNat := by
  unfold shortEscape at h
  split at h <;> first | decide | simp at h

theorem plain_of_unitValue {a b c d : Char} {n : Nat} (h : unitValue a b c d = some n) :
    ∀ digit ∈ [a, b, c, d], 0x20 ≤ digit.toNat ∧ digit ≠ '"' ∧ digit ≠ '\\' := by
  unfold unitValue at h
  obtain ⟨x, ha, h⟩ := Option.bind_eq_some_iff.mp h
  obtain ⟨y, hb, h⟩ := Option.bind_eq_some_iff.mp h
  obtain ⟨z, hc, h⟩ := Option.bind_eq_some_iff.mp h
  obtain ⟨w, hd, _⟩ := Option.bind_eq_some_iff.mp h
  simp only [List.forall_mem_cons, List.not_mem_nil, false_implies, implies_true, and_true]
  exact ⟨plain_of_hexValue ha, plain_of_hexValue hb, plain_of_hexValue hc, plain_of_hexValue hd⟩

/-- What is read of a glyph goes in front of what is read of the text after it. -/
theorem body_glyph (g : Glyph) (rest : List Char) :
    body (g.text ++ rest) = (body rest).map fun (b, after) => (g.text ++ b, after) := by
  cases g with
  | plain c h => exact body_plain h.1 h.2.1 h.2.2 rest
  | short mark c h => exact body_escape (le_of_shortEscape h) rest
  | unit n a b c d h =>
    have hplain := plain_of_unitValue h
    simp only [List.forall_mem_cons, List.not_mem_nil, false_implies, implies_true, and_true]
      at hplain
    obtain ⟨ha, hb, hc, hd⟩ := hplain
    simp only [Glyph.text, List.cons_append, List.nil_append]
    rw [body_escape (by decide), body_plain ha.1 ha.2.1 ha.2.2, body_plain hb.1 hb.2.1 hb.2.2,
      body_plain hc.1 hc.2.1 hc.2.2, body_plain hd.1 hd.2.1 hd.2.2]
    simp only [Option.map_map, Function.comp_def]

theorem body_glyphs (glyphs : List Glyph) (rest : List Char) :
    body (glyphs.flatMap Glyph.text ++ '"' :: rest) = some (glyphs.flatMap Glyph.text, rest) := by
  induction glyphs with
  | nil => simp [body]
  | cons g glyphs ih =>
    rw [List.flatMap_cons, List.append_assoc, body_glyph, ih]
    rfl

/-- Hexadecimal digits are characters that stand for themselves. -/
theorem hexUnit_plain (n : Nat) :
    ∀ c ∈ Json.hexUnit n, 0x20 ≤ c.toNat ∧ c ≠ '"' ∧ c ≠ '\\' := by
  have hdigit : ∀ d < 16,
      0x20 ≤ (Nat.digitChar d).toNat ∧ Nat.digitChar d ≠ '"' ∧ Nat.digitChar d ≠ '\\' := by
    decide
  have hmod (m : Nat) := hdigit (m % 16) (Nat.mod_lt m (by decide))
  intro c hc
  simp only [Json.hexUnit, List.mem_cons, List.not_mem_nil, or_false] at hc
  rcases hc with rfl | rfl | rfl | rfl <;> exact hmod _

theorem pieces_plain {c : Char} (hslash : c ≠ '\\') (rest : List Char) :
    pieces (c :: rest) = (pieces rest).map (Piece.scalar c :: ·) := by
  rw [pieces.eq_def]
  split
  next heq => simp at heq
  next heq => exact absurd (List.cons.inj heq).1 hslash
  next heq => exact absurd (List.cons.inj heq).1 hslash
  next heq => exact absurd (List.cons.inj heq).1 hslash
  next heq =>
    obtain ⟨rfl, rfl⟩ := List.cons.inj heq
    rw [Option.map_eq_bind]
    rfl

theorem pieces_short {c e : Char} (he : shortEscape e = some c) (rest : List Char) :
    pieces ('\\' :: e :: rest) = (pieces rest).map (Piece.scalar c :: ·) := by
  rw [pieces.eq_def]
  split
  next heq => simp at heq
  next heq =>
    obtain ⟨rfl, _⟩ := List.cons.inj (List.cons.inj heq).2
    simp [shortEscape] at he
  next heq =>
    obtain ⟨rfl, rfl⟩ := List.cons.inj (List.cons.inj heq).2
    rw [he, Option.map_eq_bind]
    rfl
  next heq => simp at heq
  next hnot _ heq => exact (hnot e rest (List.cons.inj heq).1.symm (List.cons.inj heq).2.symm).elim

theorem pieces_glyph (g : Glyph) (rest : List Char) :
    pieces (g.text ++ rest) = (pieces rest).map (g.piece :: ·) := by
  cases g with
  | plain c h => exact pieces_plain h.2.2 rest
  | short mark c h => exact pieces_short h rest
  | unit n a b c d h =>
    rw [Glyph.piece, Option.map_eq_bind]
    simp only [Glyph.text, List.cons_append, List.nil_append, pieces, h]
    rfl

theorem pieces_glyphs (glyphs : List Glyph) :
    pieces (glyphs.flatMap Glyph.text) = some (glyphs.map Glyph.piece) := by
  induction glyphs with
  | nil => simp [pieces]
  | cons g glyphs ih =>
    rw [List.flatMap_cons, pieces_glyph, ih]
    rfl

theorem isHighSurrogate_iff {n : Nat} : isHighSurrogate n = true ↔ 0xD800 ≤ n ∧ n < 0xDC00 := by
  simp [isHighSurrogate]

theorem isLowSurrogate_iff {n : Nat} : isLowSurrogate n = true ↔ 0xDC00 ≤ n ∧ n < 0xE000 := by
  simp [isLowSurrogate]

/-- A unit outside the surrogates is a character of its own, whatever follows. -/
theorem join_unit {n : Nat} (hn : n < 0xD800 ∨ 0xE000 ≤ n) (ps : List Piece) :
    join (.unit n :: ps) = (join ps).map (Char.ofNat n :: ·) := by
  have hhigh : isHighSurrogate n = false := by
    rw [← Bool.not_eq_true, isHighSurrogate_iff]
    omega
  have hlow : isLowSurrogate n = false := by
    rw [← Bool.not_eq_true, isLowSurrogate_iff]
    omega
  rw [join.eq_def]
  split <;> simp_all

theorem join_pair {high low : Nat} (hh : 0xD800 ≤ high ∧ high < 0xDC00)
    (hl : 0xDC00 ≤ low ∧ low < 0xE000) (ps : List Piece) :
    join (.unit high :: .unit low :: ps) =
      (join ps).map (Char.ofNat (0x10000 + (high - 0xD800) * 0x400 + (low - 0xDC00)) :: ·) := by
  simp [join, isHighSurrogate_iff.mpr hh, isLowSurrogate_iff.mpr hl]

/-- A surrogate that is not the first half of a pair has no meaning. -/
theorem join_lone {n : Nat} (hn : 0xD800 ≤ n ∧ n < 0xE000) {ps : List Piece}
    (hps : ∀ low rest, ps = .unit low :: rest → n < 0xDC00 → ¬ (0xDC00 ≤ low ∧ low < 0xE000)) :
    join (.unit n :: ps) = none := by
  have hhalf : isHighSurrogate n = true ∨ isLowSurrogate n = true := by
    rw [isHighSurrogate_iff, isLowSurrogate_iff]
    omega
  rw [join.eq_def]
  split
  next heq => simp at heq
  next heq => simp at heq
  next high low rest heq =>
    obtain ⟨hunit, rfl⟩ := List.cons.inj heq
    obtain rfl := Piece.unit.inj hunit
    have hlow := hps low rest rfl
    by_cases hhigh : isHighSurrogate n = true
    · have hnot : isLowSurrogate low = false := by
        rw [← Bool.not_eq_true, isLowSurrogate_iff]
        exact hlow (isHighSurrogate_iff.mp hhigh).2
      simp [hhigh, hnot]
    · simp [hhigh, hhalf.resolve_left hhigh]
  next _ heq =>
    obtain ⟨hunit, rfl⟩ := List.cons.inj heq
    obtain rfl := Piece.unit.inj hunit
    rcases hhalf with h | h <;> simp [h]

theorem join_of_spells {glyphs : List Glyph} {s : List Char} (h : Spells glyphs s) :
    join (glyphs.map Glyph.piece) = some s := by
  induction h with
  | nil => simp [join]
  | plain _ ih => simp [join, Glyph.piece, ih]
  | short _ ih => simp [join, Glyph.piece, ih]
  | unit hn _ ih => simp [Glyph.piece, join_unit hn, ih]
  | pair hhigh hlow _ ih => simp [Glyph.piece, join_pair hhigh hlow, ih]

theorem spells_of_join {glyphs : List Glyph} {s : List Char}
    (h : join (glyphs.map Glyph.piece) = some s) : Spells glyphs s := by
  -- a pair takes two glyphs at once, so the recursion is on the length and not on the list
  match glyphs with
  | [] =>
    obtain rfl : [] = s := by simpa [join] using h
    exact .nil
  | .plain c hc :: glyphs =>
    obtain ⟨t, ht, rfl⟩ := Option.map_eq_some_iff.mp h
    exact .plain (spells_of_join ht)
  | .short mark c hc :: glyphs =>
    obtain ⟨t, ht, rfl⟩ := Option.map_eq_some_iff.mp h
    exact .short (spells_of_join ht)
  | .unit n a b c d hn :: glyphs =>
    rw [List.map_cons] at h
    by_cases hplain : n < 0xD800 ∨ 0xE000 ≤ n
    · rw [Glyph.piece, join_unit hplain] at h
      obtain ⟨t, ht, rfl⟩ := Option.map_eq_some_iff.mp h
      exact .unit hplain (spells_of_join ht)
    · rw [Glyph.piece] at h
      have hsurrogate : 0xD800 ≤ n ∧ n < 0xE000 := by omega
      by_cases hpair : ∃ low a' b' c' d' h' rest, glyphs = .unit low a' b' c' d' h' :: rest ∧
          n < 0xDC00 ∧ 0xDC00 ≤ low ∧ low < 0xE000
      · obtain ⟨low, a', b', c', d', h', rest, rfl, hhigh, hlow⟩ := hpair
        rw [List.map_cons, Glyph.piece, join_pair ⟨hsurrogate.1, hhigh⟩ hlow] at h
        obtain ⟨t, ht, rfl⟩ := Option.map_eq_some_iff.mp h
        exact .pair ⟨hsurrogate.1, hhigh⟩ hlow (spells_of_join ht)
      · rw [join_lone hsurrogate] at h
        · simp at h
        · intro low rest hps hhigh hlow
          obtain ⟨g, others, rfl, hg, _⟩ := List.map_eq_cons_iff.mp hps
          cases g with
          | plain => simp [Glyph.piece] at hg
          | short => simp [Glyph.piece] at hg
          | unit m a' b' c' d' h' =>
            obtain rfl := Piece.unit.inj hg
            exact hpair ⟨m, a', b', c', d', h', others, rfl, hhigh, hlow⟩
termination_by glyphs.length

/-- The body of a literal is taken for the text that it spells, and for nothing where it spells
none. -/
theorem decode_glyphs_iff {glyphs : List Glyph} {s : String} :
    decode (glyphs.flatMap Glyph.text) = some s ↔ Spells glyphs s.toList := by
  have hdecode : decode (glyphs.flatMap Glyph.text) =
      (join (glyphs.map Glyph.piece)).map String.ofList := by
    rw [decode, pieces_glyphs, Option.map_eq_bind]
    rfl
  rw [hdecode, Option.map_eq_some_iff]
  constructor
  · intro h
    obtain ⟨t, ht, rfl⟩ := h
    rw [String.toList_ofList]
    exact spells_of_join ht
  · exact fun h => ⟨s.toList, join_of_spells h, String.ofList_toList⟩

theorem body_control {c : Char} (hc : c.toNat < 0x20) (rest : List Char) :
    body (c :: rest) = none := by
  have hquote : c ≠ '"' := by
    rintro rfl
    exact absurd hc (by decide)
  have hslash : c ≠ '\\' := by
    rintro rfl
    exact absurd hc (by decide)
  rw [body_cons hquote hslash, if_pos hc]

/-- What is read of a literal stands before a quote at the front of the text. -/
theorem eq_append_of_body {s b rest : List Char} (h : body s = some (b, rest)) :
    s = b ++ '"' :: rest := by
  induction s using body.induct generalizing b rest with
  | case1 => simp [body] at h
  | case2 after =>
    obtain ⟨rfl, rfl⟩ := Prod.mk.inj (Option.some.inj h)
    rfl
  | case3 c after hc => simp [body, hc] at h
  | case4 c after hc ih =>
    rw [body_escape (Nat.not_lt.mp hc)] at h
    obtain ⟨⟨b', after'⟩, hbody, heq⟩ := Option.map_eq_some_iff.mp h
    obtain ⟨rfl, rfl⟩ := Prod.mk.inj heq
    rw [ih hbody]
    rfl
  | case5 c after _ _ hc => simp [body_control hc] at h
  | case6 c after hquote hslash hc ih =>
    by_cases hc' : c = '\\'
    · -- a backslash at the very end
      cases after with
      | nil => simp [hc', body] at h
      | cons d after => exact (hslash d after hc' rfl).elim
    · rw [body_plain (Nat.not_lt.mp hc) hquote hc'] at h
      obtain ⟨⟨b', after'⟩, hbody, heq⟩ := Option.map_eq_some_iff.mp h
      obtain ⟨rfl, rfl⟩ := Prod.mk.inj heq
      rw [ih hbody]
      rfl

/-- A body whose escapes can be resolved begins with a glyph. -/
theorem exists_glyph_of_body {c : Char} {b rest : List Char} {ps : List Piece}
    (hbody : body (c :: b ++ '"' :: rest) = some (c :: b, rest)) (h : pieces (c :: b) = some ps) :
    ∃ (g : Glyph) (others : List Char), c :: b = g.text ++ others := by
  by_cases hslash : c = '\\'
  · rw [pieces.eq_def] at h
    split at h
    next heq => simp at heq
    next x y z w others heq =>
      obtain ⟨n, hn, _⟩ := Option.bind_eq_some_iff.mp h
      exact ⟨.unit n x y z w hn, others, heq⟩
    next mark others _ heq =>
      obtain ⟨d, hd, _⟩ := Option.bind_eq_some_iff.mp h
      exact ⟨.short mark d hd, others, heq⟩
    next => simp at h
    next c' b' _ hshort hend heq =>
      obtain ⟨rfl, rfl⟩ := List.cons.inj heq
      cases b with
      | nil => exact (hend hslash rfl).elim
      | cons mark others => exact (hshort mark others hslash rfl).elim
  · have hquote : c ≠ '"' := by
      rintro rfl
      simp [body] at hbody
    have hc : 0x20 ≤ c.toNat := by
      apply Nat.le_of_not_lt
      intro hlow
      simp [body_control hlow] at hbody
    exact ⟨.plain c ⟨hc, hquote, hslash⟩, b, rfl⟩

theorem exists_glyphs_of_body {b rest : List Char} {ps : List Piece}
    (hbody : body (b ++ '"' :: rest) = some (b, rest)) (h : pieces b = some ps) :
    ∃ glyphs : List Glyph, glyphs.flatMap Glyph.text = b := by
  induction hn : b.length using Nat.strongRecOn generalizing b rest ps with
  | ind n ih =>
    cases b with
    | nil => exact ⟨[], rfl⟩
    | cons c b =>
      -- A glyph may be several characters long, so that the induction is on the length.
      obtain ⟨g, others, heq⟩ := exists_glyph_of_body hbody h
      rw [heq, List.append_assoc, body_glyph] at hbody
      obtain ⟨⟨others', rest'⟩, hothers, hsame⟩ := Option.map_eq_some_iff.mp hbody
      obtain ⟨hcancel, rfl⟩ := Prod.mk.inj hsame
      obtain rfl := List.append_cancel_left hcancel
      rw [heq, pieces_glyph] at h
      obtain ⟨qs, hqs, _⟩ := Option.map_eq_some_iff.mp h
      have hlength : others'.length < n := by
        have hpos := g.length_text_pos
        rw [← hn, heq, List.length_append]
        omega
      obtain ⟨glyphs, hglyphs⟩ := ih others'.length hlength hothers hqs rfl
      exact ⟨g :: glyphs, by rw [List.flatMap_cons, hglyphs, heq]⟩

theorem spells_verbatim {s : String} (h : s.toList.all Glyph.isPlain = true) :
    Spells (Glyph.verbatim s h) s.toList := by
  have hspells : ∀ (cs : List Char) (hcs : ∀ c ∈ cs, Glyph.isPlain c = true),
      Spells (cs.pmap (fun c hc => .plain c (Glyph.isPlain_iff.mp hc)) hcs) cs := by
    intro cs
    induction cs with
    | nil => exact fun _ => .nil
    | cons c cs ih => exact fun hcs => .plain (ih fun d hd => hcs d (List.mem_cons_of_mem c hd))
  exact hspells s.toList (List.all_eq_true.mp h)

theorem unitValue_hexUnit {n : Nat} (hn : n < 0x20) :
    unitValue (Nat.digitChar (n / 4096 % 16)) (Nat.digitChar (n / 256 % 16))
      (Nat.digitChar (n / 16 % 16)) (Nat.digitChar (n % 16)) = some n := by
  have hall : ∀ m < 0x20,
      unitValue (Nat.digitChar (m / 4096 % 16)) (Nat.digitChar (m / 256 % 16))
        (Nat.digitChar (m / 16 % 16)) (Nat.digitChar (m % 16)) = some m := by
    decide +kernel
  exact hall n hn

/-- What is written for a character is a glyph for it. -/
theorem exists_glyph_of_writeChar (c : Char) :
    ∃ g : Glyph, g.text = Json.writeChar c ∧
      ∀ {glyphs s}, Spells glyphs s → Spells (g :: glyphs) (c :: s) := by
  rcases Json.writeChar_cases c with ⟨hw, hplain⟩ | ⟨mark, hw, hmark, _⟩ | ⟨hw, hc⟩
  · exact ⟨.plain c hplain, hw.symm, .plain⟩
  · exact ⟨.short mark c hmark, hw.symm, .short⟩
  · refine ⟨.unit c.toNat _ _ _ _ (unitValue_hexUnit hc), hw.symm, fun h => ?_⟩
    have hlow : c.toNat < 0xD800 := by omega
    have hunit := Spells.unit (h := unitValue_hexUnit hc) (Or.inl hlow) h
    rwa [Char.ofNat_toNat] at hunit

theorem exists_glyphs_of_written (s : List Char) :
    ∃ glyphs : List Glyph, glyphs.flatMap Glyph.text = s.flatMap Json.writeChar ∧
      Spells glyphs s := by
  induction s with
  | nil => exact ⟨[], rfl, .nil⟩
  | cons c s ih =>
    obtain ⟨glyphs, htext, hs⟩ := ih
    obtain ⟨g, hg, hspells⟩ := exists_glyph_of_writeChar c
    refine ⟨g :: glyphs, ?_, hspells hs⟩
    rw [List.flatMap_cons, List.flatMap_cons, hg, htext]

end Literal

end Outbound
