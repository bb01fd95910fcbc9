import Outbound.Proofs.Event.Segments

namespace Outbound

namespace Path

/-- Two colons stand next to each other in the text. -/
def HasSeparator (s : List Char) : Prop :=
  [':', ':'] <:+: s

/-- The text begins with a separator, which is the only one in it. -/
def SeparatedAtStart (s : List Char) : Prop :=
  ∃ last, s = ':' :: ':' :: last ∧ ¬ HasSeparator (':' :: last)

theorem hasSeparator_append (before after : List Char) :
    HasSeparator (before ++ ':' :: ':' :: after) :=
  ⟨before, after, by simp⟩

theorem HasSeparator.cons {s : List Char} (h : HasSeparator s) (c : Char) : HasSeparator (c :: s) :=
  List.infix_cons h

theorem splitLast_eq_none_iff {s : List Char} : splitLast s = none ↔ ¬ HasSeparator s := by
  induction s with
  | nil => simp [splitLast, HasSeparator]
  | cons c rest ih =>
    unfold splitLast
    split
    next before after hrest =>
      have hmore : HasSeparator rest := by
        rw [eq_of_splitLast hrest]
        exact hasSeparator_append before after
      simp [hmore.cons c]
    next hrest =>
      have hnone := ih.mp hrest
      split
      next after => simpa using hasSeparator_append [] after
      next hfirst =>
        simp only [true_iff]
        intro h
        rcases List.infix_cons_iff.mp h with hfront | hlater
        · obtain ⟨after, hafter⟩ := hfront
          obtain ⟨rfl, hcolon⟩ := List.cons.inj hafter
          exact hfirst after rfl hcolon.symm
        · exact hnone hlater

/-- What is split off last has no separator, not even with the colon before it. -/
theorem not_hasSeparator_of_splitLast {s before after : List Char}
    (h : splitLast s = some (before, after)) : ¬ HasSeparator (':' :: after) := by
  induction s generalizing before with
  | nil => simp [splitLast] at h
  | cons c rest ih =>
    unfold splitLast at h
    split at h
    next earlier later hrest =>
      obtain ⟨_, rfl⟩ := Prod.mk.inj (Option.some.inj h)
      exact ih hrest
    next hrest =>
      split at h
      next =>
        obtain ⟨_, rfl⟩ := Prod.mk.inj (Option.some.inj h)
        exact splitLast_eq_none_iff.mp hrest
      next => simp at h

theorem not_separatedAtStart {before after : List Char} (h : before ≠ []) :
    ¬ SeparatedAtStart (before ++ ':' :: ':' :: after) := by
  intro hstart
  obtain ⟨last, heq, hlast⟩ := hstart
  obtain ⟨c, before, rfl⟩ := List.exists_cons_of_ne_nil h
  rw [List.cons_append] at heq
  rw [← (List.cons.inj heq).2] at hlast
  exact hlast (hasSeparator_append before after)

theorem leaf_of_enclosing_eq_nil {s : List Char} (h : enclosing s = []) : leaf s = s := by
  unfold leaf
  rw [h]

theorem enclosing_eq_nil_iff {s : List Char} :
    enclosing s = [] ↔ ¬ HasSeparator (plain s) ∨ SeparatedAtStart (plain s) := by
  unfold enclosing
  cases hsplit : splitLast (plain s) with
  | none => simp [splitLast_eq_none_iff.mp hsplit]
  | some parts =>
    obtain ⟨before, after⟩ := parts
    have hpath := eq_of_splitLast hsplit
    have hsome : HasSeparator (plain s) := hpath ▸ hasSeparator_append before after
    dsimp only
    rw [or_iff_right (not_not_intro hsome)]
    constructor
    · intro hbefore
      subst hbefore
      exact ⟨after, hpath, not_hasSeparator_of_splitLast hsplit⟩
    · intro hstart
      by_contra hbefore
      rw [hpath] at hstart
      exact not_separatedAtStart hbefore hstart

/-- A name with an enclosing namespace is cut at the last separator of its path. -/
theorem eq_enclosing_append_leaf {s : List Char} (h : enclosing s ≠ []) :
    s = enclosing s ++ ':' :: ':' :: leaf s ∧ ¬ HasSeparator (plain (leaf s)) := by
  obtain ⟨generics, hs, hgenerics⟩ := exists_generics s
  unfold enclosing at h
  cases hsplit : splitLast (plain s) with
  | none => simp [hsplit] at h
  | some parts =>
    obtain ⟨before, after⟩ := parts
    have hpath := eq_of_splitLast hsplit
    have henclosing : enclosing s = before := by simp [enclosing, hsplit]
    have hbefore : before ≠ [] := by simpa [hsplit] using h
    have hname : s = before ++ ':' :: ':' :: (after ++ generics) := by
      calc s = plain s ++ generics := hs
        _ = before ++ ':' :: ':' :: (after ++ generics) := by rw [hpath]; simp
    have hleaf : leaf s = after ++ generics := by
      unfold leaf
      rw [henclosing]
      split
      next => exact absurd rfl hbefore
      next =>
        conv_lhs => rw [hname]
        simp [← List.drop_drop]
    have hafter : '<' ∉ after := by
      intro hmem
      have hplain := not_mem_plain s
      rw [hpath] at hplain
      exact hplain (by simp [hmem])
    rw [henclosing, hleaf, plain_append hafter hgenerics]
    exact ⟨hname, fun hsome => not_hasSeparator_of_splitLast hsplit (hsome.cons ':')⟩

end Path

namespace TypePath

open Outbound.Path (HasSeparator SeparatedAtStart plain)

/-- The name is the enclosing namespace, a separator and the leaf, and the path of the leaf has no
separator. -/
def IsDivided (t : TypePath) : Prop :=
  t.name = t.enclosing ++ "::" ++ t.leaf ∧ ¬ HasSeparator (plain t.leaf.toList)

theorem enclosing_eq_empty_iff {t : TypePath} :
    t.enclosing = "" ↔
      ¬ HasSeparator (plain t.name.toList) ∨ SeparatedAtStart (plain t.name.toList) := by
  rw [← Path.enclosing_eq_nil_iff, ← String.toList_eq_nil_iff]
  simp [enclosing]

theorem leaf_of_enclosing_eq_empty {t : TypePath} (h : t.enclosing = "") : t.leaf = t.name := by
  have hnil : Path.enclosing t.name.toList = [] := by
    simpa [enclosing] using congrArg String.toList h
  simp [leaf, Path.leaf_of_enclosing_eq_nil hnil]

theorem isDivided_of_enclosing_ne_empty {t : TypePath} (h : t.enclosing ≠ "") : t.IsDivided := by
  have hsome : Path.enclosing t.name.toList ≠ [] := by
    intro hnil
    exact h (by simp [enclosing, hnil])
  obtain ⟨hname, hlast⟩ := Path.eq_enclosing_append_leaf hsome
  refine ⟨?_, by simpa [leaf] using hlast⟩
  apply String.toList_injective
  simpa [enclosing, leaf] using hname

/-- A name without a namespace is its own leaf, which leaves no room for a separator. -/
theorem not_isDivided_of_enclosing_eq_empty {t : TypePath} (h : t.enclosing = "") :
    ¬ t.IsDivided := by
  intro hdivided
  have hlength := congrArg String.utf8ByteSize hdivided.1
  rw [h, leaf_of_enclosing_eq_empty h, String.utf8ByteSize_append] at hlength
  have hseparator : ("" ++ "::" : String).utf8ByteSize = 2 := rfl
  omega

/-- A name with a separator in its path is divided at the last one, unless that is the only one and
the path begins with it. All other names are their own leaves. The leaf is always cut from within
the name. -/
theorem division_of_name (t : TypePath) :
    (HasSeparator (plain t.name.toList) →
      (t.IsDivided ↔ ¬ SeparatedAtStart (plain t.name.toList))) ∧
    (¬ HasSeparator (plain t.name.toList) ∨ SeparatedAtStart (plain t.name.toList) →
      t.enclosing = "" ∧ t.leaf = t.name) ∧
    (t.enclosing ≠ "" → ∃ rest, t.name = t.enclosing ++ "::" ++ rest) := by
  refine ⟨fun hsome => ?_, fun hwhole => ?_, fun hne => ?_⟩
  · constructor
    · intro hdivided hstart
      have hempty := enclosing_eq_empty_iff.mpr (Or.inr hstart)
      exact not_isDivided_of_enclosing_eq_empty hempty hdivided
    · intro hstart
      apply isDivided_of_enclosing_ne_empty
      intro hempty
      exact (enclosing_eq_empty_iff.mp hempty).elim (fun h => h hsome) hstart
  · have hempty := enclosing_eq_empty_iff.mpr hwhole
    exact ⟨hempty, leaf_of_enclosing_eq_empty hempty⟩
  · exact ⟨t.leaf, (isDivided_of_enclosing_ne_empty hne).1⟩

/-- Separators between angle brackets do not count, overlapping ones are taken as far right as they
go, and a name without any is its own leaf. -/
theorem division_of_envelope :
    (TypePath.mk "acme::Envelope<acme::orders::Placed>").IsDivided ∧
    (TypePath.mk "acme:::Placed").IsDivided ∧
    (TypePath.mk "i64").enclosing = "" ∧ (TypePath.mk "i64").leaf = "i64" := by
  have hstart : ∀ s : List Char, s.head? ≠ some ':' → ¬ SeparatedAtStart s := by
    intro s hs h
    obtain ⟨last, rfl, _⟩ := h
    exact hs rfl
  refine ⟨?_, ?_, ?_⟩
  · have hsome : HasSeparator (plain "acme::Envelope<acme::orders::Placed>".toList) :=
      ⟨"acme".toList, "Envelope".toList, by decide +kernel⟩
    exact ((division_of_name _).1 hsome).mpr (hstart _ (by decide +kernel))
  · have hsome : HasSeparator (plain "acme:::Placed".toList) :=
      ⟨"acme:".toList, "Placed".toList, by decide +kernel⟩
    exact ((division_of_name _).1 hsome).mpr (hstart _ (by decide +kernel))
  · have hnone : ¬ HasSeparator (plain "i64".toList) := by
      rw [← Path.splitLast_eq_none_iff]
      decide +kernel
    exact (division_of_name ⟨"i64"⟩).2.1 (Or.inl hnone)

/-- A name that begins with its only separator is taken for its own leaf. -/
theorem leading_separator_stays_in_leaf :
    HasSeparator (plain "::Placed".toList) ∧
    (TypePath.mk "::Placed").enclosing = "" ∧ (TypePath.mk "::Placed").leaf = "::Placed" ∧
    ¬ (TypePath.mk "::Placed").IsDivided := by
  have hempty : (TypePath.mk "::Placed").enclosing = "" := by decide +kernel
  exact ⟨⟨[], "Placed".toList, by decide +kernel⟩, hempty, leaf_of_enclosing_eq_empty hempty,
    not_isDivided_of_enclosing_eq_empty hempty⟩

end TypePath

end Outbound
