import Outbound.Proofs.Event.Residence

namespace Outbound

namespace Path

/-- So many separators. -/
def separators (k : Nat) : List Char :=
  (List.replicate k [':', ':']).flatten

theorem reverse_separators (k : Nat) : (separators k).reverse = separators k := by
  simp [separators, List.reverse_flatten]

theorem dropSeparators_append (k : Nat) (s : List Char) :
    dropSeparators (separators k ++ s) = dropSeparators s := by
  induction k with
  | zero => rfl
  | succ k ih => simpa [separators, List.replicate_succ, dropSeparators] using ih

theorem trim_append_separators (s : List Char) (k : Nat) : trim (s ++ separators k) = trim s := by
  unfold trim
  rw [List.reverse_append, reverse_separators, dropSeparators_append]

theorem exists_dropSeparators (s : List Char) : ∃ k, s = separators k ++ dropSeparators s := by
  fun_induction dropSeparators s with
  | case1 rest ih =>
    obtain ⟨k, hk⟩ := ih
    refine ⟨k + 1, ?_⟩
    conv_lhs => rw [hk]
    simp [separators, List.replicate_succ]
  | case2 s => exact ⟨0, rfl⟩

theorem exists_trim (s : List Char) : ∃ k, s = trim s ++ separators k := by
  obtain ⟨k, hk⟩ := exists_dropSeparators s.reverse
  refine ⟨k, ?_⟩
  have hs := congrArg List.reverse hk
  rwa [List.reverse_reverse, List.reverse_append, reverse_separators] at hs

/-- Only colons are removed from the end of a namespace. -/
theorem mem_trim_of_mem {c : Char} (hc : c ≠ ':') {s : List Char} (h : c ∈ s) : c ∈ trim s := by
  obtain ⟨k, hk⟩ := exists_trim s
  rw [hk] at h
  refine (List.mem_append.mp h).resolve_right fun hsep => hc ?_
  have hcolon : k ≠ 0 ∧ c = ':' := by simpa [separators] using hsep
  exact hcolon.2

theorem not_prefix_dropSeparators (s : List Char) : ¬ [':', ':'] <+: dropSeparators s := by
  fun_induction dropSeparators s with
  | case1 rest ih => exact ih
  | case2 s hs =>
    intro h
    obtain ⟨rest, rfl⟩ := h
    exact hs rest rfl

theorem not_suffix_trim (s : List Char) : ¬ [':', ':'] <:+ trim s := by
  intro h
  apply not_prefix_dropSeparators s.reverse
  simpa [trim] using List.reverse_prefix.mpr h

theorem trim_of_not_suffix {s : List Char} (h : ¬ [':', ':'] <:+ s) : trim s = s := by
  obtain ⟨k, hk⟩ := exists_trim s
  cases k with
  | zero => simpa [separators] using hk.symm
  | succ k =>
    refine absurd ⟨trim s ++ separators k, ?_⟩ h
    conv_rhs => rw [hk]
    simp [separators, List.replicate_succ']

/-- The trimmed text is the one that the text begins with, that only separators follow, and that
does not end in one. -/
theorem trim_eq_iff {s bare : List Char} :
    trim s = bare ↔ (∃ k, s = bare ++ separators k) ∧ ¬ [':', ':'] <:+ bare := by
  constructor
  · intro h
    subst h
    exact ⟨exists_trim s, not_suffix_trim s⟩
  · intro h
    obtain ⟨⟨k, rfl⟩, hend⟩ := h
    rw [trim_append_separators, trim_of_not_suffix hend]

theorem trim_of_getLast? {s : List Char} (h : s.getLast? ≠ some ':') : trim s = s := by
  apply trim_of_not_suffix
  intro hend
  obtain ⟨before, rfl⟩ := hend
  exact h (by simp)

end Path

/-- The namespace without the separators at its end. -/
def trimmed (root : String) : String :=
  String.ofList (Path.trim root.toList)

/-- The namespace is the bare text and any number of separators after it, and the bare text does
not end in a separator of its own. -/
structure IsTrimmed (root bare : String) : Prop where
  separators : ∃ k, root = bare ++ String.join (List.replicate k "::")
  bare_end : ¬ [':', ':'] <:+ bare.toList

theorem toList_trimmed (root : String) : (trimmed root).toList = Path.trim root.toList :=
  String.toList_ofList

theorem isTrimmed_iff {root bare : String} : IsTrimmed root bare ↔ bare = trimmed root := by
  have hseparated (k : Nat) : root = bare ++ String.join (List.replicate k "::") ↔
      root.toList = bare.toList ++ Path.separators k := by
    rw [← String.toList_inj]
    simp [Path.separators, List.flatMap_def]
  rw [← String.toList_inj, toList_trimmed, eq_comm, Path.trim_eq_iff]
  constructor
  · intro h
    exact ⟨h.separators.imp fun k hk => (hseparated k).mp hk, h.bare_end⟩
  · intro h
    exact ⟨h.1.imp fun k hk => (hseparated k).mpr hk, h.2⟩

theorem trim_append_separator (root : String) :
    Path.trim (root ++ "::").toList = Path.trim root.toList := by
  rw [String.toList_append]
  exact Path.trim_append_separators root.toList 1

theorem trim_trimmed (root : String) : Path.trim (trimmed root).toList = Path.trim root.toList := by
  rw [toList_trimmed]
  exact Path.trim_of_not_suffix (Path.not_suffix_trim root.toList)

namespace TypePath

variable {t : TypePath} {root : String}

/-- A type stands in a namespace if its own one is that namespace or goes on below it. -/
theorem isWithin_iff_enclosing : t.isWithin root = true ↔ trimmed root ≠ "" ∧
    (t.enclosing = trimmed root ∨ ∃ rest, t.enclosing = trimmed root ++ "::" ++ rest) := by
  have henclosing (s : String) : t.enclosing = trimmed root ++ s ↔
      Path.enclosing t.name.toList = Path.trim root.toList ++ s.toList := by
    rw [← String.toList_inj, String.toList_append, toList_trimmed, enclosing, String.toList_ofList]
  have hne : trimmed root ≠ "" ↔ Path.trim root.toList ≠ [] := by
    rw [ne_eq, ← String.toList_eq_nil_iff, toList_trimmed]
  unfold isWithin
  rw [Path.isWithin_iff, hne]
  apply and_congr_right
  intro _
  constructor
  · intro h
    obtain ⟨rest, hrest, hboundary⟩ := h
    rcases Path.atBoundary_iff.mp hboundary with rfl | ⟨below, rfl⟩
    · exact Or.inl (by simpa using (henclosing "").mpr hrest)
    · refine Or.inr ⟨String.ofList below, ?_⟩
      rw [String.append_assoc, henclosing, hrest]
      simp
  · intro h
    rcases h with hsame | ⟨rest, hbelow⟩
    · exact ⟨[], (henclosing "").mp (by simpa using hsame), rfl⟩
    · rw [String.append_assoc, henclosing, String.toList_append] at hbelow
      exact ⟨_, hbelow, rfl⟩

theorem name_eq_of_localPart {x : String} (h : t.localPart root = some x) :
    t.name = trimmed root ++ "::" ++ x := by
  apply String.toList_injective
  rw [(localPart_eq_some_iff.mp h).2, String.toList_append, String.toList_append, toList_trimmed,
    List.append_assoc]
  rfl

/-- Names are cut exactly, whatever characters the texts are made of. What is left of a namespace
when it is trimmed is determined, and a type stands in the namespace if this is not empty and its own
namespace is this or goes on below it. The cut behind it then never fails, and divides the name into
the trimmed namespace, a separator and the local part. It does not matter how many separators end a
namespace, and of two namespaces that hold the type one begins with the other. -/
theorem residence_of_name (t : TypePath) (root : String) :
    (∀ bare, IsTrimmed root bare ↔ bare = trimmed root) ∧
    (t.isWithin root = true ↔ trimmed root ≠ "" ∧
      (t.enclosing = trimmed root ∨ ∃ rest, t.enclosing = trimmed root ++ "::" ++ rest)) ∧
    (t.isWithin root = true ↔ ∃ x, t.localPart root = some x) ∧
    (∀ x, t.localPart root = some x →
      trimmed root ≠ "" ∧ t.name = trimmed root ++ "::" ++ x) ∧
    (∀ other ∈ [root ++ "::", trimmed root],
      t.isWithin other = t.isWithin root ∧ t.localPart other = t.localPart root) ∧
    (∀ other, t.isWithin root = true → t.isWithin other = true →
      (trimmed root).toList <+: (trimmed other).toList ∨
        (trimmed other).toList <+: (trimmed root).toList) := by
  refine ⟨fun bare => isTrimmed_iff, isWithin_iff_enclosing, isWithin_iff_localPart, fun x hx => ?_,
    fun other ho => ?_, fun other h ho => ?_⟩
  · have hwithin := isWithin_iff_localPart.mpr ⟨x, hx⟩
    exact ⟨(isWithin_iff_enclosing.mp hwithin).1, name_eq_of_localPart hx⟩
  · have htrim : Path.trim other.toList = Path.trim root.toList := by
      rcases List.mem_pair.mp ho with rfl | rfl
      · exact trim_append_separator root
      · exact trim_trimmed root
    exact ⟨isWithin_of_trim_eq htrim t, localPart_of_trim_eq htrim t⟩
  · rw [toList_trimmed, toList_trimmed]
    exact Path.trim_comparable h ho

/-- One of the three colons at the end of a namespace stays, behind letters of two bytes. The
type stands in the namespace of the letters alone as well. -/
theorem residence_of_overlapping :
    IsTrimmed "größe:::" "größe:" ∧
    (TypePath.mk "größe:::b::Set<x::Y>").isWithin "größe:::" = true ∧
    "größe:::b::Set<x::Y>" = "größe:" ++ "::" ++ "b::Set<x::Y>" ∧
    (TypePath.mk "größe:::b::Set<x::Y>").localPart "größe:::::" = some "b::Set<x::Y>" ∧
    ("größe:".toList <+: "größe".toList ∨ "größe".toList <+: "größe:".toList) := by
  have hroot : trimmed "größe:::" = "größe:" := by decide +kernel
  have houter : trimmed "größe" = "größe" := by decide +kernel
  have hcut : (TypePath.mk "größe:::b::Set<x::Y>").localPart "größe:::" =
      some "b::Set<x::Y>" := by decide +kernel
  obtain ⟨hbare, hholds, _, hname, hends, hother⟩ :=
    residence_of_name ⟨"größe:::b::Set<x::Y>"⟩ "größe:::"
  have hwithin := hholds.mpr ⟨by decide +kernel, Or.inr ⟨"b", by decide +kernel⟩⟩
  obtain ⟨_, hsplit⟩ := hname _ hcut
  obtain ⟨_, hmore⟩ := hends ("größe:::" ++ "::") (by simp)
  have hprefix := hother "größe" hwithin (by decide +kernel)
  rw [hroot] at hsplit
  rw [hroot, houter] at hprefix
  exact ⟨(hbare _).mpr hroot.symm, hwithin, hsplit, hmore.trans hcut, hprefix⟩

end TypePath

end Outbound
