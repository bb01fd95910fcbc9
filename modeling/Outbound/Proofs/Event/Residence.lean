import Mathlib.Data.List.Basic
import Outbound.Event.TypePath

namespace Outbound

namespace Path

theorem eq_of_splitLast {s before after : List Char}
    (h : splitLast s = some (before, after)) : s = before ++ ':' :: ':' :: after := by
  induction s generalizing before with
  | nil => simp [splitLast] at h
  | cons c rest ih =>
    unfold splitLast at h
    split at h
    next earlier later hrest =>
      obtain ⟨rfl, rfl⟩ := Prod.mk.inj (Option.some.inj h)
      rw [ih hrest, List.cons_append]
    next =>
      split at h
      next => obtain ⟨rfl, rfl⟩ := Prod.mk.inj (Option.some.inj h); rfl
      next => simp at h

/-- A separator follows an enclosing namespace in the path. -/
theorem enclosing_append {s : List Char} (h : enclosing s ≠ []) :
    ∃ rest, s = enclosing s ++ ':' :: ':' :: rest := by
  obtain ⟨generics, hs⟩ := List.takeWhile_prefix (l := s) (· != '<')
  unfold enclosing at h ⊢
  split at h
  next before after hsplit =>
    have hplain : plain s = before ++ ':' :: ':' :: after := eq_of_splitLast hsplit
    refine ⟨after ++ generics, ?_⟩
    calc s = plain s ++ generics := hs.symm
      _ = before ++ ':' :: ':' :: (after ++ generics) := by rw [hplain]; simp
  next => exact absurd rfl h

theorem atBoundary_iff {s : List Char} :
    atBoundary s = true ↔ s = [] ∨ ∃ rest, s = ':' :: ':' :: rest := by
  unfold atBoundary
  split <;> simp_all

theorem isWithin_iff {s root : List Char} :
    isWithin s root = true ↔
      trim root ≠ [] ∧ ∃ rest, enclosing s = trim root ++ rest ∧ atBoundary rest = true := by
  unfold isWithin
  cases trim root with
  | nil => simp
  | cons c t =>
    simp only [ne_eq, reduceCtorEq, not_false_eq_true, true_and]
    split
    next rest h =>
      have hpath := List.append_eq_of_isPrefixOf?_eq_some h
      constructor
      · exact fun hrest => ⟨rest, hpath.symm, hrest⟩
      · intro hh
        obtain ⟨other, hother, hboundary⟩ := hh
        have heq : rest = other := List.append_cancel_left (hpath.trans hother)
        rwa [heq]
    next h =>
      refine ⟨fun hfalse => absurd hfalse (by simp), ?_⟩
      intro hh
      obtain ⟨rest, hrest, _⟩ := hh
      have hsome := List.isPrefixOf?_eq_some_iff_append_eq.mpr hrest.symm
      rw [h] at hsome
      simp at hsome

/-- A path within a namespace is that namespace, a separator and what follows. -/
theorem exists_of_isWithin {s root : List Char} (h : isWithin s root = true) :
    ∃ after, s = trim root ++ ':' :: ':' :: after := by
  obtain ⟨hne, rest, henclosing, hboundary⟩ := isWithin_iff.mp h
  have hsome : enclosing s ≠ [] := by
    rw [henclosing]
    exact List.append_ne_nil_of_left_ne_nil hne rest
  obtain ⟨last, hs⟩ := enclosing_append hsome
  rw [henclosing] at hs
  rcases atBoundary_iff.mp hboundary with rfl | ⟨inner, rfl⟩
  · exact ⟨last, by simpa using hs⟩
  · exact ⟨inner ++ ':' :: ':' :: last, by simpa using hs⟩

/-- A cut behind a text and a separator never falls inside a character. -/
theorem dropBytes_separated (before after : List Char) :
    dropBytes ((String.ofList before).utf8ByteSize + 2) (before ++ ':' :: ':' :: after) =
      some after := by
  have hsize : (String.ofList (before ++ [':', ':'])).utf8ByteSize =
      (String.ofList before).utf8ByteSize + 2 := by
    rw [String.ofList_append, String.utf8ByteSize_append]
    rfl
  rw [← hsize, List.append_cons, List.append_cons]
  simpa using dropBytes_append (before ++ [':', ':']) after

theorem localPart_eq_some_iff {s root x : List Char} :
    localPart s root = some x ↔
      isWithin s root = true ∧ s = trim root ++ ':' :: ':' :: x := by
  unfold localPart
  split
  next h =>
    obtain ⟨after, hs⟩ := exists_of_isWithin h
    have hcut : dropBytes ((String.ofList (trim root)).utf8ByteSize + 2) s = some after := by
      conv_lhs => rw [hs]
      exact dropBytes_separated (trim root) after
    rw [hcut, Option.some.injEq]
    constructor
    · intro hx
      exact ⟨h, hx ▸ hs⟩
    · intro hx
      have hsame := hs.symm.trans hx.2
      simpa using hsame
  next h => simp [h]

/-- Of two namespaces that a path lies in, one extends the other. -/
theorem trim_comparable {s root other : List Char} (h : isWithin s root = true)
    (ho : isWithin s other = true) : trim root <+: trim other ∨ trim other <+: trim root := by
  obtain ⟨_, hroot⟩ := exists_of_isWithin h
  obtain ⟨_, hother⟩ := exists_of_isWithin ho
  exact List.prefix_or_prefix_of_prefix ⟨_, hroot.symm⟩ ⟨_, hother.symm⟩

end Path

namespace TypePath

theorem localPart_eq_some_iff {t : TypePath} {root x : String} :
    t.localPart root = some x ↔ t.isWithin root = true ∧
      t.name.toList = Path.trim root.toList ++ ':' :: ':' :: x.toList := by
  unfold localPart isWithin
  rw [Option.map_eq_some_iff]
  constructor
  · intro hh
    obtain ⟨l, hl, rfl⟩ := hh
    simpa using Path.localPart_eq_some_iff.mp hl
  · intro h
    exact ⟨x.toList, Path.localPart_eq_some_iff.mpr h, by simp⟩

/-- The cut behind a namespace that a type stands in never fails. -/
theorem isWithin_iff_localPart {t : TypePath} {root : String} :
    t.isWithin root = true ↔ ∃ x, t.localPart root = some x := by
  constructor
  · intro h
    obtain ⟨after, hname⟩ := Path.exists_of_isWithin h
    exact ⟨String.ofList after, localPart_eq_some_iff.mpr ⟨h, by simpa using hname⟩⟩
  · intro h
    obtain ⟨x, hx⟩ := h
    exact (localPart_eq_some_iff.mp hx).1

end TypePath

section

variable {n m : String}

theorem TypePath.isWithin_of_trim_eq (h : Path.trim n.toList = Path.trim m.toList) (t : TypePath) :
    t.isWithin n = t.isWithin m := by
  unfold isWithin Path.isWithin
  rw [h]

theorem TypePath.localPart_of_trim_eq (h : Path.trim n.toList = Path.trim m.toList)
    (t : TypePath) : t.localPart n = t.localPart m := by
  unfold localPart Path.localPart Path.isWithin
  rw [h]

theorem trimmedLength_of_trim_eq (h : Path.trim n.toList = Path.trim m.toList) :
    trimmedLength n = trimmedLength m := by
  unfold trimmedLength
  rw [h]

end

theorem trim_eq_of_extension {root other : String}
    (h : Path.trim root.toList <+: Path.trim other.toList)
    (hlength : trimmedLength other ≤ trimmedLength root) :
    Path.trim root.toList = Path.trim other.toList := by
  obtain ⟨rest, hrest⟩ := h
  unfold trimmedLength at hlength
  rw [← hrest, String.ofList_append, String.utf8ByteSize_append] at hlength
  have hzero : (String.ofList rest).utf8ByteSize = 0 := by omega
  have hempty : rest = [] := by simpa using hzero
  rw [← hrest, hempty, List.append_nil]

/-- Namespaces of one length that a type lies in are the same but for separators at their ends. -/
theorem trim_eq_of_trimmedLength_eq {t : TypePath} {root other : String}
    (h : t.isWithin root = true) (ho : t.isWithin other = true)
    (hlength : trimmedLength root = trimmedLength other) :
    Path.trim root.toList = Path.trim other.toList := by
  rcases Path.trim_comparable h ho with hprefix | hprefix
  · exact trim_eq_of_extension hprefix (Nat.le_of_eq hlength.symm)
  · exact (trim_eq_of_extension hprefix (Nat.le_of_eq hlength)).symm

end Outbound
