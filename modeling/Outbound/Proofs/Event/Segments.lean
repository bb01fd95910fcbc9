import Mathlib.Data.List.TakeWhile
import Outbound.Proofs.Event.Trimming

namespace Outbound

namespace Path

/-- The segments with a separator between each two. -/
def join (segments : List (List Char)) : List Char :=
  [':', ':'].intercalate segments

/-- The segments with a separator before each of them. -/
def below (segments : List (List Char)) : List Char :=
  segments.flatMap fun s => ':' :: ':' :: s

theorem join_cons (s : List Char) (rest : List (List Char)) :
    join (s :: rest) = s ++ below rest := by
  induction rest generalizing s with
  | nil => simp [join, below]
  | cons t rest ih =>
    have hrest := ih t
    unfold join below at hrest ⊢
    rw [List.intercalate_cons_cons, hrest, List.flatMap_cons]
    simp

theorem join_append {first second : List (List Char)} (hfirst : first ≠ []) (hsecond : second ≠ []) :
    join (first ++ second) = join first ++ ':' :: ':' :: join second := by
  obtain ⟨s, first, rfl⟩ := List.exists_cons_of_ne_nil hfirst
  obtain ⟨t, second, rfl⟩ := List.exists_cons_of_ne_nil hsecond
  rw [List.cons_append, join_cons, join_cons, join_cons]
  simp [below]

theorem not_mem_join {segments : List (List Char)} (h : ∀ s ∈ segments, '<' ∉ s) :
    '<' ∉ join segments := by
  cases segments with
  | nil => simp [join]
  | cons s rest =>
    obtain ⟨hs, hrest⟩ := List.forall_mem_cons.mp h
    simpa [join_cons, below, hs] using hrest

theorem atBoundary_below_append (segments : List (List Char)) {rest : List Char}
    (h : atBoundary rest = true) : atBoundary (below segments ++ rest) = true := by
  cases segments with
  | nil => exact h
  | cons s segments => rfl

theorem atBoundary_below (segments : List (List Char)) : atBoundary (below segments) = true := by
  have hend : atBoundary ([] : List Char) = true := rfl
  simpa using atBoundary_below_append segments hend

/-- A segment ends at the first colon. -/
theorem takeWhile_segment {s rest : List Char} (hs : ':' ∉ s) (hrest : atBoundary rest = true) :
    (s ++ rest).takeWhile (· != ':') = s := by
  have hall : ∀ c ∈ s, (c != ':') = true := by
    intro c hc
    exact bne_iff_ne.mpr fun heq => hs (heq ▸ hc)
  rw [List.takeWhile_append_of_pos hall]
  rcases atBoundary_iff.mp hrest with rfl | ⟨after, rfl⟩ <;> simp

theorem segment_inj {s t x y : List Char} (hs : ':' ∉ s) (ht : ':' ∉ t)
    (hx : atBoundary x = true) (hy : atBoundary y = true) (h : s ++ x = t ++ y) :
    s = t ∧ x = y := by
  have hst : s = t := by
    rw [← takeWhile_segment hs hx, h, takeWhile_segment ht hy]
  exact ⟨hst, List.append_cancel_left (hst ▸ h)⟩

/-- A text of segments that goes on at a boundary goes on with whole segments. -/
theorem exists_of_below_append {roots segments : List (List Char)} {rest : List Char}
    (hroots : ∀ s ∈ roots, ':' ∉ s) (hsegments : ∀ s ∈ segments, ':' ∉ s)
    (hrest : atBoundary rest = true) (h : below roots ++ rest = below segments) :
    ∃ more, segments = roots ++ more ∧ rest = below more := by
  induction roots generalizing segments with
  | nil => exact ⟨segments, rfl, h⟩
  | cons s roots ih =>
    cases segments with
    | nil => simp [below] at h
    | cons t segments =>
      have hs := List.forall_mem_cons.mp hroots
      have ht := List.forall_mem_cons.mp hsegments
      have htexts : s ++ (below roots ++ rest) = t ++ below segments := by
        simpa [below] using h
      obtain ⟨heq, htail⟩ := segment_inj hs.1 ht.1 (atBoundary_below_append roots hrest)
        (atBoundary_below segments) htexts
      obtain ⟨more, hsame, hmore⟩ := ih hs.2 ht.2 htail
      exact ⟨more, by rw [heq, hsame, List.cons_append], hmore⟩

/-- Segments come first in a path just where their text does, up to a boundary. -/
theorem join_prefix_iff {roots segments : List (List Char)} (hne : roots ≠ [])
    (hroots : ∀ s ∈ roots, ':' ∉ s ∧ s ≠ []) (hsegments : ∀ s ∈ segments, ':' ∉ s) :
    (∃ rest, join segments = join roots ++ rest ∧ atBoundary rest = true) ↔ roots <+: segments := by
  obtain ⟨s, roots, rfl⟩ := List.exists_cons_of_ne_nil hne
  have hs := List.forall_mem_cons.mp hroots
  constructor
  · intro h
    obtain ⟨rest, hrest, hboundary⟩ := h
    cases segments with
    | nil => simp [join_cons, hs.1.2, show join [] = [] from rfl] at hrest
    | cons t segments =>
      have ht := List.forall_mem_cons.mp hsegments
      rw [join_cons, join_cons, List.append_assoc] at hrest
      obtain ⟨heq, htail⟩ := segment_inj ht.1 hs.1.1 (atBoundary_below segments)
        (atBoundary_below_append roots hboundary) hrest
      obtain ⟨more, hmore, _⟩ := exists_of_below_append (fun r hr => (hs.2 r hr).1) ht.2
        hboundary htail.symm
      exact ⟨more, by rw [heq, hmore, List.cons_append]⟩
  · intro h
    obtain ⟨more, rfl⟩ := h
    refine ⟨below more, ?_, atBoundary_below more⟩
    rw [List.cons_append, join_cons, join_cons]
    simp [below]

/-- A path ends before the first angle bracket. -/
theorem not_mem_plain (s : List Char) : '<' ∉ plain s := by
  intro h
  simpa using List.mem_takeWhile_imp h

theorem exists_generics (s : List Char) :
    ∃ generics, s = plain s ++ generics ∧ (generics = [] ∨ ∃ rest, generics = '<' :: rest) := by
  refine ⟨s.dropWhile (· != '<'), List.takeWhile_append_dropWhile.symm, ?_⟩
  cases hdrop : s.dropWhile (· != '<') with
  | nil => exact Or.inl rfl
  | cons c rest =>
    have hc := List.head?_dropWhile_not (· != '<') s
    rw [hdrop] at hc
    have hlt : c = '<' := by simpa using hc
    exact Or.inr ⟨rest, by rw [hlt]⟩

theorem plain_append {path generics : List Char} (hpath : '<' ∉ path)
    (hgenerics : generics = [] ∨ ∃ rest, generics = '<' :: rest) :
    plain (path ++ generics) = path := by
  have hall : ∀ c ∈ path, (c != '<') = true := by
    intro c hc
    exact bne_iff_ne.mpr fun heq => hpath (heq ▸ hc)
  unfold plain
  rw [List.takeWhile_append_of_pos hall]
  rcases hgenerics with rfl | ⟨rest, rfl⟩ <;> simp

theorem splitLast_of_not_mem {s : List Char} (h : ':' ∉ s) : splitLast s = none := by
  induction s with
  | nil => rfl
  | cons c rest ih =>
    obtain ⟨hc, hrest⟩ := List.ne_and_not_mem_of_not_mem_cons h
    simp only [splitLast, ih hrest]
    split
    next => exact absurd rfl hc
    next => rfl

theorem splitLast_append (before : List Char) {after : List Char} (h : ':' ∉ after) :
    splitLast (before ++ ':' :: ':' :: after) = some (before, after) := by
  induction before with
  | nil =>
    have hsecond : splitLast (':' :: after) = none := by
      simp only [splitLast, splitLast_of_not_mem h]
      split
      next => simp at h
      next => rfl
    rw [List.nil_append, splitLast, hsecond]
  | cons c before ih => simp [splitLast, ih]

/-- The namespace of a path is made of all segments but the last. -/
theorem enclosing_join {init : List (List Char)} {last generics : List Char}
    (hpath : ∀ s ∈ init ++ [last], '<' ∉ s) (hlast : ':' ∉ last)
    (hgenerics : generics = [] ∨ ∃ rest, generics = '<' :: rest) :
    enclosing (join (init ++ [last]) ++ generics) = join init := by
  unfold enclosing
  rw [plain_append (not_mem_join hpath) hgenerics]
  by_cases hinit : init = []
  · subst hinit
    rw [List.nil_append, join_cons]
    simp [below, splitLast_of_not_mem hlast, join]
  · rw [join_append hinit (by simp), join_cons]
    simp [below, splitLast_append _ hlast]

/-- Segments are not touched when the separators after them are removed. -/
theorem trim_join_append {roots : List (List Char)} (hroots : ∀ s ∈ roots, ':' ∉ s ∧ s ≠ [])
    (k : Nat) : trim (join roots ++ separators k) = join roots := by
  rw [trim_append_separators]
  rcases List.eq_nil_or_concat roots with rfl | ⟨init, last, rfl⟩
  · rfl
  · rw [List.concat_eq_append] at hroots ⊢
    obtain ⟨hcolon, hne⟩ := hroots last (by simp)
    have hend : ∃ before, join (init ++ [last]) = before ++ last := by
      by_cases hinit : init = []
      · exact ⟨[], by simp [hinit, join]⟩
      · exact ⟨join init ++ [':', ':'], by rw [join_append hinit (by simp)]; simp [join]⟩
    obtain ⟨before, hbefore⟩ := hend
    apply trim_of_getLast?
    rw [hbefore, List.getLast?_append_of_ne_nil _ hne]
    exact fun h => hcolon (List.mem_of_getLast? h)

theorem join_ne_nil {roots : List (List Char)} (hne : roots ≠ [])
    (hroots : ∀ s ∈ roots, ':' ∉ s ∧ s ≠ []) : join roots ≠ [] := by
  obtain ⟨s, roots, rfl⟩ := List.exists_cons_of_ne_nil hne
  rw [join_cons]
  exact List.append_ne_nil_of_left_ne_nil (hroots s List.mem_cons_self).2 _

/-- A path lies in the namespaces that some of the segments before its last one make up. -/
theorem isWithin_join_iff {init roots : List (List Char)} {last generics : List Char}
    (hpath : ∀ s ∈ init ++ [last], ':' ∉ s ∧ '<' ∉ s) (hroots : ∀ s ∈ roots, ':' ∉ s ∧ s ≠ [])
    (hgenerics : generics = [] ∨ ∃ rest, generics = '<' :: rest) (k : Nat) :
    isWithin (join (init ++ [last]) ++ generics) (join roots ++ separators k) = true ↔
      roots ≠ [] ∧ roots <+: init := by
  have hinit : ∀ s ∈ init, ':' ∉ s := fun s hs => (hpath s (List.mem_append_left _ hs)).1
  rw [isWithin_iff, trim_join_append hroots,
    enclosing_join (fun s hs => (hpath s hs).2) (hpath last (by simp)).1 hgenerics]
  by_cases hne : roots = []
  · simp [hne, join]
  · simp only [ne_eq, hne, join_ne_nil hne hroots, not_false_eq_true, true_and]
    exact join_prefix_iff hne hroots hinit

end Path

/-- A segment of a path: not empty, and free of the characters that names are divided at. -/
def IsSegment (s : String) : Prop :=
  s ≠ "" ∧ ':' ∉ s.toList ∧ '<' ∉ s.toList

/-- What may follow a path in a name: nothing, or generic arguments, whatever they hold. -/
def IsGenerics (s : String) : Prop :=
  s = "" ∨ ∃ rest, s.toList = '<' :: rest

/-- The type at a path of segments, with generic arguments after the last one. -/
def TypePath.ofSegments (segments : List String) (generics : String) : TypePath :=
  ⟨"::".intercalate segments ++ generics⟩

/-- The namespace of the given segments, written with so many separators at its end. -/
def rootOfSegments (roots : List String) (k : Nat) : String :=
  "::".intercalate roots ++ String.join (List.replicate k "::")

theorem toList_ofSegments (segments : List String) (generics : String) :
    (TypePath.ofSegments segments generics).name.toList =
      Path.join (segments.map String.toList) ++ generics.toList := by
  simp [TypePath.ofSegments, Path.join]

theorem toList_rootOfSegments (roots : List String) (k : Nat) :
    (rootOfSegments roots k).toList =
      Path.join (roots.map String.toList) ++ Path.separators k := by
  simp [rootOfSegments, Path.join, Path.separators, List.flatMap_def]

theorem toList_segments {roots : List String} (h : ∀ s ∈ roots, IsSegment s) :
    ∀ s ∈ roots.map String.toList, ':' ∉ s ∧ s ≠ [] :=
  List.forall_mem_map.mpr fun s hs =>
    ⟨(h s hs).2.1, fun heq => (h s hs).1 (String.toList_eq_nil_iff.mp heq)⟩

section

variable {segments roots : List String} {generics : String}

theorem isWithin_ofSegments_iff (hne : segments ≠ []) (hsegments : ∀ s ∈ segments, IsSegment s)
    (hroots : ∀ s ∈ roots, IsSegment s) (hgenerics : IsGenerics generics) (k : Nat) :
    (TypePath.ofSegments segments generics).isWithin (rootOfSegments roots k) = true ↔
      roots ≠ [] ∧ roots <+: segments ∧ roots ≠ segments := by
  rcases List.eq_nil_or_concat segments with rfl | ⟨init, last, rfl⟩
  · exact absurd rfl hne
  · rw [List.concat_eq_append] at hsegments ⊢
    have hpath : ∀ s ∈ init.map String.toList ++ [last.toList], ':' ∉ s ∧ '<' ∉ s := by
      rw [← List.map_singleton, ← List.map_append]
      exact List.forall_mem_map.mpr fun s hs => (hsegments s hs).2
    have hrest : generics.toList = [] ∨ ∃ rest, generics.toList = '<' :: rest :=
      hgenerics.imp_left String.toList_eq_nil_iff.mpr
    have hinit : roots <+: init ++ [last] ∧ roots ≠ init ++ [last] ↔ roots <+: init := by
      rw [List.prefix_concat_iff]
      constructor
      · exact fun h => h.1.resolve_left h.2
      · intro h
        refine ⟨Or.inr h, fun heq => ?_⟩
        have hlength := h.length_le
        rw [heq, List.length_append, List.length_singleton] at hlength
        omega
    unfold TypePath.isWithin
    rw [toList_ofSegments, toList_rootOfSegments, List.map_append, List.map_singleton,
      Path.isWithin_join_iff hpath (toList_segments hroots) hrest, hinit,
      List.prefix_map_iff_of_injective fun _ _ => String.toList_injective]
    simp

theorem localPart_ofSegments (hne : segments ≠ []) (hsegments : ∀ s ∈ segments, IsSegment s)
    (hroots : ∀ s ∈ roots, IsSegment s) (hgenerics : IsGenerics generics) (k : Nat) :
    (TypePath.ofSegments segments generics).localPart (rootOfSegments roots k) =
      if roots ≠ [] ∧ roots <+: segments ∧ roots ≠ segments then
        some ("::".intercalate (segments.drop roots.length) ++ generics)
      else none := by
  have hwithin := isWithin_ofSegments_iff hne hsegments hroots hgenerics k
  split
  next h =>
    obtain ⟨hroot, hbegins, hproper⟩ := h
    have hsplit := List.prefix_iff_eq_append.mp hbegins
    have hlower : segments.drop roots.length ≠ [] := by
      intro hnil
      rw [hnil, List.append_nil] at hsplit
      exact hproper hsplit
    refine TypePath.localPart_eq_some_iff.mpr ⟨hwithin.mpr ⟨hroot, hbegins, hproper⟩, ?_⟩
    rw [toList_ofSegments, toList_rootOfSegments, Path.trim_join_append (toList_segments hroots)]
    conv_lhs => rw [← hsplit, List.map_append]
    rw [Path.join_append (by simpa using hroot) (by simpa using hlower)]
    simp [Path.join]
  next h =>
    apply Option.eq_none_iff_forall_ne_some.mpr
    intro x hx
    exact h (hwithin.mp (TypePath.isWithin_iff_localPart.mpr ⟨x, hx⟩))

/-- Namespaces are analysed by whole segments. A type stands in the namespaces that proper parts
of the beginning of its path make up, its local part is made of the other segments, and separators
after a namespace count as little as what stands between angle brackets. -/
theorem residence_of_segments (hne : segments ≠ []) (hsegments : ∀ s ∈ segments, IsSegment s)
    (hroots : ∀ s ∈ roots, IsSegment s) (hgenerics : IsGenerics generics) (k : Nat) :
    ((TypePath.ofSegments segments generics).isWithin (rootOfSegments roots k) = true ↔
      roots ≠ [] ∧ roots <+: segments ∧ roots ≠ segments) ∧
    ((TypePath.ofSegments segments generics).localPart (rootOfSegments roots k) =
      if roots ≠ [] ∧ roots <+: segments ∧ roots ≠ segments then
        some ("::".intercalate (segments.drop roots.length) ++ generics)
      else none) ∧
    (TypePath.ofSegments segments generics).isWithin (rootOfSegments segments k) = false ∧
    (∀ outer j, outer ≠ [] → outer <+: roots →
      (TypePath.ofSegments segments generics).isWithin (rootOfSegments roots k) = true →
      (TypePath.ofSegments segments generics).isWithin (rootOfSegments outer j) = true) ∧
    (∀ other, IsGenerics other →
      (TypePath.ofSegments segments other).isWithin (rootOfSegments roots k) =
        (TypePath.ofSegments segments generics).isWithin (rootOfSegments roots k)) := by
  have hwithin := isWithin_ofSegments_iff hne hsegments hroots hgenerics k
  refine ⟨hwithin, localPart_ofSegments hne hsegments hroots hgenerics k, ?_, ?_, ?_⟩
  · rw [← Bool.not_eq_true, isWithin_ofSegments_iff hne hsegments hsegments hgenerics k]
    exact fun h => h.2.2 rfl
  · intro outer j houter hbegins h
    obtain ⟨_, hpath, hproper⟩ := hwithin.mp h
    have hsub : ∀ s ∈ outer, IsSegment s := fun s hs => hroots s (hbegins.subset hs)
    refine (isWithin_ofSegments_iff hne hsegments hsub hgenerics j).mpr
      ⟨houter, hbegins.trans hpath, fun heq => ?_⟩
    exact hproper (hpath.eq_of_length_le (heq ▸ hbegins.length_le))
  · intro other hother
    rw [Bool.eq_iff_iff, hwithin]
    exact isWithin_ofSegments_iff hne hsegments hroots hother k

/-- A namespace of two segments holds a type below it, and the shorter text of its second segment
makes up another namespace. -/
theorem residence_of_placed :
    (TypePath.mk "acme::app::Placed<x::Y>").isWithin "acme::app::::" = true ∧
    (TypePath.mk "acme::app::Placed<x::Y>").localPart "acme::app::::" = some "Placed<x::Y>" ∧
    (TypePath.mk "acme::app::Placed<x::Y>").isWithin "acme::ap" = false := by
  have hpath : ∀ s ∈ ["acme", "app", "Placed"], IsSegment s := by
    unfold IsSegment
    decide +kernel
  have hnear : ∀ s ∈ ["acme", "ap"], IsSegment s := by
    unfold IsSegment
    decide +kernel
  have hgenerics : IsGenerics "<x::Y>" := Or.inr ⟨"x::Y>".toList, by decide +kernel⟩
  have hroot : ∀ s ∈ ["acme", "app"], IsSegment s := fun s hs =>
    hpath s (List.mem_append_left ["Placed"] hs)
  have hname : TypePath.ofSegments ["acme", "app", "Placed"] "<x::Y>" =
      ⟨"acme::app::Placed<x::Y>"⟩ := by decide +kernel
  obtain ⟨hwithin, hlocal, _⟩ :=
    residence_of_segments (List.cons_ne_nil _ _) hpath hroot hgenerics 2
  obtain ⟨hother, _⟩ := residence_of_segments (List.cons_ne_nil _ _) hpath hnear hgenerics 0
  rw [hname] at hwithin hlocal hother
  rw [show rootOfSegments ["acme", "app"] 2 = "acme::app::::" by decide +kernel] at hwithin hlocal
  rw [show rootOfSegments ["acme", "ap"] 0 = "acme::ap" by decide +kernel] at hother
  refine ⟨hwithin.mpr (by decide), hlocal.trans (by decide +kernel), ?_⟩
  rw [← Bool.not_eq_true, hother]
  decide

end

end Outbound
