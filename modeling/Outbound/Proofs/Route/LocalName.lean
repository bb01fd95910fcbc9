import Outbound.Proofs.Event.Residence
import Outbound.Route.Naming

namespace Outbound

namespace PartialNaming

theorem longest_exists {roots : List String} {other : String} (h : other ∈ roots) :
    ∃ root, longest roots = some root := by
  cases roots with
  | nil => simp at h
  | cons first rest =>
    unfold longest
    split
    next longer _ =>
      split
      · exact ⟨longer, rfl⟩
      · exact ⟨first, rfl⟩
    next => exact ⟨first, rfl⟩

theorem longest_mem {roots : List String} {root : String} (h : longest roots = some root) :
    root ∈ roots := by
  induction roots with
  | nil => simp [longest] at h
  | cons first rest ih =>
    unfold longest at h
    split at h
    next longer hrest =>
      split at h
      next => exact List.mem_cons_of_mem first (ih (hrest.trans h))
      next => simp_all
    next => simp_all

theorem trimmedLength_le_longest {roots : List String} {root other : String}
    (h : longest roots = some root) (ho : other ∈ roots) :
    trimmedLength other ≤ trimmedLength root := by
  induction roots generalizing root with
  | nil => simp at ho
  | cons first rest ih =>
    unfold longest at h
    split at h
    next longer hrest =>
      have hother : other ∈ rest → trimmedLength other ≤ trimmedLength longer := ih hrest
      split at h
      next hle =>
        cases Option.some.inj h
        rcases List.mem_cons.mp ho with rfl | ho
        · exact hle
        · exact hother ho
      next hlt =>
        cases Option.some.inj h
        rcases List.mem_cons.mp ho with rfl | ho
        · exact Nat.le_refl _
        · have := hother ho
          omega
    next hrest =>
      cases Option.some.inj h
      rcases List.mem_cons.mp ho with rfl | ho
      · exact Nat.le_refl _
      · obtain ⟨longer, hlonger⟩ := longest_exists ho
        rw [hrest] at hlonger
        simp at hlonger

/-- The local part is taken below a namespace that no other one exceeds in length. All of these
are the same text, so that any of them will do. -/
theorem localPart_eq_some_iff {namespaces : List String} {t : TypePath} {x : String} :
    localPart namespaces t = some x ↔
      ∃ root ∈ namespaces, t.localPart root = some x ∧
        ∀ other ∈ namespaces, t.isWithin other = true →
          trimmedLength other ≤ trimmedLength root := by
  unfold localPart
  rw [Option.bind_eq_some_iff]
  constructor
  · intro h
    obtain ⟨root, hlongest, hx⟩ := h
    have hmem := List.mem_filter.mp (longest_mem hlongest)
    refine ⟨root, hmem.1, hx, fun other ho hwithin => ?_⟩
    exact trimmedLength_le_longest hlongest (List.mem_filter.mpr ⟨ho, hwithin⟩)
  · intro h
    obtain ⟨root, hroot, hx, hmax⟩ := h
    obtain ⟨hwithin, hname⟩ := TypePath.localPart_eq_some_iff.mp hx
    have hkept : root ∈ namespaces.filter t.isWithin := List.mem_filter.mpr ⟨hroot, hwithin⟩
    obtain ⟨longer, hlongest⟩ := longest_exists hkept
    have hmem := List.mem_filter.mp (longest_mem hlongest)
    have hle := trimmedLength_le_longest hlongest hkept
    have hge := hmax longer hmem.1 hmem.2
    have htrim := trim_eq_of_trimmedLength_eq hwithin hmem.2 (Nat.le_antisymm hle hge)
    exact ⟨longer, hlongest,
      TypePath.localPart_eq_some_iff.mpr ⟨hmem.2, by rw [← htrim]; exact hname⟩⟩

theorem localPart_exists_iff {namespaces : List String} {t : TypePath} :
    (∃ x, localPart namespaces t = some x) ↔ ∃ root ∈ namespaces, t.isWithin root = true := by
  constructor
  · intro h
    obtain ⟨x, hx⟩ := h
    obtain ⟨root, hroot, hlocal, _⟩ := localPart_eq_some_iff.mp hx
    exact ⟨root, hroot, TypePath.isWithin_iff_localPart.mpr ⟨x, hlocal⟩⟩
  · intro h
    obtain ⟨root, hroot, hwithin⟩ := h
    obtain ⟨longer, hlongest⟩ := longest_exists (List.mem_filter.mpr ⟨hroot, hwithin⟩)
    have hmem := List.mem_filter.mp (longest_mem hlongest)
    obtain ⟨x, hx⟩ := TypePath.isWithin_iff_localPart.mp hmem.2
    exact ⟨x, by simp [localPart, hlongest, hx]⟩

/-- The local part is empty just where a type is named by a namespace and a separator. -/
theorem localPart_eq_empty_iff {namespaces : List String} {t : TypePath} :
    localPart namespaces t = some "" ↔
      ∃ root ∈ namespaces, t.isWithin root = true ∧
        t.name.toList = Path.trim root.toList ++ [':', ':'] := by
  rw [localPart_eq_some_iff]
  constructor
  · intro h
    obtain ⟨root, hroot, hx, _⟩ := h
    obtain ⟨hwithin, hname⟩ := TypePath.localPart_eq_some_iff.mp hx
    exact ⟨root, hroot, hwithin, by simpa using hname⟩
  · intro h
    obtain ⟨root, hroot, hwithin, hname⟩ := h
    refine ⟨root, hroot, TypePath.localPart_eq_some_iff.mpr ⟨hwithin, by simpa using hname⟩, ?_⟩
    intro other _ hother
    obtain ⟨y, hy⟩ := TypePath.isWithin_iff_localPart.mp hother
    have hlength := congrArg (fun l => (String.ofList l).utf8ByteSize)
      (hname.symm.trans (TypePath.localPart_eq_some_iff.mp hy).2)
    have hone : ':'.utf8Size = 1 := rfl
    simp only [String.ofList_append, String.ofList_cons, String.utf8ByteSize_append,
      String.utf8ByteSize_singleton, String.ofList_nil] at hlength
    unfold trimmedLength
    simp at hlength
    omega

end PartialNaming

end Outbound
