namespace Outbound

/-- Sets the value of a key in a list of entries that increases in its keys. -/
def insertEntry {α : Type} (k : String) (v : α) : List (String × α) → List (String × α)
  | [] => [(k, v)]
  | e :: rest =>
    if k < e.1 then (k, v) :: e :: rest
    else if k = e.1 then (k, v) :: rest
    else e :: insertEntry k v rest

/-- The keys of entries increase strictly, so that each key occurs once. -/
def Increasing {α : Type} (entries : List (String × α)) : Prop :=
  (entries.map Prod.fst).Pairwise (· < ·)

theorem mem_keys_insertEntry {α : Type} {k x : String} {v : α} {entries : List (String × α)} :
    x ∈ (insertEntry k v entries).map Prod.fst ↔ x = k ∨ x ∈ entries.map Prod.fst := by
  induction entries with
  | nil => simp [insertEntry]
  | cons e rest ih =>
    unfold insertEntry
    split
    next => simp
    next =>
      split
      next he => simp [he]
      next =>
        rw [List.map_cons, List.mem_cons, ih, List.map_cons, List.mem_cons]
        exact ⟨fun h => by rcases h with h | h | h <;> simp [h],
          fun h => by rcases h with h | h | h <;> simp [h]⟩

theorem increasing_insertEntry {α : Type} (k : String) (v : α) {entries : List (String × α)}
    (h : Increasing entries) : Increasing (insertEntry k v entries) := by
  induction entries with
  | nil => simp [insertEntry, Increasing]
  | cons e rest ih =>
    obtain ⟨hfirst, hrest⟩ := List.pairwise_cons.mp h
    unfold insertEntry
    split
    next hlt =>
      refine List.pairwise_cons.mpr ⟨fun x hx => ?_, h⟩
      rcases List.mem_cons.mp hx with rfl | hx
      · exact hlt
      · exact String.lt_trans hlt (hfirst x hx)
    next hge =>
      split
      next he => exact List.pairwise_cons.mpr ⟨fun x hx => he ▸ hfirst x hx, hrest⟩
      next hne =>
        refine List.pairwise_cons.mpr ⟨fun x hx => ?_, ih hrest⟩
        rcases mem_keys_insertEntry.mp hx with rfl | hx
        · exact Std.lt_of_le_of_ne (Std.not_lt.mp hge) (Ne.symm hne)
        · exact hfirst x hx

theorem lookup_cons_eq {α : Type} (x : String) (e : String × α) (rest : List (String × α)) :
    (e :: rest).lookup x = if x = e.1 then some e.2 else rest.lookup x := by
  obtain ⟨k, v⟩ := e
  rw [List.lookup_cons]
  by_cases hx : x = k
  · simp [hx]
  · simp [hx, beq_eq_false_iff_ne.mpr hx]

theorem lookup_insertEntry {α : Type} (k x : String) (v : α) (entries : List (String × α)) :
    (insertEntry k v entries).lookup x = if x = k then some v else entries.lookup x := by
  induction entries with
  | nil => simp [insertEntry, lookup_cons_eq]
  | cons e rest ih =>
    unfold insertEntry
    split
    next => rw [lookup_cons_eq]
    next =>
      split
      next he =>
        rw [lookup_cons_eq, lookup_cons_eq, ← he]
        split <;> rfl
      next hne =>
        rw [lookup_cons_eq, lookup_cons_eq, ih]
        by_cases hx : x = e.1
        · simp [hx, Ne.symm hne]
        · simp [hx]

/-- A map from texts, kept as entries in increasing order of their keys. -/
structure Keyed (α : Type) where
  entries : List (String × α)
  increasing : Increasing entries

namespace Keyed

variable {α : Type}

def empty : Keyed α := ⟨[], List.Pairwise.nil⟩

def insert (m : Keyed α) (k : String) (v : α) : Keyed α :=
  ⟨insertEntry k v m.entries, increasing_insertEntry k v m.increasing⟩

def get? (m : Keyed α) (k : String) : Option α :=
  m.entries.lookup k

theorem get?_insert (m : Keyed α) (k x : String) (v : α) :
    (m.insert k v).get? x = if x = k then some v else m.get? x :=
  lookup_insertEntry k x v m.entries

def contains (m : Keyed α) (k : String) : Bool :=
  (m.get? k).isSome

def size (m : Keyed α) : Nat :=
  m.entries.length

/-- Inserts from left to right, so that the last of equal keys wins. -/
def ofList (entries : List (String × α)) : Keyed α :=
  entries.foldl (fun m e => m.insert e.1 e.2) empty

instance [BEq α] : BEq (Keyed α) :=
  ⟨fun a b => a.entries == b.entries⟩

end Keyed

end Outbound
