namespace Outbound

/-- What is left of a text after its first `n` bytes, unless these end inside a character. -/
def dropBytes : Nat → List Char → Option (List Char)
  | 0, s => some s
  | _ + 1, [] => none
  | n + 1, c :: s => if c.utf8Size ≤ n + 1 then dropBytes (n + 1 - c.utf8Size) s else none

/-- A cut behind whole characters leaves what follows them. -/
theorem dropBytes_append (front rest : List Char) :
    dropBytes (String.ofList front).utf8ByteSize (front ++ rest) = some rest := by
  induction front with
  | nil => simp [dropBytes]
  | cons c front ih =>
    obtain ⟨k, hk⟩ := Nat.exists_eq_succ_of_ne_zero (Nat.ne_of_gt c.utf8Size_pos)
    have hsize : (String.ofList (c :: front)).utf8ByteSize =
        k + (String.ofList front).utf8ByteSize + 1 := by
      rw [String.ofList_cons, String.utf8ByteSize_append, String.utf8ByteSize_singleton]
      omega
    have hle : c.utf8Size ≤ k + (String.ofList front).utf8ByteSize + 1 := by omega
    have hleft : k + (String.ofList front).utf8ByteSize + 1 - c.utf8Size =
        (String.ofList front).utf8ByteSize := by omega
    rw [hsize, List.cons_append, dropBytes, if_pos hle, hleft]
    exact ih

/-- The first `n` bytes of a text, unless these end inside a character. -/
def takeBytes : Nat → List Char → Option (List Char)
  | 0, _ => some []
  | _ + 1, [] => none
  | n + 1, c :: s =>
    if c.utf8Size ≤ n + 1 then (takeBytes (n + 1 - c.utf8Size) s).map (c :: ·) else none

end Outbound
