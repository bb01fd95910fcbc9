import Outbound.Proofs.Json.TrailingReturn
import Outbound.Proofs.Stream.Concatenation
import Outbound.Proofs.Stream.OutputLines

namespace Outbound

theorem utf8Bytes_append_return (s : String) : utf8Bytes (s ++ "\r") = utf8Bytes s ++ [13] := by
  have hreturn : utf8Bytes "\r" = [13] := by decide +kernel
  rw [utf8Bytes_append, hreturn]

theorem utf8EncodeChar_ne_nil (c : Char) : String.utf8EncodeChar c ≠ [] := by
  have hlength := String.length_utf8EncodeChar c
  have hpos := c.utf8Size_pos
  exact List.ne_nil_of_length_pos (by omega)

/-- A carriage return is a character by itself, so that no text is cut before it. -/
theorem exists_of_utf8Bytes_eq_append_return {t : String} {bytes : List UInt8}
    (h : utf8Bytes t = bytes ++ [13]) : ∃ s, utf8Bytes s = bytes := by
  rw [utf8Bytes_eq_flatMap] at h
  have hne : t.toList ≠ [] := by
    intro hnil
    simp [hnil] at h
  obtain ⟨before, c, hsplit⟩ : ∃ before c, t.toList = before ++ [c] :=
    ⟨_, _, (List.dropLast_append_getLast hne).symm⟩
  rw [hsplit, List.flatMap_append, List.flatMap_singleton] at h
  have hlast : (String.utf8EncodeChar c).getLast? = some 13 := by
    have hend := congrArg List.getLast? h
    rw [List.getLast?_append_of_ne_nil _ (utf8EncodeChar_ne_nil c), List.getLast?_concat] at hend
    exact hend
  have hencode := (eq_of_mem_utf8EncodeChar (List.mem_of_getLast? hlast) (by decide)).1
  rw [hencode] at h
  refine ⟨String.ofList before, ?_⟩
  rw [utf8Bytes_eq_flatMap, String.toList_ofList]
  exact List.append_cancel_right h

theorem fromUTF8?_append_return (line : List UInt8) :
    String.fromUTF8? ⟨(line ++ [13]).toArray⟩ =
      (String.fromUTF8? ⟨line.toArray⟩).map (· ++ "\r") := by
  cases hline : String.fromUTF8? ⟨line.toArray⟩ with
  | some s =>
    have hbytes := fromUTF8?_eq_some_iff.mp hline
    rw [Option.map_some, fromUTF8?_eq_some_iff, utf8Bytes_append_return, hbytes]
  | none =>
    cases hreturn : String.fromUTF8? ⟨(line ++ [13]).toArray⟩ with
    | none => rfl
    | some t =>
      obtain ⟨s, hs⟩ := exists_of_utf8Bytes_eq_append_return (fromUTF8?_eq_some_iff.mp hreturn)
      rw [fromUTF8?_eq_some_iff.mpr hs] at hline
      simp at hline

theorem isBlank_append_return (s : String) : isBlank (s ++ "\r") = isBlank s := by
  have hreturn : isWhiteSpace '\r' = true := by decide
  simp [isBlank, String.toList_append, hreturn]

/-- The same failure of a stream where lines were put in after some of its lines. -/
def StreamError.moved (after count : Nat) : StreamError → StreamError
  | malformed line => malformed (if after < line then line + count else line)
  | e => e

namespace Stream

/-- A carriage return at the end of a line is white space in the line and in an event alike. -/
theorem readLine_append_return (number : Nat) (line : List UInt8) :
    readLine number (line ++ [13]) = readLine number line := by
  unfold readLine
  rw [fromUTF8?_append_return]
  cases String.fromUTF8? ⟨line.toArray⟩ with
  | none => rfl
  | some s => simp only [Option.map_some, isBlank_append_return, StreamEvent.parse?_append_return]

theorem readLine_stripReturn (number : Nat) (line : List UInt8) :
    readLine number (stripReturn line) = readLine number line := by
  unfold stripReturn
  split
  next h =>
    obtain ⟨before, rfl⟩ := List.getLast?_eq_some_iff.mp h
    rw [List.dropLast_concat, readLine_append_return]
  next => rfl

/-- Nothing is read from the line. -/
def Skipped (line : List UInt8) : Prop :=
  ∀ number, readLine number line = .ok none

theorem skipped_of_blank {s : String} (h : isBlank s = true) : Skipped (utf8Bytes s) := by
  intro number
  unfold readLine
  rw [fromUTF8?_utf8Bytes]
  exact if_pos h

/-- Each line feed gets a carriage return before it. -/
def withReturns (bytes : List UInt8) : List UInt8 :=
  bytes.flatMap fun b => if b = 10 then [13, 10] else [b]

theorem withReturns_line {line : List UInt8} (h : 10 ∉ line) : withReturns line = line := by
  have hsingle : ∀ b ∈ line, (if b = 10 then [13, 10] else [b]) = [b] := fun b hb =>
    if_neg fun heq : b = 10 => h (heq ▸ hb)
  unfold withReturns
  rw [List.flatMap_congr hsingle, List.flatMap_singleton']

theorem withReturns_feed {line : List UInt8} (h : 10 ∉ line) (rest : List UInt8) :
    withReturns (line ++ 10 :: rest) = (line ++ [13]) ++ 10 :: withReturns rest := by
  have hline := withReturns_line h
  unfold withReturns at hline ⊢
  rw [List.flatMap_append, hline, List.flatMap_cons]
  simp

/-- Both lines are read alike, whatever their number. -/
def ReadAlike (line other : List UInt8) : Prop :=
  ∀ number, readLine number line = readLine number other

theorem lines_withReturns (bytes : List UInt8) :
    List.Forall₂ ReadAlike (lines (withReturns bytes)) (lines bytes) := by
  induction bytes using feed_induction with
  | last line hline =>
    rw [withReturns_line hline]
    exact List.forall₂_same.mpr fun _ _ _ => rfl
  | feed line rest hline ih =>
    have hreturn : 10 ∉ line ++ [13] := by simpa using hline
    rw [withReturns_feed hline, lines_append_feed hreturn, lines_append_feed hline,
      stripReturn_append_return]
    exact .cons (fun number => (readLine_stripReturn number line).symm) ih

section

variable {σ : Type} (d : Dispatcher σ) (log : LogFilter)

/-- Nothing but what is read from the lines bears on a run. -/
theorem dispatchLines_congr {first second : List (List UInt8)}
    (h : List.Forall₂ ReadAlike first second) (number : Nat) (state : σ) (tally : Tally) :
    dispatchLines d log number first state tally =
      dispatchLines d log number second state tally := by
  induction h generalizing number state tally with
  | nil => rfl
  | cons hline _ ih =>
    rw [dispatchLines, dispatchLines, hline number]
    simp only [ih]

theorem dispatchLines_of_blank {blank : List (List UInt8)}
    (h : ∀ line ∈ blank, Skipped line) (number : Nat) (rest : List (List UInt8)) (state : σ)
    (tally : Tally) :
    dispatchLines d log number (blank ++ rest) state tally =
      dispatchLines d log (number + blank.length) rest state tally := by
  induction blank generalizing number with
  | nil => rfl
  | cons line blank ih =>
    obtain ⟨hline, hblank⟩ := List.forall_mem_cons.mp h
    have hcount : number + 1 + blank.length = number + (line :: blank).length := by
      rw [List.length_cons]
      omega
    rw [List.cons_append, dispatchLines, hline number, ← hcount]
    exact ih hblank (number + 1)

/-- Line numbers bear on nothing but the number in a failure. -/
theorem dispatchLines_renumber {f : StreamError → StreamError} (htext : f .notText = .notText)
    (hdelivery : ∀ e, f (.delivery e) = .delivery e) {number number' : Nat}
    {lines : List (List UInt8)}
    (h : ∀ i < lines.length, f (.malformed (number + i)) = .malformed (number' + i))
    (state : σ) (tally : Tally) :
    dispatchLines d log number' lines state tally =
      (fun r => (r.1, r.2.mapError f)) <$> dispatchLines d log number lines state tally := by
  induction lines generalizing number number' state tally with
  | nil => rfl
  | cons line rest ih =>
    have hhead : f (.malformed number) = .malformed number' := h 0 (Nat.succ_pos rest.length)
    have hrest : ∀ i < rest.length,
        f (.malformed (number + 1 + i)) = .malformed (number' + 1 + i) := by
      intro i hi
      have hnext := h (i + 1) (by simpa using hi)
      rwa [Nat.add_comm i, ← Nat.add_assoc, ← Nat.add_assoc] at hnext
    rw [dispatchLines, dispatchLines, readLine_renumber htext hhead line]
    cases readLine number line with
    | error e => rfl
    | ok event? =>
      cases event? with
      | none => exact ih hrest state tally
      | some event =>
        simp only [Except.mapError]
        rw [map_bind]
        congr 1
        funext r
        obtain ⟨next, result⟩ := r
        cases result with
        | error e => simp [hdelivery]
        | ok delivered => exact ih hrest next _

/-- Lines that nothing is read from move the lines after them on, and are else without effect. -/
theorem dispatchLines_moved (first : List (List UInt8)) {blank : List (List UInt8)}
    (h : ∀ line ∈ blank, Skipped line) (second : List (List UInt8)) (state : σ) (tally : Tally) :
    dispatchLines d log 1 (first ++ (blank ++ second)) state tally =
      (fun r => (r.1, r.2.mapError (·.moved first.length blank.length))) <$>
        dispatchLines d log 1 (first ++ second) state tally := by
  have hbefore : ∀ i < first.length,
      StreamError.moved first.length blank.length (.malformed (1 + i)) = .malformed (1 + i) := by
    intro i hi
    exact congrArg StreamError.malformed (if_neg (by omega))
  have hafter : ∀ i < second.length,
      StreamError.moved first.length blank.length (.malformed (1 + first.length + i)) =
        .malformed (1 + first.length + blank.length + i) := by
    intro i _
    rw [Nat.add_right_comm _ blank.length]
    exact congrArg StreamError.malformed (if_pos (by omega))
  have hfirst := dispatchLines_renumber d log rfl (fun _ => rfl) hbefore state tally
  rw [dispatchLines_append, dispatchLines_append, map_bind]
  -- The first lines keep their numbers, so that a failure on one of them may be mapped too.
  conv_lhs => rw [hfirst, bind_map_left]
  congr 1
  funext r
  obtain ⟨next, result⟩ := r
  cases result with
  | error e => rfl
  | ok more =>
    have hsecond := dispatchLines_renumber d log rfl (fun _ => rfl) hafter next more
    simp only [Except.mapError, dispatchLines_of_blank d log h, hsecond]

theorem dispatchLines_append_blank {blank : List (List UInt8)}
    (h : ∀ line ∈ blank, Skipped line) (number : Nat) (first : List (List UInt8)) (state : σ)
    (tally : Tally) :
    dispatchLines d log number (first ++ blank) state tally =
      dispatchLines d log number first state tally := by
  have hrest : ∀ n (next : σ) more,
      dispatchLines d log n blank next more = pure (next, .ok more) := by
    intro n next more
    have hblank := dispatchLines_of_blank d log h n [] next more
    rw [List.append_nil] at hblank
    exact hblank
  rw [dispatchLines_append]
  conv_rhs => rw [← bind_pure (dispatchLines d log number first state tally)]
  congr 1
  funext r
  obtain ⟨next, result⟩ := r
  cases result with
  | error e => rfl
  | ok more => exact hrest _ next more

/-- The line feed of the last line may be missing. -/
theorem dispatchLines_feed (bytes : List UInt8) (number : Nat) (state : σ) (tally : Tally) :
    dispatchLines d log number (lines (bytes ++ [10])) state tally =
      dispatchLines d log number (lines bytes) state tally := by
  induction bytes using feed_induction generalizing number state tally with
  | last line hline =>
    have hempty : readLine number [] = .ok none := skipped_of_blank isBlank_empty number
    rw [lines_append_feed hline]
    by_cases hnil : line = []
    · subst hnil
      rw [show stripReturn [] = [] from rfl, dispatchLines, hempty]
      rfl
    · rw [lines_last hline hnil]
      have halike : ReadAlike (stripReturn line) line := fun n => readLine_stripReturn n line
      exact dispatchLines_congr d log (.cons halike .nil) number state tally
  | feed line rest hline ih =>
    rw [List.append_assoc, List.cons_append, lines_append_feed hline, lines_append_feed hline,
      dispatchLines, dispatchLines]
    simp only [ih]

end

/-- The text is white space on one line. -/
def BlankLine (s : String) : Prop :=
  isBlank s = true ∧ '\n' ∉ s.toList

theorem skipped_of_mem_blankLines {blanks : List String} (h : ∀ s ∈ blanks, BlankLine s) :
    ∀ line ∈ lines (utf8Bytes (feedLines blanks)), Skipped line := by
  rw [lines_feedLines_eq fun s hs => (h s hs).2]
  intro line hline number
  obtain ⟨s, hs, rfl⟩ := List.mem_map.mp hline
  rw [readLine_stripReturn, skipped_of_blank (h s hs).1]

theorem skipped_of_mem_blankLine {s : String} (h : BlankLine s) :
    ∀ line ∈ lines (utf8Bytes s), Skipped line := by
  intro line hline number
  by_cases hnil : utf8Bytes s = []
  · rw [hnil] at hline
    simp [lines] at hline
  · rw [lines_last (not_mem_utf8Bytes h.2) hnil] at hline
    obtain rfl := List.mem_singleton.mp hline
    exact skipped_of_blank h.1 number

/-- A stream is followed in the same way whatever its lines end with and whatever blank lines it
has: a carriage return before each line feed changes neither what is written nor the outcome, and
lines of white space that are put in where a line ends change nothing of these but the number in a
failure on a line after them. At the end of the stream they change nothing, and the last line may be
without a line feed. Failures are compared by their kind and by the number of the line. -/
theorem run_endings {ω : Type} (settings : Settings) (log : LogFilter) (w : Writer ω) (start : ω) :
    (∀ input, run settings log w start (withReturns input) = run settings log w start input) ∧
    (∀ first blanks second, Aligned first → (∀ s ∈ blanks, BlankLine s) →
      run settings log w start (first ++ (utf8Bytes (feedLines blanks) ++ second)) =
        (fun r => (r.1, r.2.mapError (·.moved (first.count 10) blanks.length))) <$>
          run settings log w start (first ++ second)) ∧
    (∀ first blanks last, Aligned first → (∀ s ∈ blanks, BlankLine s) → BlankLine last →
      run settings log w start (first ++ (utf8Bytes (feedLines blanks) ++ utf8Bytes last)) =
        run settings log w start first) ∧
    (∀ input, run settings log w start (input ++ [10]) = run settings log w start input) := by
  unfold run
  cases settings.policy with
  | error e =>
    exact ⟨fun _ => rfl, fun _ _ _ _ _ => rfl, fun _ _ _ _ _ _ => rfl, fun _ => rfl⟩
  | ok policy =>
    refine ⟨?_, ?_, ?_, ?_⟩
    · intro input
      exact dispatchLines_congr _ log (lines_withReturns input) 1 start ⟨0, 0⟩
    · intro first blanks second hfirst hblanks
      have hlength : (lines (utf8Bytes (feedLines blanks))).length = blanks.length := by
        rw [lines_feedLines_eq fun s hs => (hblanks s hs).2, List.length_map]
      have hmoved := dispatchLines_moved ⟨policy, Sink.jsonLines Encoder.body w⟩ log
        (lines first) (skipped_of_mem_blankLines hblanks) (lines second) start ⟨0, 0⟩
      rw [length_lines hfirst, hlength] at hmoved
      simp only [lines_append _ hfirst, lines_append _ (aligned_feedLines blanks)]
      exact hmoved
    · intro first blanks last hfirst hblanks hlast
      have hblank := List.forall_mem_append.mpr
        ⟨skipped_of_mem_blankLines hblanks, skipped_of_mem_blankLine hlast⟩
      simp only [lines_append _ hfirst, lines_append _ (aligned_feedLines blanks)]
      exact dispatchLines_append_blank _ log hblank 1 (lines first) start ⟨0, 0⟩
    · intro input
      exact dispatchLines_feed _ log input 1 start ⟨0, 0⟩

/-- A line that is delivered, two blank lines that are put in after it, and a last line that is no
event and has no line feed. -/
theorem run_endings_malformed_fourth :
    (run singleListing .nothing .memory ""
      (withReturns ("\x7b\"type\":\"a::B\"\x7d\n".toUTF8.toList ++
        (utf8Bytes (feedLines [" ", "\u2003\r"]) ++ "B".toUTF8.toList)))).value =
      ("\x7b\"payload\":null,\"target\":\"B\"\x7d\n", .error (.malformed 4)) := by
  have hplain : (run singleListing .nothing .memory ""
      ("\x7b\"type\":\"a::B\"\x7d\n".toUTF8.toList ++ "B".toUTF8.toList)).value =
      ("\x7b\"payload\":null,\"target\":\"B\"\x7d\n", .error (.malformed 2)) := by decide +kernel
  have haligned : Aligned "\x7b\"type\":\"a::B\"\x7d\n".toUTF8.toList :=
    .inr (by decide +kernel)
  have hblanks : ∀ s ∈ [" ", "\u2003\r"], BlankLine s := by
    intro s hs
    simp only [List.mem_cons, List.not_mem_nil, or_false] at hs
    rcases hs with rfl | rfl <;> exact ⟨by decide +kernel, by decide +kernel⟩
  obtain ⟨hreturns, hinserted, _, _⟩ := run_endings singleListing .nothing .memory ""
  have hmoved := hinserted _ _ "B".toUTF8.toList haligned hblanks
  rw [hreturns, hmoved, map_eq_pure_bind, Traced.value_bind, hplain]
  decide +kernel

end Stream

end Outbound
