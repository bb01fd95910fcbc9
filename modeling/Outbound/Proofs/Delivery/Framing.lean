import Outbound.Proofs.Stream.Records

namespace Outbound

open Outbound.Stream (feedLines)

namespace Stream

/-- The bytes of printable texts are parted by the line feeds between them, and an empty rest
follows the last one. -/
theorem splitOn_feedLines {texts : List String} (h : ∀ text ∈ texts, Printable text.toList) :
    (utf8Bytes (feedLines texts)).splitOn 10 = texts.map utf8Bytes ++ [[]] := by
  induction texts with
  | nil => rfl
  | cons text texts ih =>
    obtain ⟨htext, hrest⟩ := List.forall_mem_cons.mp h
    have hfeed : (10 : UInt8) ∉ utf8Bytes text := by
      intro hmem
      exact absurd (le_of_mem_utf8Bytes htext hmem) (by decide)
    rw [utf8Bytes_feedLines_cons, List.splitOn_append_cons_self_of_not_mem hfeed, ih hrest]
    rfl

end Stream

namespace Sink

variable {σ : Type}

/-- Gives payloads to a sink one after the other, whatever it answers. -/
def acceptAll (sink : Sink σ) (state : σ) :
    List (Destination × Payload) → Traced (σ × List (Except Failure Unit))
  | [] => pure (state, [])
  | (d, p) :: rest => do
    let (next, answer) ← sink.accept state d p
    let (last, answers) ← sink.acceptAll next rest
    return (last, answer :: answers)

theorem value_acceptAll_cons (sink : Sink σ) (state : σ) (d : Destination) (p : Payload)
    (rest : List (Destination × Payload)) :
    (sink.acceptAll state ((d, p) :: rest)).value =
      ((sink.acceptAll (sink.accept state d p).value.1 rest).value.1,
        (sink.accept state d p).value.2 ::
          (sink.acceptAll (sink.accept state d p).value.1 rest).value.2) := rfl

theorem value_acceptAll_append (sink : Sink σ) (state : σ)
    (first second : List (Destination × Payload)) :
    (sink.acceptAll state (first ++ second)).value =
      ((sink.acceptAll (sink.acceptAll state first).value.1 second).value.1,
        (sink.acceptAll state first).value.2 ++
          (sink.acceptAll (sink.acceptAll state first).value.1 second).value.2) := by
  induction first generalizing state with
  | nil => rfl
  | cons call first ih =>
    obtain ⟨d, p⟩ := call
    rw [List.cons_append, value_acceptAll_cons, value_acceptAll_cons, ih]
    rfl

/-- The record that is written for a payload, where that has a JSON form. -/
def encoded? (encode : Encoder) (call : Destination × Payload) : Option (Destination × Json) :=
  (encode call.2.event).toOption.map fun v => (call.1, v)

theorem encoded?_eq_some_iff {encode : Encoder} {call : Destination × Payload}
    {r : Destination × Json} :
    encoded? encode call = some r ↔ r.1 = call.1 ∧ encode call.2.event = .ok r.2 := by
  obtain ⟨d, v⟩ := r
  unfold encoded?
  cases encode call.2.event <;> simp [Except.toOption, eq_comm]

/-- The lines that are written for payloads given one after the other. -/
def writtenLines (encode : Encoder) (calls : List (Destination × Payload)) : List String :=
  (calls.filterMap (encoded? encode)).map fun r => (jsonRecord r.1 r.2).render

section

variable {ω : Type} {w : Writer ω} {written : ω → String} {encode : Encoder}

theorem accept_jsonLines_of_error {p : Payload} {e : Failure} (h : encode p.event = .error e)
    (state : ω) (d : Destination) :
    (jsonLines encode w).accept state d p = pure (state, .error e) := by
  simp [jsonLines, h]

theorem accept_jsonLines_of_ok (hw : w.Keeps written) {p : Payload} {v : Json}
    (h : encode p.event = .ok v) (state : ω) (d : Destination) :
    ∃ next, (jsonLines encode w).accept state d p = pure (next, .ok ()) ∧
      written next = written state ++ ((jsonRecord d v).render ++ "\n") := by
  obtain ⟨next, hline, hnext⟩ := hw.writeLine state (jsonRecord d v).render
  exact ⟨next, by simp [jsonLines, h, hline], hnext⟩

/-- Each payload with a JSON form adds its line, and the others add nothing. -/
theorem value_acceptAll_jsonLines (hw : w.Keeps written) (encode : Encoder) (state : ω)
    (calls : List (Destination × Payload)) :
    ∃ stop, ((jsonLines encode w).acceptAll state calls).value =
        (stop, calls.map fun call => (encode call.2.event).map fun _ => ()) ∧
      written stop = written state ++ feedLines (writtenLines encode calls) := by
  induction calls generalizing state with
  | nil => exact ⟨state, rfl, by simp [writtenLines, feedLines]⟩
  | cons call rest ih =>
    obtain ⟨d, p⟩ := call
    rw [value_acceptAll_cons]
    cases h : encode p.event with
    | error e =>
      obtain ⟨stop, hvalue, hstop⟩ := ih state
      refine ⟨stop, ?_, ?_⟩
      · simp only [accept_jsonLines_of_error h, Traced.value_pure, hvalue, List.map_cons, h]
        rfl
      · rw [hstop]
        simp [writtenLines, encoded?, h, Except.toOption]
    | ok v =>
      obtain ⟨next, hline, hnext⟩ := accept_jsonLines_of_ok hw h state d
      obtain ⟨stop, hvalue, hstop⟩ := ih next
      refine ⟨stop, ?_, ?_⟩
      · simp only [hline, Traced.value_pure, hvalue, List.map_cons, h]
        rfl
      · rw [hstop, hnext]
        simp [writtenLines, encoded?, h, Except.toOption, feedLines, String.append_assoc]

theorem printable_writtenLines (encode : Encoder) (calls : List (Destination × Payload)) :
    ∀ line ∈ writtenLines encode calls, Printable line.toList :=
  List.forall_mem_map.mpr fun r _ => printable_jsonRecord r.1 r.2

end

/-- The JSON value that a line of bytes holds. -/
def lineValue? (line : List UInt8) : Option Json :=
  (String.fromUTF8? ⟨line.toArray⟩).bind Json.parse?

/-- Destination and payload of an object that has these two members and no others. -/
def record? : Json → Option (Destination × Json)
  | .object [("payload", v), ("target", .string s)] =>
    (Destination.ofText s).toOption.map fun d => (d, v)
  | _ => none

/-- The records on the lines of an output. -/
def readRecords (bytes : List UInt8) : Option (List (Destination × Json)) :=
  (bytes.splitOn 10).dropLast.mapM fun line => (lineValue? line).bind record?

theorem record?_jsonRecord (d : Destination) (v : Json) : record? (jsonRecord d v) = some (d, v) := by
  have htext : Destination.ofText d.text = .ok d := Destination.ofText_eq_ok_iff.mpr rfl
  simp [record?, jsonRecord, Destination.toJson, htext, Except.toOption]

theorem lineValue?_jsonRecord (d : Destination) {v : Json} (hv : v.Canonical (Json.maxDepth - 1))
    (hint : v.Integral) : lineValue? (utf8Bytes (jsonRecord d v).render) = some (jsonRecord d v) := by
  rw [lineValue?, fromUTF8?_utf8Bytes]
  exact parse?_jsonRecord d hv hint

theorem mapM_record? {records : List (Destination × Json)}
    (h : ∀ r ∈ records,
      lineValue? (utf8Bytes (jsonRecord r.1 r.2).render) = some (jsonRecord r.1 r.2)) :
    (records.map fun r => utf8Bytes (jsonRecord r.1 r.2).render).mapM
      (fun line => (lineValue? line).bind record?) = some records := by
  induction records with
  | nil => rfl
  | cons r rest ih =>
    obtain ⟨hr, hrest⟩ := List.forall_mem_cons.mp h
    rw [List.map_cons, List.mapM_cons, ih hrest, hr, Option.bind_some, record?_jsonRecord]
    rfl

/-- Payloads that are given to a sink of JSON lines, one after the other, are written without loss.
A payload is taken just where it has a JSON form, and else nothing becomes of it. The line feeds
part what is written into one line for each payload that was taken; that line holds an object of its
payload and its destination, so that all records are read back in order. -/
theorem acceptAll_jsonLines {ω : Type} {w : Writer ω} {written : ω → String} (hw : w.Keeps written)
    (encode : Encoder) (start : ω) (calls : List (Destination × Payload)) :
    ∃ stop text lines,
      ((jsonLines encode w).acceptAll start calls).value =
        (stop, calls.map fun call => (encode call.2.event).map fun _ => ()) ∧
      (∀ before call after e, calls = before ++ call :: after →
        encode call.2.event = .error e →
        ((jsonLines encode w).acceptAll start (before ++ [call])).value.1 =
          ((jsonLines encode w).acceptAll start before).value.1) ∧
      written stop = written start ++ text ∧
      (utf8Bytes text).splitOn 10 = lines ++ [[]] ∧
      lines.length = (calls.filterMap (encoded? encode)).length ∧
      ((∀ call ∈ calls, ∀ v, encode call.2.event = .ok v →
          v.Canonical (Json.maxDepth - 1) ∧ v.Integral) →
        lines.map lineValue? = (calls.filterMap (encoded? encode)).map (fun r =>
          some (.object [("payload", r.2), ("target", .string r.1.text)])) ∧
        readRecords (utf8Bytes text) = some (calls.filterMap (encoded? encode))) := by
  obtain ⟨stop, hvalue, hstop⟩ := value_acceptAll_jsonLines hw encode start calls
  have hsplit := Stream.splitOn_feedLines (printable_writtenLines encode calls)
  refine ⟨stop, _, _, hvalue, ?_, hstop, hsplit, ?_, ?_⟩
  · intro before call after e _ he
    rw [value_acceptAll_append]
    change ((jsonLines encode w).accept _ call.1 call.2).value.1 = _
    rw [accept_jsonLines_of_error he]
    rfl
  · simp [writtenLines]
  · intro hfit
    have hfits : ∀ r ∈ calls.filterMap (encoded? encode),
        lineValue? (utf8Bytes (jsonRecord r.1 r.2).render) = some (jsonRecord r.1 r.2) := by
      intro r hr
      obtain ⟨call, hcall, hencoded⟩ := List.mem_filterMap.mp hr
      obtain ⟨hcanonical, hint⟩ := hfit call hcall r.2 (encoded?_eq_some_iff.mp hencoded).2
      exact lineValue?_jsonRecord r.1 hcanonical hint
    constructor
    · rw [writtenLines, List.map_map, List.map_map]
      exact List.map_congr_left hfits
    · unfold readRecords
      rw [hsplit, List.dropLast_concat, writtenLines, List.map_map]
      exact mapM_record? hfits

/-- An encoder without a form for truth values. -/
def withoutBools : Encoder := fun e =>
  match e.content with
  | .bool _ => .error (.ofMessage "truth values have no form")
  | _ => Encoder.plain e

/-- A value for a destination of two lines, a payload without a form, and a text of two lines. -/
def mixedCalls : List (Destination × Payload) :=
  [(⟨"a\n\"b", by decide⟩, .made (.ofContent (.json (.array [.ofInt 1, .ofInt (-2)])))),
    (⟨"b", by decide⟩, .made (.ofContent (.bool true))),
    (⟨"é", by decide⟩, .made (.ofContent (.text "x\ny")))]

/-- The second payload is refused, and the other two are read back. -/
theorem acceptAll_jsonLines_mixedCalls :
    ∃ text, ((jsonLines withoutBools .memory).acceptAll "" mixedCalls).value =
        (text, [.ok (), .error (.ofMessage "truth values have no form"), .ok ()]) ∧
      readRecords (utf8Bytes text) =
        some [(⟨"a\n\"b", by decide⟩, .array [.ofInt 1, .ofInt (-2)]),
          (⟨"é", by decide⟩, .string "x\ny")] := by
  obtain ⟨stop, text, _, hvalue, _, hstop, _, _, hread⟩ :=
    acceptAll_jsonLines Writer.memory_keeps withoutBools "" mixedCalls
  have hsame : stop = text := by simpa using hstop
  subst hsame
  refine ⟨stop, hvalue, (hread ?_).2⟩
  have hnumbers : (Json.array [.ofInt 1, .ofInt (-2)]).Canonical (Json.maxDepth - 1) ∧
      (Json.array [.ofInt 1, .ofInt (-2)]).Integral := by
    constructor
    · refine .array fun v hv => ?_
      simp only [List.mem_cons, List.not_mem_nil, or_false] at hv
      rcases hv with rfl | rfl
      · exact .number fun n hn => by cases hn; exact ⟨by decide, by decide⟩
      · exact .number fun n hn => by cases hn; exact ⟨by decide, by decide⟩
    · refine .array fun v hv => ?_
      simp only [List.mem_cons, List.not_mem_nil, or_false] at hv
      rcases hv with rfl | rfl <;> exact .int
  intro call hcall v hv
  simp only [mixedCalls, List.mem_cons, List.not_mem_nil, or_false] at hcall
  rcases hcall with rfl | rfl | rfl
  · cases hv
    exact hnumbers
  · cases hv
  · cases hv
    exact ⟨.string, .string⟩

end Sink

end Outbound
