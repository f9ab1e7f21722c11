import Asm16.Proofs.Lines
import Asm16.Proofs.Runs

set_option autoImplicit false

namespace Asm16

namespace Tray

def holding (t : Tray) (words : List String) : Tray := { t with words := t.words ++ words.toArray }

def HasRoom (t : Tray) (count : Nat) : Prop := ∀ n, t.capacity = some n → t.words.size + count ≤ n

theorem put_room (t : Tray) (word : String) (room : t.HasRoom 1) :
    WordSink.put t word = (t.holding [word], none) := by
  have notFull : t.isFull = false := by
    unfold isFull
    cases limit : t.capacity with
    | none => rfl
    | some n =>
      have below := room n limit
      exact decide_eq_false (by omega)
  change t.put word = _
  simp [put, notFull, holding]

theorem put_full (t : Tray) (word : String) (full : t.capacity = some t.words.size) :
    WordSink.put t word = (t, some .sinkFull) := by
  change t.put word = _
  simp [put, isFull, full]

theorem putAll_room (t : Tray) (words : List String) (room : t.HasRoom words.length) :
    WordSink.putAll t words = (t.holding words, none) := by
  induction words generalizing t with
  | nil => simp [WordSink.putAll, holding]
  | cons word rest ih =>
    have first : t.HasRoom 1 := by
      intro n limit
      have total := room n limit
      rw [List.length_cons] at total
      omega
    have others : (t.holding [word]).HasRoom rest.length := by
      intro n limit
      have total := room n limit
      rw [List.length_cons] at total
      simp only [holding, Array.size_append, List.size_toArray, List.length_cons, List.length_nil]
      omega
    simp only [WordSink.putAll, put_room t word first, ih _ others]
    simp [holding]

end Tray

def sourceRows (bytes : List UInt8) : List Row :=
  listing 1 (Text.leadingTexts (Text.sourceLines bytes))

namespace Run

theorem readLines_leading (bytes : List UInt8) :
    ∃ rest, Text.readLines bytes =
      (Text.leadingTexts (Text.sourceLines bytes)).map .ok ++ rest := by
  rw [Text.readLines_cut]
  by_cases valid : ∀ line ∈ Text.sourceLines bytes, line.toByteArray.IsValidUTF8
  · exact ⟨[], by rw [Text.decode_texts _ valid, List.append_nil]⟩
  · push Not at valid
    obtain ⟨rest, decoded⟩ := Text.decode_up_to_invalid _ valid
    exact ⟨_, decoded⟩

theorem ofBytes_overfull (bytes : List UInt8) (n : Nat) (jammed : Bool)
    (full : n < (rowWords (sourceRows bytes)).length) :
    ∃ before row later hex, sourceRows bytes = before ++ row :: later ∧ row.hex = some hex ∧
      (rowWords before).length = n ∧
      ofBytes { capacity := some n, jammed } bytes =
        ⟨.error (.write .sinkFull), before,
          Tray.holding { capacity := some n, jammed } (rowWords before)⟩ := by
  obtain ⟨rest, read⟩ := readLines_leading bytes
  obtain ⟨before, line, later, hex, texts, solid, count, word⟩ := listing_split_at_word 1 n _ full
  let tray : Tray := { capacity := some n, jammed }
  have room : tray.HasRoom (rowWords (listing 1 before)).length := by
    intro limit same
    cases same
    simp [tray, count]
  have refused : WordSink.put (tray.holding (rowWords (listing 1 before))) hex =
      (tray.holding (rowWords (listing 1 before)), some .sinkFull) := by
    apply Tray.put_full
    simp [Tray.holding, tray, count]
  refine ⟨listing 1 before, Row.ofLine (1 + (listing 1 before).length) line,
    listing (1 + (listing 1 before).length + 1) later, hex, ?_, word, count, ?_⟩
  · rw [sourceRows, texts, listing_append, listing_written _ line later solid]
  · rw [ofBytes, start, read, texts, List.map_append, List.append_assoc, List.map_cons,
      List.cons_append, resume_texts {} tray _ before _ (Tray.putAll_room tray _ room),
      resume_refused _ _ _ line hex _ .sinkFull solid ?_ refused]
    · simp only [reportAll, stop, List.append_nil]
      rfl
    · simpa [Summary.count, Nat.add_comm] using word

section Taken

variable {σ : Type} [WordSink σ] (bytes : List UInt8) (sink after : σ)
  (taken : WordSink.putAll sink (rowWords (sourceRows bytes)) = (after, none))

include taken

theorem ofBytes_taken (rest : List (Except Fault String))
    (read : Text.readLines bytes =
      (Text.leadingTexts (Text.sourceLines bytes)).map .ok ++ rest) :
    ofBytes sink bytes =
      (resume (Summary.count {} (sourceRows bytes)) after rest).reportAll (sourceRows bytes) := by
  rw [ofBytes, start, read]
  exact resume_texts {} sink after _ rest taken

theorem ofBytes_taken_invalid
    (invalid : ∃ line ∈ Text.sourceLines bytes, ¬ line.toByteArray.IsValidUTF8) :
    ofBytes sink bytes = ⟨.error (.read .invalidUtf8), sourceRows bytes, after⟩ := by
  obtain ⟨rest, decoded⟩ := Text.decode_up_to_invalid _ invalid
  rw [ofBytes_taken bytes sink after taken _ ((Text.readLines_cut bytes).trans decoded)]
  simp [resume, stop, reportAll]

theorem ofBytes_taken_texts
    (valid : ∀ line ∈ Text.sourceLines bytes, line.toByteArray.IsValidUTF8) :
    ofBytes sink bytes =
      (finish (Summary.count {} (sourceRows bytes)) after).reportAll (sourceRows bytes) := by
  have decoded := (Text.readLines_cut bytes).trans (Text.decode_texts _ valid)
  exact ofBytes_taken bytes sink after taken [] (decoded.trans (List.append_nil _).symm)

end Taken

theorem ofBytes_invalid (bytes : List UInt8) (tray : Tray)
    (room : tray.HasRoom (rowWords (sourceRows bytes)).length)
    (invalid : ∃ line ∈ Text.sourceLines bytes, ¬ line.toByteArray.IsValidUTF8) :
    ofBytes tray bytes =
      ⟨.error (.read .invalidUtf8), sourceRows bytes,
        tray.holding (rowWords (sourceRows bytes))⟩ :=
  ofBytes_taken_invalid bytes tray _ (Tray.putAll_room tray _ room) invalid

theorem ofBytes_texts (bytes : List UInt8) (tray : Tray)
    (room : tray.HasRoom (rowWords (sourceRows bytes)).length)
    (valid : ∀ line ∈ Text.sourceLines bytes, line.toByteArray.IsValidUTF8) :
    ofBytes tray bytes =
      ⟨if tray.jammed then .error (.write .sinkClosed)
        else .ok (Summary.count {} (sourceRows bytes)),
        sourceRows bytes,
        { tray.holding (rowWords (sourceRows bytes)) with closed := true }⟩ := by
  rw [ofBytes_taken_texts bytes tray _ (Tray.putAll_room tray _ room) valid]
  cases jam : tray.jammed <;>
    simp [finish, WordSink.close, Tray.close, Tray.holding, jam, stop, reportAll]

/-- A full tray ends the run first, then a line that is no text, then a jammed tray. -/
theorem tray_run_exact (bytes : List UInt8) (capacity : Option Nat) (jammed : Bool) :
    let rows := sourceRows bytes
    let words := rowWords rows
    let run := ofBytes ({ capacity, jammed } : Tray) bytes
    (∀ n, capacity = some n → n < words.length →
      run.result = .error (.write .sinkFull) ∧
      (∃ row hex later, rows = run.rows ++ row :: later ∧ row.hex = some hex ∧
        (rowWords run.rows).length = n) ∧
      run.sink.words.toList = words.take n ∧ run.sink.closed = false) ∧
    ((∀ n, capacity = some n → words.length ≤ n) →
      run.rows = rows ∧ run.sink.words.toList = words ∧
      ((∃ line ∈ Text.sourceLines bytes, ¬ line.toByteArray.IsValidUTF8) →
        run.result = .error (.read .invalidUtf8) ∧ run.sink.closed = false) ∧
      ((∀ line ∈ Text.sourceLines bytes, line.toByteArray.IsValidUTF8) →
        run.sink.closed = true ∧
        run.result =
          if jammed then .error (.write .sinkClosed)
          else .ok ⟨rows.length, rows.countP Row.accepted, rows.countP (!·.accepted)⟩)) := by
  intro rows words run
  constructor
  · rintro n rfl full
    obtain ⟨before, row, later, hex, split, word, count, ended⟩ :=
      ofBytes_overfull bytes n jammed full
    have taken : rowWords before = words.take n := by
      have parts : words = rowWords before ++ rowWords (row :: later) := by
        rw [← rowWords_append, ← split]
      rw [parts, List.take_left' count]
    simp only [run, ended]
    exact ⟨trivial, ⟨row, hex, later, split, word, count⟩, by simp [Tray.holding, taken], rfl⟩
  · intro enough
    have room : ({ capacity, jammed } : Tray).HasRoom words.length := by
      intro n limit
      simpa using enough n limit
    by_cases valid : ∀ line ∈ Text.sourceLines bytes, line.toByteArray.IsValidUTF8
    · have ended : run = _ := ofBytes_texts bytes _ room valid
      rw [ended]
      refine ⟨rfl, by simp [Tray.holding, words, rows], ?_, fun _ => ⟨rfl, ?_⟩⟩
      · rintro ⟨line, member, invalid⟩
        exact absurd (valid line member) invalid
      · simp [Summary.count, rows]
    · have invalid : ∃ line ∈ Text.sourceLines bytes, ¬ line.toByteArray.IsValidUTF8 := by
        simpa using valid
      have ended : run = _ := ofBytes_invalid bytes _ room invalid
      rw [ended]
      exact ⟨rfl, by simp [Tray.holding, words, rows], fun _ => ⟨rfl, rfl⟩,
        fun all => absurd all valid⟩

theorem tray_run_three_endings :
    let source := Text.utf8 "nop\nBAD\r\n\nLI R7,-1\n" ++ [255]
    ((ofBytes ({ capacity := some 1 } : Tray) source).result = .error (.write .sinkFull) ∧
      (ofBytes ({ capacity := some 1 } : Tray) source).sink.words.toList =
        (rowWords (sourceRows source)).take 1) ∧
    ((ofBytes ({ capacity := some 2 } : Tray) source).result = .error (.read .invalidUtf8) ∧
      (ofBytes ({ capacity := some 2 } : Tray) source).rows = sourceRows source) ∧
    (ofBytes ({ jammed := true } : Tray) (Text.utf8 "nop")).result =
      .error (.write .sinkClosed) := by
  intro source
  have overfull := (tray_run_exact source (some 1) false).1 1 rfl (by decide)
  have broken := (tray_run_exact source (some 2) false).2 (by rintro n ⟨⟩; decide)
  have stuck := (tray_run_exact (Text.utf8 "nop") none true).2 (by rintro n ⟨⟩)
  exact ⟨⟨overfull.1, overfull.2.2.1⟩, ⟨(broken.2.2.1 (by decide)).1, broken.1⟩,
    (stuck.2.2.2 (by decide)).2⟩

end Run

end Asm16
