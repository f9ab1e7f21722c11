import Asm16.Proofs.Tokens

set_option autoImplicit false

namespace Asm16

section Pieces

theorem separator_induction {motive : List Char → Prop}
    (unbroken : ∀ piece, (∀ c ∈ piece, isSeparator c = false) → motive piece)
    (broken : ∀ piece c rest, (∀ d ∈ piece, isSeparator d = false) → isSeparator c = true →
      motive rest → motive (piece ++ c :: rest))
    (cs : List Char) : motive cs := by
  induction size : cs.length using Nat.strongRecOn generalizing cs with
  | ind n ih =>
    cases found : cs.find? isSeparator with
    | none =>
      apply unbroken
      simpa using found
    | some c =>
      obtain ⟨separates, piece, rest, rfl, solid⟩ := List.find?_eq_some_iff_append.1 found
      have shorter : rest.length < n := by
        simp only [List.length_append, List.length_cons] at size
        omega
      exact broken piece c rest (by simpa using solid) separates (ih rest.length shorter rest rfl)

theorem solidRuns_unbroken (piece : List Char) (solid : ∀ c ∈ piece, isSeparator c = false) :
    solidRuns piece = if piece = [] then [] else [piece] := by
  by_cases empty : piece = []
  · rw [if_pos empty, empty]
    rfl
  · rw [if_neg empty, solidRuns_solid piece empty solid]

theorem solidRuns_eq_nil (cs : List Char) :
    solidRuns cs = [] ↔ ∀ c ∈ cs, isSeparator c = true := by
  induction cs using separator_induction with
  | unbroken piece solid =>
    cases piece with
    | nil => simp [solidRuns]
    | cons c piece => simp [solidRuns_unbroken _ solid, solid c]
  | broken piece c rest solid separates ih =>
    rw [solidRuns_separator _ _ _ separates, List.append_eq_nil_iff, ih]
    cases piece with
    | nil => simp [solidRuns, separates]
    | cons d piece => simp [solidRuns_unbroken _ solid, solid d]

theorem solidRuns_upper (cs : List Char) :
    solidRuns (cs.map Char.toUpper) = (solidRuns cs).map (List.map Char.toUpper) := by
  have upper (piece : List Char) (solid : ∀ c ∈ piece, isSeparator c = false) :
      solidRuns (piece.map Char.toUpper) = (solidRuns piece).map (List.map Char.toUpper) := by
    have still : ∀ c ∈ piece.map Char.toUpper, isSeparator c = false := by
      simpa [isSeparator_toUpper] using solid
    rw [solidRuns_unbroken _ solid, solidRuns_unbroken _ still]
    cases piece <;> simp
  induction cs using separator_induction with
  | unbroken piece solid => exact upper piece solid
  | broken piece c rest solid separates ih =>
    have still : isSeparator c.toUpper = true := by rw [isSeparator_toUpper, separates]
    rw [List.map_append, List.map_cons, solidRuns_separator _ _ _ still,
      solidRuns_separator _ _ _ separates, List.map_append, upper piece solid, ih]

end Pieces

section Places

def solidAt (cs : List Char) (place : Nat) : Bool := cs[place]?.any (!isSeparator ·)

structure Span where
  start : Nat
  stop : Nat
  deriving DecidableEq, Repr

namespace Span

def chars (span : Span) (cs : List Char) : List Char :=
  (cs.drop span.start).take (span.stop - span.start)

def shift (span : Span) (distance : Nat) : Span := ⟨span.start + distance, span.stop + distance⟩

-- The span holds no separator, and would hold one or leave the text if it were longer.
structure IsRun (span : Span) (cs : List Char) : Prop where
  nonempty : span.start < span.stop
  solid : ∀ place, span.start ≤ place → place < span.stop → solidAt cs place = true
  begins : ∀ place, place + 1 = span.start → solidAt cs place = false
  ends : solidAt cs span.stop = false

end Span

structure RunsOf (cs : List Char) (spans : List Span) : Prop where
  ordered : spans.Pairwise fun a b => a.start < b.start
  complete : ∀ span, span ∈ spans ↔ span.IsRun cs

theorem runsOf_unique (cs : List Char) (spans others : List Span) (runs : RunsOf cs spans)
    (otherRuns : RunsOf cs others) : spans = others := by
  have nodup (any : List Span) (ordered : any.Pairwise fun a b => a.start < b.start) :
      any.Nodup :=
    ordered.imp fun before same => absurd before (by simp [same])
  apply List.Perm.eq_of_pairwise _ runs.ordered otherRuns.ordered
  · apply (List.perm_ext_iff_of_nodup (nodup _ runs.ordered) (nodup _ otherRuns.ordered)).2
    intro span
    rw [runs.complete, otherRuns.complete]
  · intro a b _ _ before after
    omega

theorem solidAt_beyond (cs : List Char) (place : Nat) (beyond : cs.length ≤ place) :
    solidAt cs place = false := by
  simp [solidAt, beyond]

theorem solidAt_piece (piece rest : List Char) (solid : ∀ c ∈ piece, isSeparator c = false)
    (place : Nat) (inside : place < piece.length) : solidAt (piece ++ rest) place = true := by
  simp [solidAt, List.getElem?_append_left inside, inside, solid]

section Broken

variable (piece rest : List Char) (c : Char)

theorem solidAt_separator (separates : isSeparator c = true) :
    solidAt (piece ++ c :: rest) piece.length = false := by
  simp [solidAt, separates]

theorem solidAt_shift (place : Nat) :
    solidAt (piece ++ c :: rest) (place + (piece.length + 1)) = solidAt rest place := by
  have behind : piece.length ≤ place + (piece.length + 1) := by omega
  have index : place + (piece.length + 1) - piece.length = place + 1 := by omega
  simp only [solidAt, List.getElem?_append_right behind, index, List.getElem?_cons_succ]

end Broken

-- Where the text is solid from its first place on, that part is the only run to begin there.
theorem isRun_front (cs : List Char) (length : Nat) (span : Span)
    (solid : ∀ place, place < length → solidAt cs place = true)
    (stops : solidAt cs length = false) :
    span.IsRun cs ∧ span.start ≤ length ↔ 0 < length ∧ span = ⟨0, length⟩ := by
  constructor
  · rintro ⟨run, low⟩
    have first := run.solid span.start le_rfl run.nonempty
    have inside : span.start < length := by
      apply Nat.lt_of_le_of_ne low
      intro same
      simp [same, stops] at first
    have start : span.start = 0 := by
      by_contra later
      have before := run.begins (span.start - 1) (by omega)
      simp [solid (span.start - 1) (by omega)] at before
    have stop : span.stop = length := by
      rcases Nat.lt_trichotomy span.stop length with short | same | long
      · have ends := run.ends
        simp [solid _ short] at ends
      · exact same
      · have middle := run.solid length low long
        simp [stops] at middle
    refine ⟨by omega, ?_⟩
    cases span
    simp_all
  · rintro ⟨positive, rfl⟩
    refine ⟨⟨positive, fun place _ inside => solid place inside, ?_, stops⟩, Nat.zero_le _⟩
    intro place before
    cases before

theorem isRun_shift (piece rest : List Char) (c : Char) (separates : isSeparator c = true)
    (span : Span) :
    (span.shift (piece.length + 1)).IsRun (piece ++ c :: rest) ↔ span.IsRun rest := by
  have moved := solidAt_shift piece rest c
  constructor
  · intro run
    refine ⟨Nat.lt_of_add_lt_add_right run.nonempty, ?_, ?_, ?_⟩
    · intro place low high
      rw [← moved]
      exact run.solid _ (Nat.add_le_add_right low _) (Nat.add_lt_add_right high _)
    · intro place before
      rw [← moved]
      apply run.begins
      simp only [Span.shift]
      omega
    · rw [← moved]
      exact run.ends
  · intro run
    refine ⟨Nat.add_lt_add_right run.nonempty _, ?_, ?_, ?_⟩
    · simp only [Span.shift]
      intro place low high
      have place_eq : place = (place - (piece.length + 1)) + (piece.length + 1) := by omega
      rw [place_eq, moved]
      exact run.solid _ (by omega) (by omega)
    · simp only [Span.shift]
      intro place before
      -- The first run of the rest stands behind the separator itself.
      by_cases first : span.start = 0
      · have last : place = piece.length := by omega
        rw [last, solidAt_separator piece rest c separates]
      · have place_eq : place = (place - (piece.length + 1)) + (piece.length + 1) := by omega
        rw [place_eq, moved]
        exact run.begins _ (by omega)
    · exact (moved span.stop).trans run.ends

def pieceSpans (piece : List Char) : List Span :=
  if piece = [] then [] else [⟨0, piece.length⟩]

theorem mem_pieceSpans (piece : List Char) (span : Span) :
    span ∈ pieceSpans piece ↔ 0 < piece.length ∧ span = ⟨0, piece.length⟩ := by
  cases piece <;> simp [pieceSpans]

theorem chars_pieceSpans (piece rest : List Char) :
    (pieceSpans piece).map (·.chars (piece ++ rest)) = if piece = [] then [] else [piece] := by
  cases piece <;> simp [pieceSpans, Span.chars]

theorem chars_shift (piece rest : List Char) (c : Char) (span : Span) :
    (span.shift (piece.length + 1)).chars (piece ++ c :: rest) = span.chars rest := by
  have index : span.start + (piece.length + 1) - piece.length = span.start + 1 := by omega
  have front : piece.drop (span.start + (piece.length + 1)) = [] := by simp; omega
  simp only [Span.chars, Span.shift, Nat.add_sub_add_right, List.drop_append, index, front,
    List.nil_append, List.drop_succ_cons]

theorem runsOf_unbroken (piece : List Char) (solid : ∀ c ∈ piece, isSeparator c = false) :
    RunsOf piece (pieceSpans piece) := by
  constructor
  · unfold pieceSpans
    split <;> simp
  · intro span
    have places := solidAt_piece piece [] solid
    rw [List.append_nil] at places
    have front := isRun_front piece piece.length span places (solidAt_beyond piece _ le_rfl)
    rw [mem_pieceSpans, ← front, and_iff_left_iff_imp]
    intro run
    by_contra beyond
    have first := run.solid span.start le_rfl run.nonempty
    simp [solidAt_beyond piece span.start (by omega)] at first

theorem runsOf_broken (piece rest : List Char) (c : Char) (spans : List Span)
    (solid : ∀ d ∈ piece, isSeparator d = false) (separates : isSeparator c = true)
    (runs : RunsOf rest spans) :
    RunsOf (piece ++ c :: rest)
      (pieceSpans piece ++ spans.map (·.shift (piece.length + 1))) := by
  constructor
  · rw [List.pairwise_append]
    refine ⟨(runsOf_unbroken piece solid).ordered, ?_, ?_⟩
    · rw [List.pairwise_map]
      exact runs.ordered.imp fun before => Nat.add_lt_add_right before _
    · intro a inPiece b behind
      obtain ⟨-, rfl⟩ := (mem_pieceSpans piece a).1 inPiece
      obtain ⟨span, -, rfl⟩ := List.mem_map.1 behind
      simp only [Span.shift]
      omega
  · intro span
    have front := isRun_front (piece ++ c :: rest) piece.length span
      (solidAt_piece piece _ solid) (solidAt_separator piece rest c separates)
    rw [List.mem_append, mem_pieceSpans, ← front, List.mem_map]
    constructor
    · rintro (⟨run, -⟩ | ⟨inner, member, rfl⟩)
      · exact run
      · exact (isRun_shift piece rest c separates inner).2 ((runs.complete inner).1 member)
    · intro run
      by_cases low : span.start ≤ piece.length
      · exact .inl ⟨run, low⟩
      · have nonempty := run.nonempty
        obtain ⟨start, stop⟩ := span
        have place : (Span.mk start stop) = Span.shift
            ⟨start - (piece.length + 1), stop - (piece.length + 1)⟩ (piece.length + 1) := by
          simp only [Span.shift, Span.mk.injEq]
          simp only at low nonempty
          omega
        rw [place, isRun_shift _ _ _ separates, ← runs.complete] at run
        exact .inr ⟨_, run, place.symm⟩

theorem exists_runsOf (cs : List Char) :
    ∃ spans, RunsOf cs spans ∧ solidRuns cs = spans.map (·.chars cs) := by
  induction cs using separator_induction with
  | unbroken piece solid =>
    have pieces := chars_pieceSpans piece []
    rw [List.append_nil] at pieces
    exact ⟨pieceSpans piece, runsOf_unbroken piece solid,
      by rw [pieces, solidRuns_unbroken piece solid]⟩
  | broken piece c rest solid separates ih =>
    obtain ⟨spans, runs, same⟩ := ih
    refine ⟨_, runsOf_broken piece rest c spans solid separates runs, ?_⟩
    rw [solidRuns_separator _ _ _ separates, solidRuns_unbroken piece solid, same,
      List.map_append, chars_pieceSpans, List.map_map]
    simp only [Function.comp_def, chars_shift]

theorem tokens_of_runs (line : String) (spans : List Span) (runs : RunsOf line.toList spans) :
    tokens line =
      spans.map fun span => Text.upper (String.ofList (span.chars line.toList)) := by
  obtain ⟨others, otherRuns, same⟩ := exists_runsOf line.toList
  rw [runsOf_unique _ _ _ runs otherRuns, tokens_eq_solidRuns, solidRuns_upper, same]
  simp [Text.upper]

end Places

section Spellings

def isGap (text : String) : Bool := text.toList.all isSeparator

def isSolid (text : String) : Bool := !text.toList.isEmpty && text.toList.all (!isSeparator ·)

structure Spelling where
  front : String
  first : String
  -- The words behind the first, each with the separators before it.
  more : List (String × String)
  back : String
  front_gap : isGap front = true
  first_solid : isSolid first = true
  more_gap : ∀ part ∈ more, part.1.toList ≠ [] ∧ isGap part.1 = true
  more_solid : ∀ part ∈ more, isSolid part.2 = true
  back_gap : isGap back = true

def behind (more : List (String × String)) (back : String) : String :=
  more.foldr (fun part text => part.1 ++ (part.2 ++ text)) back

namespace Spelling

def line (s : Spelling) : String := s.front ++ (s.first ++ behind s.more s.back)

def invocation (s : Spelling) : Invocation :=
  ⟨Text.upper s.first, s.more.map fun part => Text.upper part.2⟩

end Spelling

theorem tokens_solid (text : String) (solid : isSolid text = true) :
    tokens text = [Text.upper text] := by
  simp only [isSolid, Bool.and_eq_true, Bool.not_eq_true', List.isEmpty_eq_false_iff,
    List.all_eq_true] at solid
  have still : ∀ c ∈ text.toList.map Char.toUpper, isSeparator c = false := by
    simpa [isSeparator_toUpper] using solid.2
  rw [tokens_eq_solidRuns, solidRuns_solid _ (by simpa using solid.1) still]
  rfl

theorem tokens_empty : tokens "" = [] := rfl

theorem tokens_gap_front (gap text : String) (separates : isGap gap = true) :
    tokens (gap ++ text) = tokens text := by
  by_cases empty : gap = ""
  · rw [empty, String.empty_append]
  · have split := tokens_gap "" gap text (by simpa using empty) separates
    rwa [String.empty_append, tokens_empty, List.nil_append] at split

theorem tokens_gap_back (text gap : String) (separates : isGap gap = true) :
    tokens (text ++ gap) = tokens text := by
  by_cases empty : gap = ""
  · rw [empty, String.append_empty]
  · have split := tokens_gap text gap "" (by simpa using empty) separates
    rwa [String.append_empty, tokens_empty, List.append_nil] at split

theorem tokens_behind (first : String) (more : List (String × String)) (back : String)
    (firstSolid : isSolid first = true)
    (gaps : ∀ part ∈ more, part.1.toList ≠ [] ∧ isGap part.1 = true)
    (solid : ∀ part ∈ more, isSolid part.2 = true) (backGap : isGap back = true) :
    tokens (first ++ behind more back) =
      Text.upper first :: more.map fun part => Text.upper part.2 := by
  induction more generalizing first with
  | nil =>
    change tokens (first ++ back) = _
    rw [tokens_gap_back first back backGap, tokens_solid first firstSolid]
    rfl
  | cons part more ih =>
    rw [List.forall_mem_cons] at gaps solid
    have rest := ih part.2 solid.1 gaps.2 solid.2
    change tokens (first ++ (part.1 ++ (part.2 ++ behind more back))) = _
    rw [← String.append_assoc, tokens_gap _ _ _ gaps.1.1 gaps.1.2, tokens_solid first firstSolid,
      rest]
    rfl

theorem Spelling.tokens_line (s : Spelling) :
    tokens s.line = s.invocation.mnemonic :: s.invocation.operands := by
  rw [line, tokens_gap_front _ _ s.front_gap,
    tokens_behind _ _ _ s.first_solid s.more_gap s.more_solid s.back_gap]
  rfl

end Spellings

theorem isToken_chars (text : String) (token : IsToken text) :
    text ≠ "" ∧ ∀ c ∈ text.toList, c ≠ ',' ∧ Text.isBlank c = false ∧ ¬ ('a' ≤ c ∧ c ≤ 'z') := by
  refine ⟨fun empty => token.nonempty (by simp [empty]), ?_⟩
  intro c member
  have solid := token.solid c member
  simp only [isSeparator, Bool.or_eq_false_iff, beq_eq_false_iff_ne] at solid
  refine ⟨solid.1, solid.2, ?_⟩
  intro small
  have range : 97 ≤ c.toNat ∧ c.toNat ≤ 122 := small
  have upper := congrArg Char.toNat (token.upper c member)
  rw [toUpper_toNat, if_pos range] at upper
  omega

namespace Invocation

theorem ofLine_eq_none_iff (line : String) :
    ofLine? line = none ↔ ∀ c ∈ line.toList, c = ',' ∨ Text.isBlank c = true := by
  rw [ofLine_eq_none, tokens_eq_solidRuns, solidRuns_upper, List.map_eq_nil_iff,
    List.map_eq_nil_iff, solidRuns_eq_nil]
  simp only [isSeparator, Bool.or_eq_true, beq_iff_eq]

/-- Tokens are the runs of a line, in upper case and in order, and every way to write tokens down
with separators is read back. -/
theorem line_grammar_exact :
    (∀ line, ofLine? line = none ↔ ∀ c ∈ line.toList, c = ',' ∨ Text.isBlank c = true) ∧
    (∀ line i, ofLine? line = some i ↔
      ∃ spans, RunsOf line.toList spans ∧
        i.mnemonic :: i.operands =
          spans.map fun span => Text.upper (String.ofList (span.chars line.toList))) ∧
    (∀ line i, ofLine? line = some i → ∀ text ∈ i.mnemonic :: i.operands,
      text ≠ "" ∧
        ∀ c ∈ text.toList, c ≠ ',' ∧ Text.isBlank c = false ∧ ¬ ('a' ≤ c ∧ c ≤ 'z')) ∧
    ∀ s : Spelling, ofLine? s.line = some s.invocation := by
  refine ⟨ofLine_eq_none_iff, ?_, ?_, ?_⟩
  · intro line i
    rw [ofLine_eq_some]
    constructor
    · intro read
      obtain ⟨spans, runs, -⟩ := exists_runsOf line.toList
      exact ⟨spans, runs, by rw [← read, tokens_of_runs line spans runs]⟩
    · rintro ⟨spans, runs, same⟩
      rw [same, tokens_of_runs line spans runs]
  · intro line i read text member
    exact isToken_chars text (wellFormed_of_ofLine line i read text member)
  · intro s
    rw [ofLine_eq_some]
    exact s.tokens_line

def fourWords : Spelling where
  front := "\t,"
  first := "add"
  more := [(" ", "r1"), (",", "ß"), ("\u3000,", "r3")]
  back := " ,"
  front_gap := rfl
  first_solid := rfl
  more_gap := by decide
  more_solid := by decide
  back_gap := rfl

theorem line_of_four_words :
    ofLine? "\t,add r1,ß\u3000,r3 ," = some ⟨"ADD", ["R1", "ß", "R3"]⟩ ∧
      ∀ c ∈ "ß".toList, c ≠ ',' ∧ Text.isBlank c = false ∧ ¬ ('a' ≤ c ∧ c ≤ 'z') := by
  obtain ⟨-, -, shape, spelled⟩ := line_grammar_exact
  have text : fourWords.line = "\t,add r1,ß\u3000,r3 ," := by decide +kernel
  have words : fourWords.invocation = ⟨"ADD", ["R1", "ß", "R3"]⟩ := by decide +kernel
  have read := spelled fourWords
  rw [text, words] at read
  exact ⟨read, (shape _ _ read "ß" (by decide)).2⟩

end Invocation

end Asm16
