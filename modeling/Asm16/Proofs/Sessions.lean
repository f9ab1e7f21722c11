import Asm16.Command.Session
import Asm16.Proofs.Jobs

set_option autoImplicit false

namespace Asm16.Command

section Printing

@[simp] theorem printed_nil : printed [] = "" := rfl

theorem printed_cons (line : String) (lines : List String) :
    printed (line :: lines) = line ++ "\n" ++ printed lines := by
  simp [printed]

theorem printed_append (lines more : List String) :
    printed (lines ++ more) = printed lines ++ printed more := by
  simp [printed]

theorem splitOn_printed (lines : List String) (single : ∀ line ∈ lines, '\n' ∉ line.toList) :
    (printed lines).toList.splitOn '\n' = lines.map String.toList ++ [[]] := by
  induction lines with
  | nil => rfl
  | cons line rest ih =>
    rw [List.forall_mem_cons] at single
    have first : (printed (line :: rest)).toList = line.toList ++ '\n' :: (printed rest).toList := by
      simp [printed_cons]
    rw [first, List.splitOn_append_cons_self_of_not_mem single.1, ih single.2]
    rfl

theorem printed_header (banner : String) :
    printed [banner, Row.header] =
      printed [banner, "SEQ | Source               | Binary           | Hex",
        "----|----------------------|------------------|-----"] := by
  have lines : printed [Row.header] =
      printed ["SEQ | Source               | Binary           | Hex",
        "----|----------------------|------------------|-----"] := by decide
  rw [printed_cons, lines, ← printed_cons]

end Printing

section Arguments

def spell (job : Job) : List String :=
  ["--format=" ++ job.style.name, "--output=" ++ job.output] ++
    (if job.quiet then ["--quiet"] else []) ++ ["--", job.input]

theorem readArgument_output (c : Choices) (value : String) :
    readArgument c ("--output=" ++ value) =
      (c.set .output value).map fun next => { choices := next } := by
  have chars : ("--output=" ++ value).toList =
      '-' :: '-' :: ("output".toList ++ '=' :: value.toList) := by
    simp
  unfold readArgument
  simp only [chars, readWord]
  simp [readSetting]

theorem readArguments_next (c next : Choices) (argument : String) (rest : List String)
    (inside : argument ≠ "--") (read : readArgument c argument = .ok { choices := next }) :
    readArguments { choices := c } (argument :: rest) =
      readArguments { choices := next } rest := by
  simp only [readArguments, if_neg inside, read]
  rfl

theorem parse_spell (job : Job) (input : job.input ≠ "") (output : job.output ≠ "") :
    parse (spell job) = .ok job := by
  obtain ⟨source, target, style, quiet⟩ := job
  have attached : "--output=" ++ target ≠ "--" := by
    intro same
    have sizes := congrArg String.length same
    have long : "--output=".length = 9 := rfl
    have short : "--".length = 2 := rfl
    rw [String.length_append] at sizes
    omega
  have styled : readArgument {} ("--format=" ++ style.name) =
      .ok { choices := { style := some style } } := by
    cases style <;> rfl
  have targeted : readArgument { style := some style } ("--output=" ++ target) =
      .ok { choices := { style := some style, output := some target } } := by
    rw [readArgument_output]
    simp [Choices.set, output, Except.map]
  have last (c : Choices) (unset : c.input = none) :
      readArguments { choices := c } ["--", source] = .ok { c with input := some source } := by
    simp [readArguments, readOperands, Choices.setInput, unset, input, Except.bind]
  rw [parse, spell, List.append_assoc, List.cons_append, List.cons_append, List.nil_append,
    readArguments_next {} _ _ _ (by cases style <;> decide) styled,
    readArguments_next _ _ _ _ attached targeted]
  cases quiet with
  | false =>
    rw [if_neg Bool.false_ne_true, List.nil_append, last _ rfl]
    rfl
  | true =>
    rw [if_pos rfl, List.cons_append, List.nil_append,
      readArguments_next _ _ _ _ (by decide) rfl, last _ rfl]
    rfl

end Arguments

namespace Session

variable (job other : Job) (run : JobRun)

theorem ofRun_stdout :
    (ofRun job run).stdout =
      opening job ++ listing job run.rows ++
        match run.result with
        | .ok summary => closing job summary
        | .error _ => [] := by
  unfold ofRun
  cases run.result <;> simp

theorem ofRun_same :
    (ofRun other run).store = (ofRun job run).store ∧ (ofRun other run).exit = (ofRun job run).exit ∧
      (ofRun other run).stderr = (ofRun job run).stderr := by
  unfold ofRun
  cases run.result <;> simp

theorem ofRun_store : (ofRun job run).store = run.store := by
  unfold ofRun
  cases run.result <;> rfl

theorem ofRun_failed (failure : Failure) (failed : run.result = .error failure) :
    (ofRun job run).exit = failure.exitCode := by
  simp only [ofRun, failed]

theorem ofRun_exit_zero : (ofRun job run).exit = 0 ↔ ∃ summary, run.result = .ok summary := by
  cases ended : run.result with
  | ok summary => simp [ofRun, ended]
  | error failure =>
    rw [ofRun_failed job run failure ended]
    cases failure <;> simp [Failure.exitCode]

end Session

section Shown

variable (job : Job) (run : JobRun)

theorem stdout_quiet (quiet : job.quiet = true) : (Session.ofRun job run).stdout = [] := by
  rw [Session.ofRun_stdout]
  cases run.result <;> simp [opening, listing, closing, framed, quiet]

theorem stdout_json (shown : job.quiet = false) (style : job.style = .json) :
    (Session.ofRun job run).stdout = run.rows.map Row.json := by
  rw [Session.ofRun_stdout]
  cases run.result <;> simp [opening, listing, closing, framed, shown, style]

theorem closing_shown (summary : Summary) (shown : job.quiet = false) (style : job.style = .text) :
    closing job summary =
      [ "----------------------------------------------------",
        "encoded " ++ toString summary.encoded ++ ", rejected " ++ toString summary.rejected ++
          " -> " ++ job.output ] := by
  simp only [closing, framed, shown, style]
  rfl

theorem stdout_text (shown : job.quiet = false) (style : job.style = .text) :
    (Session.ofRun job run).stdout =
      ["Assembling '" ++ job.input ++ "'...", Row.header] ++ (run.rows.map Row.text ++
        match run.result with
        | .ok summary => closing job summary
        | .error _ => []) := by
  rw [Session.ofRun_stdout]
  simp [opening, listing, framed, shown, style]

end Shown

/-- The four ways to show the listing of a job differ in what is printed only. -/
theorem session_exact (arguments : List String) (job : Job) (store : Store)
    (parsed : parse arguments = .ok job) :
    (job.input ≠ "" → job.output ≠ "" → ∀ style quiet,
      parse (spell { job with style, quiet }) = .ok { job with style, quiet }) ∧
    ∃ s, session arguments store = .ok s ∧
      (∀ others style quiet, parse others = .ok { job with style, quiet } →
        ∃ t, session others store = .ok t ∧ t.store = s.store ∧ t.exit = s.exit ∧
          t.stderr = s.stderr) ∧
      s.store = (job.run store).store ∧
      (s.exit = 0 ↔ ∃ summary, (job.run store).result = .ok summary) ∧
      (∀ failure, (job.run store).result = .error failure → s.exit = failure.exitCode) ∧
      (job.quiet = true → printed s.stdout = "") ∧
      (job.quiet = false → job.style = .json →
        (printed s.stdout).toList.splitOn '\n' =
          (job.run store).rows.map (fun row => row.json.toList) ++ [[]]) ∧
      (job.quiet = false → job.style = .text →
        (∀ row ∈ (job.run store).rows, '\n' ∉ row.text.toList) ∧
        printed s.stdout = printed
          (["Assembling '" ++ job.input ++ "'...",
              "SEQ | Source               | Binary           | Hex",
              "----|----------------------|------------------|-----"] ++
            (job.run store).rows.map Row.text ++
            match (job.run store).result with
            | .ok _ =>
                [ "----------------------------------------------------",
                  "encoded " ++ toString ((job.run store).rows.countP fun row => row.hex.isSome) ++
                    ", rejected " ++
                    toString ((job.run store).rows.countP fun row => row.hex.isNone) ++ " -> " ++
                    job.output ]
            | .error _ => [])) := by
  have opened (others : List String) (other : Job) (asked : parse others = .ok other) :
      session others store = .ok (Session.ofRun other (other.run store)) := by
    simp only [session, asked]
  refine ⟨?_, _, opened arguments job parsed, ?_, Session.ofRun_store job _,
    Session.ofRun_exit_zero job _, Session.ofRun_failed job _, ?_, ?_, ?_⟩
  · intro input output style quiet
    exact parse_spell { job with style, quiet } input output
  · intro others style quiet asked
    have same := Job.run_same_paths job { job with style, quiet } store rfl rfl
    refine ⟨_, opened others _ asked, ?_⟩
    rw [same]
    exact Session.ofRun_same job _ _
  · intro quiet
    rw [stdout_quiet job _ quiet, printed_nil]
  · intro shown style
    rw [stdout_json job _ shown style, splitOn_printed, List.map_map]
    · rfl
    · intro line member
      obtain ⟨row, -, rfl⟩ := List.mem_map.1 member
      exact (Text.every_inline_iff _).1 (Text.every_inline_of_visible _ row.json_visible)
  · intro shown style
    constructor
    · intro row member
      obtain ⟨seq, line, inline, rfl⟩ := job.run_rows store row member
      exact (Text.every_inline_iff _).1 (Row.text_ofLine_inline seq line inline)
    · rw [stdout_text job _ shown style, printed_append, printed_header, ← printed_append,
        List.append_assoc]
      cases ended : (job.run store).result with
      | error failure => rfl
      | ok summary =>
        have counts := job.run_counts store summary ended
        have encoded : summary.encoded =
            (job.run store).rows.countP fun row => row.hex.isSome := by
          rw [counts]
          exact Nat.zero_add _
        have rejected : summary.rejected =
            (job.run store).rows.countP fun row => row.hex.isNone := by
          rw [counts]
          simp [Summary.count, Row.accepted]
        simp only [closing_shown job summary shown style, encoded, rejected]

theorem session_shown_or_quiet :
    let store := Store.initial.addFile "a.asm" (Text.utf8 "nop\nBAD\n" ++ [255])
    let job : Job := { input := "a.asm", style := .json }
    ∃ s t, session ["a.asm", "--format", "json"] store = .ok s ∧
      session ["-qoprogram.hex", "a.asm"] store = .ok t ∧
      t.store = s.store ∧ t.exit = s.exit ∧ t.stderr = s.stderr ∧ s.exit = 1 ∧
      (job.run store).rows.length = 2 ∧
      (printed s.stdout).toList.splitOn '\n' =
        (job.run store).rows.map (fun row => row.json.toList) ++ [[]] := by
  intro store job
  obtain ⟨-, s, opened, same, -, -, failed, -, json, -⟩ :=
    session_exact ["a.asm", "--format", "json"] job store rfl
  obtain ⟨t, quiet, files, exit, complaint⟩ := same ["-qoprogram.hex", "a.asm"] .text true rfl
  exact ⟨s, t, opened, quiet, files, exit, complaint, failed (.read .invalidUtf8) (by decide),
    by decide, json rfl rfl⟩

end Asm16.Command
