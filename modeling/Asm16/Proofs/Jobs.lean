import Asm16.Job.Basic
import Asm16.Proofs.Assembly
import Asm16.Proofs.SingleLines
import Asm16.Proofs.Spools
import Asm16.Proofs.Stores

set_option autoImplicit false

namespace Asm16

theorem Spool.putAll_unlimited (total : List UInt8) (s : Spool) (words : List String)
    (holds : s.Holds none total) :
    ∃ after, WordSink.putAll s words = (after, none) ∧
      after.Holds none (total ++ words.flatMap Spool.lineOf) := by
  induction words generalizing s total with
  | nil => exact ⟨s, rfl, by simpa using holds⟩
  | cons word rest ih =>
    obtain ⟨next, put, first⟩ := Spool.put_unlimited word holds
    obtain ⟨after, taken, others⟩ := ih _ next first
    refine ⟨after, ?_, by simpa using others⟩
    have same : WordSink.put s word = (next, none) := put
    simp only [WordSink.putAll, same, taken]

namespace Run

-- No word is refused, so only the source decides how the run ends. A run that ends early leaves
-- words pending, which the spool writes when it is released.
theorem ofBytes_spool (bytes : List UInt8) :
    let run := ofBytes ({} : Spool) bytes
    let rows := sourceRows bytes
    run.rows = rows ∧
      run.sink.release.content = (rowWords rows).flatMap Spool.lineOf ∧
      ((∃ line ∈ Text.sourceLines bytes, ¬ line.toByteArray.IsValidUTF8) →
        run.result = .error (.read .invalidUtf8)) ∧
      ((∀ line ∈ Text.sourceLines bytes, line.toByteArray.IsValidUTF8) →
        run.result = .ok (Summary.count {} rows)) := by
  intro run rows
  have empty : Spool.Holds none [] {} := by
    constructor <;> simp
  obtain ⟨after, taken, holds⟩ := Spool.putAll_unlimited [] {} (rowWords rows) empty
  by_cases valid : ∀ line ∈ Text.sourceLines bytes, line.toByteArray.IsValidUTF8
  · have closed : WordSink.close after = (after.flush.1, none) :=
      Prod.ext rfl ((Spool.flush_succeeds holds).2 (by simp))
    have ended : run = ⟨.ok (Summary.count {} rows), rows, after.flush.1⟩ := by
      simp only [run, ofBytes_taken_texts bytes {} after taken valid, finish, closed, reportAll,
        List.append_nil, rows]
    rw [ended]
    refine ⟨rfl, Spool.release_content (Spool.flush_holds holds), ?_, fun _ => rfl⟩
    rintro ⟨line, member, invalid⟩
    exact absurd (valid line member) invalid
  · have invalid : ∃ line ∈ Text.sourceLines bytes, ¬ line.toByteArray.IsValidUTF8 := by
      simpa using valid
    have ended : run = _ := ofBytes_taken_invalid bytes {} after taken invalid
    rw [ended]
    exact ⟨rfl, Spool.release_content holds, fun _ => rfl, fun all => absurd all valid⟩

end Run

theorem Store.readLines_inline (store : Store) (place : Location) (text : String)
    (member : .ok text ∈ store.readLines place) : Text.every Text.isInline text = true := by
  unfold Store.readLines at member
  split at member
  · exact Text.readLines_inline _ text member
  · simp at member
  · simp at member
  · cases member
  · cases member

namespace Job

theorem run_same_paths (job other : Job) (store : Store) (input : other.input = job.input)
    (output : other.output = job.output) : other.run store = job.run store := by
  simp only [Job.run, input, output]

theorem run_counts (job : Job) (store : Store) (summary : Summary)
    (succeeded : (job.run store).result = .ok summary) :
    summary = Summary.count {} (job.run store).rows := by
  unfold Job.run at succeeded ⊢
  split at succeeded
  · cases succeeded
  · split at succeeded
    · cases succeeded
    · exact Run.resume_counts {} summary _ _ succeeded

theorem run_rows (job : Job) (store : Store) (row : Row) (member : row ∈ (job.run store).rows) :
    ∃ seq line, Text.every Text.isInline line = true ∧ row = Row.ofLine seq line := by
  unfold Job.run at member
  split at member
  · cases member
  · split at member
    · cases member
    · obtain ⟨seq, line, inside, same⟩ := Run.resume_rows _ _ _ row member
      exact ⟨seq, line, Store.readLines_inline _ _ line inside, same⟩

section Opened

variable (job : Job) (store : Store) {source target : Location} {content : List UInt8}

-- The source is read after the output was made, so what is read of it may have been emptied.
theorem entry_created (found : store.entry? source = some (.file content)) :
    Store.entry? (store.set target (.file [])) source =
      some (.file (if source = target then [] else content)) := by
  by_cases same : source = target
  · simp [same]
  · simp [same, Store.entry_set_other _ _ _ _ same, found]

theorem run_opened (opened : store.openSource job.input = .ok source)
    (made : store.create job.output = .ok (target, store.set target (.file [])))
    (found : store.entry? source = some (.file content)) :
    let run := Run.ofBytes ({} : Spool) (if source = target then [] else content)
    (job.run store).result = run.result ∧ (job.run store).rows = run.rows ∧
      (job.run store).store =
        (store.set target (.file [])).set target (.file run.sink.release.content) := by
  simp only [Job.run, opened, made, Store.deviceAt, Store.readLines, Store.save,
    Store.entry_set_same, entry_created store found]
  exact ⟨rfl, rfl, rfl⟩

end Opened

/-- A job without its files changes nothing. Otherwise the output gets the words of the source up to
the first line that is no text, and nothing else changes. -/
theorem job_exact (job : Job) (store : Store) :
    (∀ fault, store.openSource job.input = .error fault →
      (job.run store).result = .error (.noSource job.input fault) ∧
      (job.run store).store = store ∧ (job.run store).rows = []) ∧
    (∀ source fault, store.openSource job.input = .ok source →
      store.create job.output = .error fault →
      (job.run store).result = .error (.noOutput job.output fault) ∧
      (job.run store).store = store ∧ (job.run store).rows = []) ∧
    (∀ source target created content, store.openSource job.input = .ok source →
      store.create job.output = .ok (target, created) →
      store.entry? source = some (.file content) → store.OffersFile target →
      let read := if source = target then [] else content
      let lines := Text.leadingTexts (Text.sourceLines read)
      Store.SameBut target store (job.run store).store ∧
      Store.entry? (job.run store).store target = some (.file
        ((encodings lines).flatMap fun e => Text.utf8 e.word.hex ++ [Text.lineFeed])) ∧
      (job.run store).rows = listing 1 lines ∧
      ((∃ line ∈ Text.sourceLines read, ¬ line.toByteArray.IsValidUTF8) →
        (job.run store).result = .error (.read .invalidUtf8)) ∧
      ((∀ line ∈ Text.sourceLines read, line.toByteArray.IsValidUTF8) →
        (job.run store).result = .ok (Summary.count {} (listing 1 lines))) ∧
      (source = target →
        Store.entry? (job.run store).store target = some (.file []) ∧
        (job.run store).result = .ok { lines := 0, encoded := 0, rejected := 0 })) := by
  refine ⟨?_, ?_, ?_⟩
  · intro fault closed
    simp [Job.run, closed]
  · intro source fault opened refused
    simp [Job.run, opened, refused]
  · intro source target created content opened made found offers read lines
    cases Store.create_file store created job.output target offers made
    obtain ⟨result, rows, after⟩ := run_opened job store opened made found
    obtain ⟨listed, written, broken, whole⟩ := Run.ofBytes_spool read
    have words : (rowWords (sourceRows read)).flatMap Spool.lineOf =
        (encodings lines).flatMap fun e => Text.utf8 e.word.hex ++ [Text.lineFeed] := by
      rw [sourceRows, rowWords_listing, List.flatMap_map]
      rfl
    have output : Store.entry? (job.run store).store target = some (.file
        ((encodings lines).flatMap fun e => Text.utf8 e.word.hex ++ [Text.lineFeed])) := by
      rw [after, Store.entry_set_same, ← words, ← written]
    refine ⟨?_, output, rows.trans listed, fun invalid => result.trans (broken invalid),
      fun valid => result.trans (whole valid), ?_⟩
    · rw [after]
      exact (store.set_sameBut target _).trans (Store.set_sameBut _ target _)
    · rintro rfl
      have nothing : read = [] := if_pos rfl
      have ended := result.trans (whole (by simp [nothing, Text.sourceLines, Text.cutLines]))
      rw [output, ended]
      simp only [lines, nothing]
      exact ⟨rfl, rfl⟩

theorem job_on_one_source :
    let source := Text.utf8 "mov r1 r2\nBAD\n" ++ [255]
    let place : Location := ["", "", "a.asm"]
    let store := { Store.initial.addFile "a.asm" source with
      refusals := [((["", "", "b.hex"], .write), ⟨13, "Permission denied"⟩)] }
    let fresh := Job.run { input := "a.asm" } store
    let self := Job.run { input := "a.asm", output := ".//a.asm" } store
    let refused := Job.run { input := "a.asm", output := "b.hex" } store
    let missing := Job.run {} store
    (fresh.result = .error (.read .invalidUtf8) ∧ fresh.store.entry? place = some (.file source) ∧
      fresh.store.entry? ["", "", "program.hex"] = some (.file (Text.utf8 "0914\n"))) ∧
    (self.result = .ok {} ∧ self.store.entry? place = some (.file [])) ∧
    (refused.store = store ∧ refused.rows = []) ∧ (missing.store = store ∧ missing.rows = []) := by
  intro source place store fresh self refused missing
  have found : store.entry? place = some (.file source) := rfl
  have ownPlace : store.OffersFile place := by
    intro entry same
    exact ⟨source, Option.some.inj (same.symm.trans found)⟩
  have newPlace : store.OffersFile ["", "", "program.hex"] := nofun
  obtain ⟨frame, output, -, broken, -⟩ := (job_exact { input := "a.asm" } store).2.2
    place ["", "", "program.hex"] _ source rfl rfl found newPlace
  obtain ⟨-, -, -, -, -, same⟩ :=
    (job_exact { input := "a.asm", output := ".//a.asm" } store).2.2 place place _ source rfl rfl
      found ownPlace
  have stopped := (job_exact { input := "a.asm", output := "b.hex" } store).2.1 place _ rfl rfl
  have absent := (job_exact {} store).1 _ rfl
  refine ⟨⟨broken (by decide), ?_, output⟩, ⟨(same rfl).2, (same rfl).1⟩, stopped.2, absent.2⟩
  rw [frame.entries place (by decide)]
  exact found

end Job

end Asm16
