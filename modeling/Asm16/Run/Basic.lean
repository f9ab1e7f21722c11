import Asm16.Line.Report
import Asm16.Run.Sink

set_option autoImplicit false

namespace Asm16

structure Run (σ : Type) where
  result : Except Failure Summary
  rows : List Row
  sink : σ

namespace Run

variable {σ : Type} [WordSink σ]

def report (row : Row) (run : Run σ) : Run σ := { run with rows := row :: run.rows }

def stop (failure : Failure) (sink : σ) : Run σ := ⟨.error failure, [], sink⟩

def finish (counts : Summary) (sink : σ) : Run σ :=
  match WordSink.close sink with
  | (closed, none) => ⟨.ok counts, [], closed⟩
  | (closed, some fault) => stop (.write fault) closed

def resume (counts : Summary) (sink : σ) : List (Except Fault String) → Run σ
  | [] => finish counts sink
  | .error fault :: _ => stop (.read fault) sink
  | .ok line :: rest =>
      if Text.allBlank line then resume counts sink rest
      else
        let seq := counts.lines + 1
        let row := Row.ofLine seq line
        match row.hex with
        | none =>
            (resume { counts with lines := seq, rejected := counts.rejected + 1 } sink rest).report
              row
        | some hex =>
            match WordSink.put sink hex with
            | (after, some fault) => stop (.write fault) after
            | (after, none) =>
                (resume { counts with lines := seq, encoded := counts.encoded + 1 } after
                  rest).report row

def start (sink : σ) (lines : List (Except Fault String)) : Run σ := resume {} sink lines

def ofBytes (sink : σ) (bytes : List UInt8) : Run σ := start sink (Text.readLines bytes)

end Run

structure Assembly where
  rows : List Row
  words : List String
  summary : Summary
  deriving DecidableEq, Repr

def assemble (source : String) : Except Failure Assembly :=
  let run := Run.ofBytes ({} : Tray) (Text.utf8 source)
  run.result.map fun summary => ⟨run.rows, run.sink.words.toList, summary⟩

end Asm16
