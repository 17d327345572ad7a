import PatternMachine.Proofs.Regex.Bytes
import PatternMachine.Proofs.Regex.Lowering
import PatternMachine.Proofs.Regex.Search

/-! A regular expression reports in bytes what its search has found in characters. -/
namespace PatternMachine.Regex

/-- What is reported of a match: its range, and then those of the groups. -/
def byteRanges (text : String) (found : Match) : List (Option Span) :=
  some (byteSpan text.toList.toArray found.range) ::
    found.captures.map (·.map (byteSpan text.toList.toArray))

theorem captures_result (r : Regex) (text : String) (log : Log) :
    (r.captures text).result log = (r.searched text log).map (Option.map (byteRanges text)) :=
  Logged.result_map _ _ log

theorem find_result (r : Regex) (text : String) (log : Log) :
    (r.find text).result log = ((r.captures text).result log).map
      fun found => found.bind fun ranges => ranges.head?.join :=
  Logged.result_map _ _ log

theorem leading_result (r : Regex) (text : String) (log : Log) :
    (r.leading text).result log =
      match r.verdict text 0 .anywhere with
      | .error f => .error f
      | .ok (.error _) => .ok none
      | .ok (.ok found) =>
        .ok (found.map fun m => String.ofList (text.toList.take m.range.stop)) := by
  have consumed := r.engine.consume_result (restFrom_valid (Nat.zero_le text.length)) .anywhere log
  have mapped : (r.leading text).result log = ((r.engine.consume text.toList.toArray
      (restFrom text 0) .anywhere).result log).map
        (Option.map fun n => String.ofList (text.toList.take n)) :=
    Logged.result_map _ _ log
  rw [mapped, consumed, verdict]
  rcases r.engine.verdict text.toList.toArray (restFrom text 0) .anywhere with _ | _ | _ | _ <;> rfl

theorem isMatch_result (r : Regex) (text : String) (log : Log) :
    (r.isMatch text).result log =
      match r.verdict text 0 .whole with
      | .error f => .error f
      | .ok (.error _) => .ok false
      | .ok (.ok found) => .ok found.isSome := by
  have consumed := r.engine.consume_result (restFrom_valid (Nat.zero_le text.length)) .whole log
  have mapped : (r.isMatch text).result log = ((r.engine.consume text.toList.toArray
      (restFrom text 0) .whole).result log).map Option.isSome :=
    Logged.result_map _ _ log
  rw [mapped, consumed, verdict]
  rcases r.engine.verdict text.toList.toArray (restFrom text 0) .whole with _ | _ | _ | _ <;> rfl

section

variable {r : Regex} {q : Pattern Char} {limit : Nat} {text : String} {start : Nat}
  (compiled : q.compile limit = .ok r.engine.program) (bounded : q.Consumers ConsumeFunction.Bounded)

include compiled bounded

end

/-- The engine of a regular expression runs the program of the pattern that its text means. -/
theorem compile_eq {source : String} {config : Config} {q : Pattern Char} {p : Program Char}
    (lowered : pattern source config.parser = .ok q)
    (compiled : q.compile config.engine.maxInstructions = .ok p) :
    compile source config = .ok ⟨source, p, config.engine.toSettings⟩ := by
  rw [compile, lowered]
  exact bind_eq_ok.mpr ⟨q, rfl, bind_eq_ok.mpr ⟨p, compiled, rfl⟩⟩

end PatternMachine.Regex
