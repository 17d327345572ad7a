import PatternMachine.Proofs.Machine.Modes
import PatternMachine.Proofs.Regex.Reports

/-! A text that matches as a whole has a match at its start, which is found under the same limits. -/
namespace PatternMachine

namespace Engine

variable {E : Type} [DecidableEq E] [Spelled E]

/-- Where a whole match is found, some match is found. -/
theorem verdict_anywhere (e : Engine E) {input : Array E} {range : Span}
    (valid : range.start ≤ range.stop ∧ range.stop ≤ input.size) {found : Match}
    (whole : e.verdict input range .whole = .ok (.ok (some found))) :
    found.range.stop = range.stop ∧
      ∃ stop captures, e.verdict input range .anywhere = .ok (.ok (some ⟨⟨range.start, stop⟩, captures⟩)) := by
  let s : Search E := ⟨e.program, input, range, e.settings⟩
  rw [e.verdict_eq valid .whole] at whole
  obtain ⟨m, ran, accepted, rfl⟩ := Step.answer_found whole
  obtain ⟨ran, -, counted⟩ := Search.run_next ran
  have counted := counted ((Search.runFor_spec ran).2.2 (by simp [accepted]))
  obtain ⟨atEnd, first, found, accepted', -⟩ := s.modesAgree.whole _ m counted accepted
  refine ⟨atEnd, first.position, first.captures, ?_⟩
  have ran : (s.inMode .anywhere).run s.start = .next first :=
    Search.run_of_halted (Nat.le_refl _) found (by simp [accepted'])
  have clear : first.exceeded = none := (Search.runFor_spec found).2.2 (by simp [accepted'])
  have answer : first.answer range.start = .ok (some ⟨⟨range.start, first.position⟩, first.captures⟩) := by
    rw [Machine.answer, clear]
    exact congrArg Except.ok (if_pos accepted')
  have said : e.verdict input range .anywhere = ((s.inMode .anywhere).run s.start).answer range.start :=
    e.verdict_eq valid .anywhere
  rw [said, ran]
  exact congrArg Except.ok answer

end Engine

namespace Regex

theorem whole_of_isMatch {r : Regex} {text : String} {log : Log}
    (matched : (r.isMatch text).result log = .ok true) :
    ∃ found, r.verdict text 0 .whole = .ok (.ok (some found)) := by
  rw [isMatch_result] at matched
  rcases said : r.verdict text 0 .whole with f | e | _ | found <;> rw [said] at matched <;>
    cases matched
  exact ⟨found, rfl⟩

/-- Runs that differ in the mode only agree until a match is found, under all limits. So a regular expression
that matches a whole text takes something at its start, and is found there. -/
theorem modes_agree_until_match :
    (∀ {E : Type} [DecidableEq E] (s : Search E), s.ModesAgree) ∧
      ∀ (r : Regex) (text : String) (log : Log), (r.isMatch text).result log = .ok true →
        ∀ log', (∃ taken, (r.leading text).result log' = .ok (some taken)) ∧
          ∃ span, (r.find text).result log' = .ok (some span) ∧ span.start = 0 := by
  refine ⟨fun s => s.modesAgree, fun r text log matched log' => ?_⟩
  have inside := Nat.zero_le text.length
  obtain ⟨found, whole⟩ := whole_of_isMatch matched
  obtain ⟨-, stop, captures, anywhere⟩ := r.engine.verdict_anywhere (restFrom_valid inside) whole
  have anywhere : r.verdict text 0 .anywhere = .ok (.ok (some ⟨⟨0, stop⟩, captures⟩)) := anywhere
  refine ⟨⟨String.ofList (text.toList.take stop), by rw [leading_result, anywhere]; rfl⟩,
    byteSpan text.toList.toArray ⟨0, stop⟩, ?_, rfl⟩
  have decided : decision? (r.verdict text 0 .anywhere) = some (.ok (some ⟨⟨0, stop⟩, captures⟩)) := by
    rw [anywhere]; rfl
  rw [find_result, captures_result, searched_of_decision inside nofun decided log']
  rfl

/-- A reluctant repetition takes nothing, but for the whole text. -/
theorem modes_agree_until_match_reluctant :
    ∃ r, compile "a*?" {} = .ok r ∧ (r.isMatch "aa").result #[] = .ok true ∧
      (r.leading "aa").result #[] = .ok (some "") ∧
      ∃ span, (r.find "aa").result #[] = .ok (some span) ∧ span.start = 0 := by
  let q : Pattern Char := .repetition .zeroOrMore .reluctant (.element 'a')
  have meant : pattern "a*?" {} = .ok q := rfl
  have accepted : (q.compile (1 <<< 24)).toOption.isSome = true := by decide +kernel
  have runs : ∀ p ∈ (q.compile (1 <<< 24)).toOption,
      (((⟨"a*?", p, {}⟩ : Regex).isMatch "aa").result #[]).toOption = some true ∧
        (((⟨"a*?", p, {}⟩ : Regex).leading "aa").result #[]).toOption = some (some "") := by
    decide +kernel
  obtain ⟨p, compiled⟩ := exists_ok accepted
  obtain ⟨matched, taken⟩ := runs p (by rw [compiled]; rfl)
  obtain ⟨-, found⟩ := modes_agree_until_match.2 ⟨"a*?", p, {}⟩ "aa" #[] (eq_ok matched) #[]
  exact ⟨⟨"a*?", p, {}⟩, compile_eq meant compiled, eq_ok matched, eq_ok taken, found⟩

end Regex

end PatternMachine
