import PatternMachine.Proofs.Expr.Translation
import PatternMachine.Proofs.Safety.Construct

/-! Whatever an expression becomes, its assertions take nothing, so that no consumer leaves its range. -/
namespace PatternMachine

namespace Look

theorem between_bounded (holds : Option Char → Option Char → Bool) :
    (between holds).Consumers ConsumeFunction.Bounded := by
  intro input rest position le _ found
  dsimp only at found
  split at found <;> cases found
  exact ⟨Nat.le_refl _, le⟩

theorem pattern?_bounded {l : Look} {q : Pattern Char} (h : l.pattern? = some q) :
    q.Consumers ConsumeFunction.Bounded := by
  cases l <;> simp only [pattern?, reduceCtorEq, Option.some.injEq] at h <;> subst h <;>
    first
      | trivial
      | exact between_bounded _

end Look

namespace Expr

theorem textPattern_bounded {bytes : List UInt8} {q : Pattern Char} (h : textPattern bytes = .ok q) :
    q.Consumers ConsumeFunction.Bounded := by
  unfold textPattern at h
  split at h <;> cases h <;> trivial

theorem setPattern_bounded (set : ClassSet) : set.pattern.Consumers ConsumeFunction.Bounded := by
  unfold ClassSet.pattern
  split <;> trivial

theorem lookPattern_bounded {l : Look} {q : Pattern Char} (h : lookPattern l = .ok q) :
    q.Consumers ConsumeFunction.Bounded := by
  unfold lookPattern at h
  split at h
  next known => cases h; exact Look.pattern?_bounded known
  · cases h

theorem groupPattern_bounded {index : Nat} {name : Option String} {body q : Pattern Char}
    (bounded : body.Consumers ConsumeFunction.Bounded) (h : groupPattern index name body = .ok q) :
    q.Consumers ConsumeFunction.Bounded := by
  cases index with
  | zero => cases h
  | succ index => cases h; exact bounded

mutual

theorem translated_bounded :
    (e : Expr) → (q : Pattern Char) → e.translated = .ok q → q.Consumers ConsumeFunction.Bounded
  | empty, _, h => by cases h; trivial
  | literal _, _, h => textPattern_bounded h
  | oneOf set, _, h => by cases h; exact setPattern_bounded set
  | look _, _, h => lookPattern_bounded h
  | repetition _ _ _ body, _, h => by
    obtain ⟨inner, lowered, h⟩ := bind_eq_ok.mp h
    cases h
    exact translated_bounded body inner lowered
  | capture _ _ body, _, h => by
    obtain ⟨inner, lowered, h⟩ := bind_eq_ok.mp h
    exact groupPattern_bounded (translated_bounded body inner lowered) h
  | concat parts, _, h => by
    obtain ⟨inner, lowered, h⟩ := bind_eq_ok.mp h
    cases h
    exact translatedAll_bounded parts inner lowered
  | alternation branches, _, h => by
    obtain ⟨inner, lowered, h⟩ := bind_eq_ok.mp h
    cases h
    exact translatedAll_bounded branches inner lowered

theorem translatedAll_bounded :
    (parts : List Expr) → (qs : List (Pattern Char)) → translatedAll parts = .ok qs →
      Pattern.AllConsumers ConsumeFunction.Bounded qs
  | [], _, h => by cases h; trivial
  | e :: rest, _, h => by
    obtain ⟨q, first, h⟩ := bind_eq_ok.mp h
    obtain ⟨qs, others, h⟩ := bind_eq_ok.mp h
    cases h
    exact ⟨translated_bounded e q first, translatedAll_bounded rest qs others⟩

end

end Expr

end PatternMachine
