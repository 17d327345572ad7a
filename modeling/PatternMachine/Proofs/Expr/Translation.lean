import PatternMachine.Expr.Pattern
import PatternMachine.Proofs.Except

/-! Lowering an expression on a stack is translating it by recursion: visiting an expression leaves its
translation on top of what was there before. -/
namespace PatternMachine.Expr

mutual

/-- The pattern of an expression from the patterns of its parts. -/
def translated : Expr → Except Rejection (Pattern Char)
  | empty => .ok .empty
  | literal bytes => textPattern bytes
  | oneOf set => .ok set.pattern
  | look l => lookPattern l
  | repetition least most greedy body => do
    return .repetition (amount least most) (if greedy then .greedy else .reluctant)
      (← body.translated)
  | capture index name body => do groupPattern index name (← body.translated)
  | concat parts => do return .concat (← translatedAll parts)
  | alternation branches => do return .alternation (← translatedAll branches)

def translatedAll : List Expr → Except Rejection (List (Pattern Char))
  | [] => .ok []
  | e :: rest => do return (← e.translated) :: (← translatedAll rest)

end

theorem translatedAll_length {parts : List Expr} {qs : List (Pattern Char)}
    (translated : translatedAll parts = .ok qs) : qs.length = parts.length := by
  induction parts generalizing qs with
  | nil => cases translated; rfl
  | cons e rest ih =>
    obtain ⟨q, -, translated⟩ := bind_eq_ok.mp translated
    obtain ⟨others, known, translated⟩ := bind_eq_ok.mp translated
    cases translated
    exact congrArg (· + 1) (ih known)

/-- The patterns of the parts come off the stack in their order. -/
theorem popMany_parts {parts : List Expr} {qs : List (Pattern Char)}
    (translated : translatedAll parts = .ok qs) (stack : List (Pattern Char)) :
    popMany parts.length (qs.reverse ++ stack) = .ok (qs, stack) := by
  have length : qs.reverse.length = parts.length := by
    rw [List.length_reverse, translatedAll_length translated]
  have enough : parts.length ≤ (qs.reverse ++ stack).length := by
    rw [List.length_append, length]
    exact Nat.le_add_right _ _
  rw [popMany, if_pos enough, ← length, List.take_left, List.drop_left, List.reverse_reverse]

mutual

theorem visit_eq (e : Expr) (stack : List (Pattern Char)) :
    e.visit lower stack = e.translated.map (· :: stack) := by
  cases e with
  | empty => rfl
  | literal bytes => simp only [visit, lower, translated]; cases textPattern bytes <;> rfl
  | oneOf set => rfl
  | look l => simp only [visit, lower, translated]; cases lookPattern l <;> rfl
  | repetition least most greedy body =>
    simp only [visit, translated, visit_eq body stack]
    cases body.translated <;> rfl
  | capture index name body =>
    simp only [visit, translated, visit_eq body stack]
    cases body.translated with
    | error r => rfl
    | ok q =>
      simp only [Except.map, ok_bind, lower, pop]
      cases groupPattern index name q <;> rfl
  | concat parts =>
    simp only [visit, translated, visitAll_eq parts stack]
    cases known : translatedAll parts with
    | error r => rfl
    | ok qs =>
      simp only [Except.map, ok_bind, lower, popMany_parts known]
      rfl
  | alternation branches =>
    simp only [visit, translated, visitAll_eq branches stack]
    cases known : translatedAll branches with
    | error r => rfl
    | ok qs =>
      simp only [Except.map, ok_bind, lower, popMany_parts known]
      rfl

theorem visitAll_eq (parts : List Expr) (stack : List (Pattern Char)) :
    visitAll lower parts stack = (translatedAll parts).map (·.reverse ++ stack) := by
  cases parts with
  | nil => rfl
  | cons e rest =>
    simp only [visitAll, translatedAll, visit_eq e stack]
    cases e.translated with
    | error r => rfl
    | ok q =>
      simp only [Except.map, ok_bind, visitAll_eq rest (q :: stack)]
      cases translatedAll rest with
      | error r => rfl
      | ok qs => simp

end

end PatternMachine.Expr
