import PatternMachine.Pattern.Basic

/-!
# The spelling of patterns

Patterns are spelled by their constructors; functions in them have no spelling and are left out.
-/

namespace PatternMachine

instance : Spelled Amount where
  spell
    | .zeroOrMore => "ZeroOrMore"
    | .oneOrMore => "OneOrMore"
    | .zeroOrOne => "ZeroOrOne"
    | .exactly n => Text.tuple "Exactly" [spell n]
    | .nOrMore n => Text.tuple "NOrMore" [spell n]
    | .upTo n => Text.tuple "UpToN" [spell n]
    | .range n m => Text.tuple "Range" [spell n, spell m]

instance : Spelled Preference where
  spell
    | .greedy => "Greedy"
    | .reluctant => "Reluctant"
    | .possessive => "Possessive"

instance : Spelled Lookahead where
  spell
    | .positive => "Ahead"
    | .negative => "NegativeAhead"

instance : Spelled Anchor where
  spell
    | .start => "StartOfInput"
    | .stop => "EndOfInput"

namespace Pattern

variable {E : Type} [Spelled E]

mutual

def text : Pattern E → String
  | empty => "Empty"
  | any => "Any"
  | element e => Text.tuple "Element" [spell e]
  | literal elements => Text.tuple "Literal" [spell elements]
  | predicate _ => "Predicate(..)"
  | consumer _ => "Consumer(..)"
  | concat parts => Text.tuple "Concat" ["[" ++ Text.commaSeparated (texts parts) ++ "]"]
  | alternation branches =>
    Text.tuple "Alternation" ["[" ++ Text.commaSeparated (texts branches) ++ "]"]
  | repetition amount preference body =>
    Text.record "Quantification"
      [("amount", spell amount), ("kind", spell preference), ("node", body.text)]
  | capture index name body =>
    Text.record "Capture" [("index", spell index), ("name", spell name), ("node", body.text)]
  | reference name => Text.tuple "Reference" [spell name]
  | lookahead kind body => Text.record "Lookaround" [("kind", spell kind), ("node", body.text)]
  | atomic body => Text.tuple "Atomic" [body.text]
  | anchor a => Text.tuple "Anchor" [spell a]
  | backreference index => Text.tuple "Backreference" [spell index]

def texts : List (Pattern E) → List String
  | [] => []
  | p :: rest => p.text :: texts rest

end

instance : Spelled (Pattern E) := ⟨text⟩

end Pattern

end PatternMachine
