import PatternMachine.Config.Basic
import PatternMachine.Expr.Construct
import PatternMachine.Regex.Tree
import PatternMachine.Unicode.Property

/-!
# The meaning of syntax trees

A tree becomes an expression under the flags in force. A change of flags lasts until the end of the
group around it, through all branches that follow. Without the Unicode flag classes are sets of
bytes; what could match a byte that is no character on its own has no meaning then.
-/

namespace PatternMachine.Regex

structure Options where
  ignoreCase : Bool
  multiLine : Bool
  dotMatchesNewLine : Bool
  swapGreed : Bool
  unicode : Bool
  crlf : Bool
  deriving DecidableEq, Repr

namespace Options

def ofConfig (c : ParserConfig) : Options where
  ignoreCase := c.caseInsensitive
  multiLine := c.multiLine
  dotMatchesNewLine := c.dotMatchesNewLine
  swapGreed := false
  unicode := c.unicode
  crlf := false

def set (o : Options) : Flag × Bool → Options
  | (.ignoreCase, on) => { o with ignoreCase := on }
  | (.multiLine, on) => { o with multiLine := on }
  | (.dotMatchesNewLine, on) => { o with dotMatchesNewLine := on }
  | (.swapGreed, on) => { o with swapGreed := on }
  | (.unicode, on) => { o with unicode := on }
  | (.crlf, on) => { o with crlf := on }
  | (.verbose, _) => o

def change (o : Options) (changes : FlagChanges) : Options := changes.foldl set o

/-- What complements are taken in. -/
def alphabet (o : Options) : Alphabet := if o.unicode then .scalars else .bytes

def classSet (o : Options) (s : CodeSet) : ClassSet := if o.unicode then .chars s else .bytes s

/-- The set with the letters of ASCII in both cases. -/
def closeUnderAsciiCase (s : CodeSet) : CodeSet :=
  let upper := s.inter ⟨[⟨0x41, 0x5A⟩]⟩
  let lower := s.inter ⟨[⟨0x61, 0x7A⟩]⟩
  .unions [s, ⟨upper.intervals.map fun i => ⟨i.first + 0x20, i.last + 0x20⟩⟩,
    ⟨lower.intervals.map fun i => ⟨i.first - 0x20, i.last - 0x20⟩⟩]

/-- Adds case variants if case is ignored. -/
def fold (o : Options) (s : CodeSet) : CodeSet :=
  if !o.ignoreCase then s
  else if o.unicode then Unicode.closeUnderCase s
  else closeUnderAsciiCase s

def negate (o : Options) (negated : Bool) (s : CodeSet) : CodeSet :=
  if negated then s.complement o.alphabet else s

/-- Sets of bytes must not go beyond ASCII. -/
def admit? (o : Options) (s : CodeSet) : Option CodeSet :=
  if o.unicode || s.isAscii then some s else none

/-- Case variants are added before the complement is taken. -/
def foldAndNegate? (o : Options) (negated : Bool) (s : CodeSet) : Option CodeSet :=
  o.admit? (o.negate negated (o.fold s))

end Options

def ShortClass.members (o : Options) : ShortClass → CodeSet
  | digit => if o.unicode then Unicode.decimalNumber else NamedClass.digit.members
  | space => if o.unicode then Unicode.whiteSpace else NamedClass.space.members
  | word => if o.unicode then Unicode.wordCharacter else NamedClass.word.members

/-- The short classes hold all case variants of their members already. -/
def ShortClass.set? (o : Options) (set : ShortClass) (negated : Bool) : Option CodeSet :=
  o.admit? (o.negate negated (set.members o))

def PropertyName.members? : PropertyName → Option CodeSet
  | single name => Unicode.property? name
  | value property v => Unicode.propertyValue? property v

def PropertyName.set? (o : Options) (name : PropertyName) (negated : Bool) : Option CodeSet := do
  if !o.unicode then none
  o.foldAndNegate? negated (← name.members?)

/-- The code point of a literal in brackets. -/
def CharLiteral.code? (o : Options) (l : CharLiteral) : Option Nat :=
  if o.unicode || l.char.toNat < 0x80 then some l.char.toNat else none

def SetOperation.apply (o : Options) (left right : CodeSet) : SetOperation → CodeSet
  | intersection => left.inter right
  | difference => left.diff o.alphabet right
  | symmetricDifference => left.symmDiff o.alphabet right

namespace SetTree

mutual

def set? (o : Options) : SetTree → Option CodeSet
  | literal l => do return .ofCodes [← l.code? o]
  | range first last => do return .ofIntervals [⟨← first.code? o, ← last.code? o⟩]
  | named set negated => do return (← o.foldAndNegate? negated set.members).joined
  | short set negated => do return (← set.set? o negated).joined
  | property name negated => do return (← name.set? o negated).joined
  | bracketed negated inside => do return (← o.foldAndNegate? negated (← inside.set? o)).joined
  | union items => do return .unions (← sets? o items)
  | operation op left right => do
    return op.apply o (o.fold (← left.set? o)) (o.fold (← right.set? o))

def sets? (o : Options) : List SetTree → Option (List CodeSet)
  | [] => some []
  | item :: rest => do return (← item.set? o) :: (← sets? o rest)

end

end SetTree

/-- A literal is a class if it has case variants that count. -/
def CharLiteral.expr? (o : Options) (l : CharLiteral) : Option Expr :=
  if l.byte && !o.unicode && 0x7F < l.char.toNat then none
  else if o.ignoreCase && (if o.unicode then Unicode.hasCaseVariants l.char else l.char.isAlpha)
  then some (.ofClass (o.classSet (o.fold (.ofCodes [l.char.toNat]))))
  else some (.ofText [l.char])

/-- Every character, but for the ends of lines if they are not asked for. -/
def dot? (o : Options) : Option Expr :=
  if !o.unicode then none
  else
    let excluded : List Nat :=
      if o.dotMatchesNewLine then [] else if o.crlf then [0x0A, 0x0D] else [0x0A]
    some (.ofClass (.chars ((CodeSet.ofCodes excluded).complement .scalars)))

def Assertion.look (o : Options) : Assertion → Look
  | lineStart => if !o.multiLine then .start else if o.crlf then .startCRLF else .startLF
  | lineEnd => if !o.multiLine then .stop else if o.crlf then .endCRLF else .endLF
  | textStart => .start
  | textEnd => .stop
  | boundary => if o.unicode then .wordUnicode else .wordAscii
  | noBoundary => if o.unicode then .wordUnicodeNegate else .wordAsciiNegate
  | wordStart => if o.unicode then .wordStartUnicode else .wordStartAscii
  | wordEnd => if o.unicode then .wordEndUnicode else .wordEndAscii
  | wordStartHalf => if o.unicode then .wordStartHalfUnicode else .wordStartHalfAscii
  | wordEndHalf => if o.unicode then .wordEndHalfUnicode else .wordEndHalfAscii

def Atom.expr? (o : Options) : Atom → Option Expr
  | literal l => l.expr? o
  | dot => dot? o
  | assertion a => some (.look (a.look o))
  | short set negated => do return .ofClass (o.classSet (← set.set? o negated))
  | property name negated => do return .ofClass (o.classSet (← name.set? o negated))

namespace GroupKind

def options (o : Options) : GroupKind → Options
  | capture _ _ => o
  | plain changes => o.change changes

/-- Groups that capture nothing leave no trace. -/
def wrap (e : Expr) : GroupKind → Expr
  | capture index name => .capture index name e
  | plain _ => e

end GroupKind

namespace Tree

mutual

/-- The expression of a tree, and the flags that are in force behind it. -/
def expr? (o : Options) : Tree → Option (Expr × Options)
  | empty => some (.empty, o)
  | flags changes => some (.empty, o.change changes)
  | atom a => do return (← a.expr? o, o)
  | bracketed negated inside => do
    let set ← o.foldAndNegate? negated (← inside.set? o)
    return (.ofClass (o.classSet set), o)
  | repetition least most greedy body => do
    let (e, o) ← body.expr? o
    return (.repeated least most (greedy != o.swapGreed) e, o)
  | group kind body => do
    let (e, _) ← body.expr? (kind.options o)
    return (kind.wrap e, o)
  | concat parts => do
    let (es, o) ← exprs? o parts
    return (.sequence es, o)
  | alternation branches => do
    let (es, o) ← exprs? o branches
    return (.choice es, o)

def exprs? (o : Options) : List Tree → Option (List Expr × Options)
  | [] => some ([], o)
  | t :: rest => do
    let (e, o) ← t.expr? o
    let (es, o) ← exprs? o rest
    return (e :: es, o)

end

end Tree

end PatternMachine.Regex
