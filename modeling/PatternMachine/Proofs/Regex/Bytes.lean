import PatternMachine.Regex.Basic

/-! Positions count characters, and offsets count bytes. The offset of a position is where the bytes of
its character begin, so that a text can be cut there. -/
namespace PatternMachine.Regex

end PatternMachine.Regex
