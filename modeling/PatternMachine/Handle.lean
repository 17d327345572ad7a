import PatternMachine.Text.Spelling

/-!
# Typed handles

Addresses, distances and register numbers are all plain numbers. A handle carries in its type what
its number counts, so that one kind is never taken for another.
-/

namespace PatternMachine

/-- What the payload of an instruction can be. -/
inductive PayloadKind where
  | address
  | distance
  | element
  | string
  | predicate
  | consumeFunction
  | position
  | capture
  deriving DecidableEq, Repr

def PayloadKind.name : PayloadKind → String
  | address => "Address"
  | distance => "Distance"
  | element => "Element"
  | string => "String"
  | predicate => "Predicate"
  | consumeFunction => "ConsumeFunction"
  | position => "Position"
  | capture => "Capture"

/-- Conditions have a field of their own, and tokens stand for addresses not known yet. -/
inductive HandleKind where
  | payload (kind : PayloadKind)
  | condition
  | token
  deriving DecidableEq, Repr

def PayloadKind.sigil : PayloadKind → String
  | address => "@"
  | distance => ""
  | element => "%e"
  | string => "%s"
  | predicate => "%p"
  | consumeFunction => "%f"
  | position => "%r"
  | capture => "%c"

def HandleKind.sigil : HandleKind → String
  | payload kind => kind.sigil
  | condition => "%b"
  | token => "#"

structure Handle (kind : HandleKind) where
  index : Nat
  deriving DecidableEq, Repr

abbrev Payload (kind : PayloadKind) := Handle (.payload kind)

abbrev Address := Payload .address
abbrev Distance := Payload .distance
abbrev ElementRegister := Payload .element
abbrev StringRegister := Payload .string
abbrev PredicateRegister := Payload .predicate
abbrev ConsumeRegister := Payload .consumeFunction
abbrev PositionRegister := Payload .position
abbrev CaptureRegister := Payload .capture
abbrev BoolRegister := Handle .condition
abbrev Token := Handle .token

namespace Handle

variable {kind : HandleKind}

def text (h : Handle kind) : String := kind.sigil ++ toString h.index

instance : Spelled (Handle kind) := ⟨text⟩

instance : Ord (Handle kind) := ⟨fun a b => compare a.index b.index⟩

def next (h : Handle kind) : Handle kind := ⟨h.index + 1⟩

end Handle

end PatternMachine
