/-!
# UTF-8

Bytes are read back as the characters that they are the encoding of. Only the encoding itself is
accepted: no superfluous bytes, no surrogates, nothing beyond the last code point.
-/

namespace PatternMachine.Utf8

def encode (text : List Char) : List UInt8 := text.flatMap String.utf8EncodeChar

/-- The number that the payload bits of one to four bytes make up. -/
def code : List UInt8 → Nat
  | [a] => a.toNat
  | [a, b] => a.toNat % 32 * 64 + b.toNat % 64
  | [a, b, c] => (a.toNat % 16 * 64 + b.toNat % 64) * 64 + c.toNat % 64
  | [a, b, c, d] => ((a.toNat % 8 * 64 + b.toNat % 64) * 64 + c.toNat % 64) * 64 + d.toNat % 64
  | _ => 0

/-- The character with exactly this encoding. -/
def char? (bytes : List UInt8) : Option Char :=
  let c := Char.ofNat (code bytes)
  if String.utf8EncodeChar c = bytes then some c else none

/-- The characters that a sequence of bytes encodes; the first byte tells the length. -/
def decode? : List UInt8 → Option (List Char)
  | [] => some []
  | a :: rest =>
    if a < 0x80 then follow [a] (decode? rest)
    else
      match rest with
      | [] => none
      | b :: rest =>
        if a < 0xE0 then follow [a, b] (decode? rest)
        else
          match rest with
          | [] => none
          | c :: rest =>
            if a < 0xF0 then follow [a, b, c] (decode? rest)
            else
              match rest with
              | [] => none
              | d :: rest => follow [a, b, c, d] (decode? rest)
where
  follow (bytes : List UInt8) (rest : Option (List Char)) : Option (List Char) := do
    return (← char? bytes) :: (← rest)

end PatternMachine.Utf8
