/-! Octets written in base 64. Four characters stand for three octets; characters outside the alphabet
are passed over, and one or two marks fill up the last four. -/
namespace TermSearch.Document.Base64

/-- The value of a character of the alphabet. -/
def digit? (c : Char) : Option Nat :=
  if c.isUpper then some (c.toNat - 65)
  else if c.isLower then some (c.toNat - 71)
  else if c.isDigit then some (c.toNat + 4)
  else if c = '+' then some 62
  else if c = '/' then some 63
  else none

/-- The octets of the digits at the front of a text. `read` counts the digits of the current four, `pads`
the filling marks behind them, and `carry` holds the bits that make up no octet yet. The text ends where
the current four are filled up; at its end they have to be complete. -/
def octetsFrom (read pads carry : Nat) : List Char → Option (List UInt8)
  | [] => if read = 0 then some [] else none
  | c :: rest =>
    if c = '=' then
      if read < 2 then octetsFrom read pads carry rest
      else if 4 ≤ read + pads + 1 then some []
      else octetsFrom read (pads + 1) carry rest
    else
      match digit? c with
      | none => octetsFrom read pads carry rest
      | some d =>
        let bits := carry * 64 + d
        match read with
        | 0 => octetsFrom 1 0 bits rest
        | 1 => (octetsFrom 2 0 (bits % 16) rest).map (UInt8.ofNat (bits / 16) :: ·)
        | 2 => (octetsFrom 3 0 (bits % 4) rest).map (UInt8.ofNat (bits / 4) :: ·)
        | _ => (octetsFrom 0 0 0 rest).map (UInt8.ofNat bits :: ·)

def decode? (s : List Char) : Option (List UInt8) := octetsFrom 0 0 0 s

example : decode? "aGk=".toList = some [104, 105] := by decide +kernel
example : decode? "a Gk\n".toList = none := by decide +kernel

end TermSearch.Document.Base64
