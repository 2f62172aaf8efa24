import TermSearch.Text.Quoted

/-! Texts in octets. A file is read as UTF-8, and octets that are no text are refused with the first place where they
go wrong: an octet that starts no character, one that does not continue the character it stands in, or an end inside
of a character. -/
namespace TermSearch.Text

/-- Why octets are no text. -/
inductive DecodingCause
  | start | continuation | ending
  deriving DecidableEq, Repr

def DecodingCause.wording : DecodingCause → String
  | start => "invalid start byte"
  | continuation => "invalid continuation byte"
  | ending => "unexpected end of data"

/-- Octets at which reading stops: the first of them, and the places of the first and the last one. -/
structure DecodingFault where
  octet : UInt8
  first : Nat
  last : Nat
  cause : DecodingCause
  deriving DecidableEq, Repr

/-- What a fault says. Several octets are shown by their places only. -/
def DecodingFault.message (e : DecodingFault) : String :=
  let place :=
    if e.first = e.last then
      "byte 0x" ++ String.ofList (hexDigits 2 e.octet.toNat) ++ " in position " ++ toString e.first
    else "bytes in position " ++ toString e.first ++ "-" ++ toString e.last
  "'utf-8' codec can't decode " ++ place ++ ": " ++ e.cause.wording

/-- The octets that may continue a character with a given first octet, as ranges one after the other. Overlong forms,
surrogates and numbers beyond the last character are left out. -/
def continuations? (octet : UInt8) : Option (List (UInt8 × UInt8)) :=
  let any : UInt8 × UInt8 := (0x80, 0xBF)
  if octet < 0x80 then some []
  else if octet < 0xC2 then none
  else if octet < 0xE0 then some [any]
  else if octet = 0xE0 then some [(0xA0, 0xBF), any]
  else if octet = 0xED then some [(0x80, 0x9F), any]
  else if octet < 0xF0 then some [any, any]
  else if octet = 0xF0 then some [(0x90, 0xBF), any, any]
  else if octet < 0xF4 then some [any, any, any]
  else if octet = 0xF4 then some [(0x80, 0x8F), any, any]
  else none

/-- A character that has been begun: its first octet, the number of octets read, and the ranges of those to come. -/
structure BegunChar where
  octet : UInt8
  read : Nat
  awaited : List (UInt8 × UInt8)

/-- The fault of octets that are no text, behind a character that has been begun at a given place. -/
def faultFrom (begun : BegunChar) (first : Nat) : List UInt8 → DecodingFault
  | [] => ⟨begun.octet, first, first + begun.read - 1, .ending⟩
  | octet :: rest =>
    match begun.awaited with
    | [] =>
      let next := first + begun.read
      match continuations? octet with
      | some awaited => faultFrom ⟨octet, 1, awaited⟩ next rest
      | none => ⟨octet, next, next, .start⟩
    | (least, greatest) :: awaited =>
      if least ≤ octet ∧ octet ≤ greatest then faultFrom ⟨begun.octet, begun.read + 1, awaited⟩ first rest
      else ⟨begun.octet, first, first + begun.read - 1, .continuation⟩

/-- The text in some octets. -/
def decode (octets : ByteArray) : Except DecodingFault String :=
  match String.fromUTF8? octets with
  | some s => .ok s
  | none => .error (faultFrom ⟨0, 0, []⟩ 0 octets.toList)

@[simp] theorem decode_toUTF8 (s : String) : decode s.toUTF8 = .ok s := by
  have hvalid : s.toUTF8.IsValidUTF8 := s.isValidUTF8
  rw [decode, String.fromUTF8?, dif_pos hvalid]
  rfl

example : (faultFrom ⟨0, 0, []⟩ 0 [0x41, 0xE6, 0x9D]).message =
    "'utf-8' codec can't decode bytes in position 1-2: unexpected end of data" := by decide +kernel
example : (faultFrom ⟨0, 0, []⟩ 0 [0x41, 0xE0, 0x80, 0x80]).message =
    "'utf-8' codec can't decode byte 0xe0 in position 1: invalid continuation byte" := by decide +kernel

end TermSearch.Text
