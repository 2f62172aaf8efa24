import TermSearch.Calendar.DateReading
import TermSearch.Calendar.DateToken

/-! Reading the tokens of a written date one group after another. Each reader of a group answers with what
is known then and with the number of tokens that it took behind the first. -/
namespace TermSearch.Calendar

/-- An hour in the given half of a day. -/
def adjustHour (hour half : Nat) : Nat :=
  if hour < 12 ∧ half = 1 then hour + 12 else if hour = 12 ∧ half = 0 then 0 else hour

/-- The place of the unit that belongs to a number: behind it, behind it with a space between, before
it, or before it with a space between at the end. The answer gives the unit and the number of tokens
taken behind the number; a unit before it is the next smaller one. -/
def unitFor? (before after : List String) : Option (Nat × Nat) :=
  let behind : Option (Nat × Nat) := match after with
    | word :: more =>
      match clockUnitOf? word with
      | some unit => some (unit, 1)
      | none =>
        match word, more with
        | " ", next :: _ => (clockUnitOf? next).map (·, 2)
        | _, _ => none
    | [] => none
  behind.or <|
    match before with
    | word :: more =>
      match clockUnitOf? word with
      | some unit => some (unit + 1, 0)
      | none =>
        match word, more, after with
        | " ", next :: _, [] => (clockUnitOf? next).map (· + 1, 0)
        | _, _, _ => none
    | [] => none

/-- Reads the second and third number of a date whose first number and separator have been read. The
answer gives the number of tokens taken behind the first number. -/
def readSeparated (r : Reading) (separator : String) (after : List String) :
    Option (Reading × Nat) :=
  match after with
  | [] => some (r, 1)
  | second :: more =>
    if isFiller second then some (r, 1)
    else do
      let r ←
        if second.toList.all Text.isDigit then r.addDigits second none
        else do r.addPart (← monthOf? second) (some .month)
      match more with
      | mark :: rest =>
        if mark = separator then
          match rest with
          | [] => none
          | third :: _ =>
            let r ← match monthOf? third with
              | some month => r.addPart month (some .month)
              | none => r.addDigits third none
            return (r, 4)
        else return (r, 2)
      | [] => return (r, 2)

/-- Reads a time of day whose hour has been read, from the minutes on. -/
def readClock (r : Reading) (hour : Nat) (minutes : String) (more : List String) :
    Except DateFault (Reading × Nat) := do
  let r ← Reading.setMinutes { r with hour := some hour } (← readable (Amount.ofToken? minutes.toList))
  match more with
  | ":" :: seconds :: _ => return (← readable (r.setSeconds seconds.toList), 4)
  | _ => return (r, 2)

/-- Whether four or two digits behind a whole date are a time: no colon and no unit stands behind
them. -/
def endsNumber (after : List String) : Bool :=
  match after with
  | [] => true
  | next :: _ => next != ":" && (clockUnitOf? next).isNone

/-- Reads a number of two or four digits behind a whole date: an hour, and the minutes. -/
def readTrailing (r : Reading) (s : List Char) : Option Reading := do
  let hour ← Text.numberOf? (s.take 2)
  if s.length = 2 then return { r with hour := some hour }
  else return { r with hour := some hour, minute := some (← Text.numberOf? (s.drop 2)) }

/-- Reads six digits, which may have a fraction: a date, or a time of day where some of the date is known
or a fraction follows. -/
def readSix (r : Reading) (s : List Char) : Option Reading := do
  let part (i n : Nat) : List Char := (s.drop i).take n
  if r.parts.isEmpty ∧ ¬ s.contains '.' then
    let r ← r.addDigits (String.ofList (part 0 2)) none
    let r ← r.addDigits (String.ofList (part 2 2)) none
    r.addDigits (String.ofList (part 4 2)) none
  else
    let r := { r with hour := ← Text.numberOf? (part 0 2), minute := ← Text.numberOf? (part 2 2) }
    r.setSeconds (s.drop 4)

/-- Reads eight, twelve or fourteen digits: a date, and a time of day behind it. -/
def readCompact (r : Reading) (s : List Char) : Option Reading := do
  let part (i n : Nat) : List Char := (s.drop i).take n
  let r ← r.addDigits (String.ofList (part 0 4)) (some .year)
  let r ← r.addDigits (String.ofList (part 4 2)) none
  let r ← r.addDigits (String.ofList (part 6 2)) none
  if s.length = 8 then return r
  let r := { r with hour := ← Text.numberOf? (part 8 2), minute := ← Text.numberOf? (part 10 2) }
  if s.length = 12 then return r
  return { r with second := ← Text.numberOf? (s.drop 12) }

/-- Reads a number that stands neither in a compact form nor at a unit of time. The answer gives the number
of tokens taken behind the number. -/
def readLoose (r : Reading) (token : String) (a : Amount) (after : List String) :
    Except DateFault (Reading × Nat) :=
  let asDay : Except DateFault (Reading × Nat) :=
    readable (if r.mayBeDay a then (r.addAmount a).map (·, 0) else none)
  match after with
  | [] => readable ((r.addAmount a).map (·, 1))
  | next :: more =>
    match next, more with
    | ":", minutes :: rest => readClock r a.whole minutes rest
    | _, _ =>
      if next = "-" ∨ next = "/" ∨ next = "." then
        readable do readSeparated (← r.addDigits token none) next more
      else if isFiller next then
        match more.head?.bind halfOf? with
        | some half => .ok ({ r with hour := some (adjustHour a.whole half) }, 2)
        | none => readable ((r.addAmount a).map (·, 1))
      else
        match halfOf? next with
        | some half =>
          if a.whole < 24 then .ok ({ r with hour := some (adjustHour a.whole half) }, 1) else asDay
        | none => asDay

/-- Reads a number, seen with the tokens before it (the nearest first) and behind it. The answer gives
the number of tokens taken behind the number. -/
def readNumber (r : Reading) (before : List String) (token : String) (a : Amount)
    (after : List String) : Except DateFault (Reading × Nat) :=
  let s := token.toList
  let count := s.length
  let alone (found : Option Reading) : Except DateFault (Reading × Nat) :=
    readable (found.map (·, 0))
  if r.parts.length = 3 ∧ (count = 2 ∨ count = 4) ∧ r.hour.isNone ∧ endsNumber after then
    alone (readTrailing r s)
  else if count = 6 ∨ (6 < count ∧ (s.takeWhile (· != '.')).length = 6) then alone (readSix r s)
  else if count = 8 ∨ count = 12 ∨ count = 14 then alone (readCompact r s)
  else
    match unitFor? before after with
    | some (unit, taken) => (r.setUnit s a unit).map (·, taken)
    | none => readLoose r token a after

/-- Reads what follows the name of a month: a day and a year behind separators, or a year behind a word
such as `of`. -/
def readMonth (r : Reading) (month : Nat) (today : Nat → Nat) (after : List String) :
    Option (Reading × Nat) := do
  let r ← r.addPart month (some .month)
  match after with
  | mark :: more =>
    if mark = "-" ∨ mark = "/" then
      match more with
      | [] => none
      | second :: rest =>
        let r ← r.addDigits second none
        match rest with
        | mark' :: rest' =>
          if mark' = mark then
            match rest' with
            | [] => none
            | third :: _ => return (← r.addDigits third none, 4)
          else return (r, 2)
        | [] => return (r, 2)
    else
      match mark, more with
      | " ", word :: " " :: year :: _ =>
        if lowered word = "of" then
          if year.toList.all Text.isDigitSign then
            let n ← Text.naturalOf? year.toList
            return (← r.addDigits (toString (today n)) (some .year), 4)
          else return (r, 4)
        else return (r, 0)
      | _, _ => return (r, 0)
  | [] => return (r, 0)

/-- Reads an offset behind its sign. -/
def readOffset (r : Reading) (sign : String) (after : List String) : Option (Reading × Nat) :=
  match after with
  | [] => none
  | digits :: more => do
    let s := digits.toList
    let (hours, minutes, taken) ←
      if s.length = 4 then do
        pure (← Text.naturalOf? (s.take 2), ← Text.naturalOf? (s.drop 2), 1)
      else
        match more with
        | ":" :: rest => do
          let minutes ← rest.head?
          pure (← Text.naturalOf? s, ← Text.naturalOf? minutes.toList, 3)
        | _ => if s.length ≤ 2 then do pure (← Text.naturalOf? s, 0, 1) else none
    let size : Int := (hours * 3600 + minutes * 60 : Nat)
    let r := { r with offset := some (if sign = "+" then size else -size) }
    match after.drop taken with
    | space :: "(" :: name :: ")" :: _ =>
      if isFiller space ∧ 3 ≤ name.length ∧ r.mayBeZone false name then
        return ({ r with zone := some name }, taken + 4)
      else return (r, taken)
    | _ => return (r, taken)

/-- The year that a number of at most two digits stands for: within fifty years of the given one. -/
def nearYear (thisYear year : Nat) : Nat :=
  if 100 ≤ year then year
  else
    let year := year + thisYear / 100 * 100
    if thisYear + 50 ≤ year then year - 100 else if year + 50 < thisYear then year + 100 else year

/-- The opposite of a sign. -/
def opposite (sign : String) : String := if sign = "+" then "-" else "+"

/-- Reads the tokens from a place on, seen with those before it, the nearest first. -/
def readTokens (thisYear : Nat) (r : Reading) (before : List String) :
    List String → Except DateFault Reading
  | [] => .ok r
  | token :: after =>
    if numberWords.contains (lowered token) then .error .unreadable
    else
      match Amount.ofToken? token.toList with
      | some a =>
        match readNumber r before token a after with
        | .ok (r, taken) =>
          readTokens thisYear r ((after.take taken).reverse ++ token :: before) (after.drop taken)
        | .error e => .error e
      | none =>
        match weekdayOf? token with
        | some weekday => readTokens thisYear { r with weekday := some weekday } (token :: before) after
        | none =>
          match monthOf? token with
          | some month =>
            match readMonth r month (nearYear thisYear) after with
            | some (r, taken) =>
              readTokens thisYear r ((after.take taken).reverse ++ token :: before)
                (after.drop taken)
            | none => .error .unreadable
          | none =>
            match halfOf? token with
            | some half =>
              match r.hour with
              | some hour =>
                if hour ≤ 12 then
                  readTokens thisYear { r with hour := some (adjustHour hour half) }
                    (token :: before) after
                else .error .unreadable
              | none => .error .unreadable
            | none =>
              if r.mayBeZone true token then
                match _h : after with
                | sign :: more =>
                  if sign = "+" ∨ sign = "-" then
                    let zone := if isUniversal token then none else some token
                    match readOffset { r with zone := zone, offset := none } (opposite sign) more with
                    | some (r, taken) =>
                      readTokens thisYear r
                        ((more.take taken).reverse ++ opposite sign :: token :: before)
                        (more.drop taken)
                    | none => .error .unreadable
                  else
                    readTokens thisYear
                      { r with zone := some token, offset := if token = "z" then some 0 else none }
                      (token :: before) (sign :: more)
                | [] =>
                  readTokens thisYear
                    { r with zone := some token, offset := if token = "z" then some 0 else none }
                    (token :: before) []
              else if r.hour.isSome ∧ (token = "+" ∨ token = "-") then
                match readOffset r token after with
                | some (r, taken) =>
                  readTokens thisYear r ((after.take taken).reverse ++ token :: before)
                    (after.drop taken)
                | none => .error .unreadable
              else if isFiller token then readTokens thisYear r (token :: before) after
              else .error .unreadable
termination_by tokens => tokens.length
decreasing_by all_goals (simp only [List.length_cons, List.length_drop, List.length_nil]; omega)

end TermSearch.Calendar
