import RegionToggle.Toml.Scan

/-!
# Numbers, dates and times of settings files

An integer has 64 bits and a sign. A float is refused only if it is too large for a 64-bit binary
float. Of a date and a time, only the form and the ranges of its parts count.
-/

namespace RegionToggle.Toml

/-- The number that digits spell in a base. -/
def valueOfDigits (base : Nat) (digits : Text) : Nat :=
  digits.foldl (fun n c => base * n + (hexDigit? c).getD 0) 0

/-- Reads digits that follow a first one; a single underscore may stand between two digits. -/
def moreDigits (isDigit : Char → Bool) : Text → Text × Text
  | [] => ([], [])
  | '_' :: d :: rest =>
    if isDigit d then pushTo d (moreDigits isDigit rest) else ([], '_' :: d :: rest)
  | d :: rest => if isDigit d then pushTo d (moreDigits isDigit rest) else ([], d :: rest)

def digits? (isDigit : Char → Bool) : Scanner Text
  | [] => none
  | d :: rest => if isDigit d then some (pushTo d (moreDigits isDigit rest)) else none

def sign : Text → Bool × Text
  | '+' :: rest => (false, rest)
  | '-' :: rest => (true, rest)
  | rest => (false, rest)

/-- Reads the decimal digits of a whole number; a zero at the front stands alone. -/
def decimal? : Scanner Text
  | '0' :: rest => some (['0'], rest)
  | t => digits? Char.isDigit t

/-- Whether a whole number fits into 64 bits with a sign. -/
def fits (n : Int) : Bool := decide (-Int.pow 2 63 ≤ n ∧ n < Int.pow 2 63)

/-- Reads an integer with the digits of a base, behind the mark of the base. -/
def basedInteger? (base : Nat) (isDigit : Char → Bool) (t : Text) : Option (Value × Text) := do
  let (digits, rest) ← digits? isDigit t
  let n : Int := valueOfDigits base digits
  if fits n then some (.integer n, rest) else none

def integer? : Scanner Value
  | '0' :: 'x' :: rest => basedInteger? 16 (fun c => (hexDigit? c).isSome) rest
  | '0' :: 'o' :: rest => basedInteger? 8 (fun c => decide ('0' ≤ c ∧ c ≤ '7')) rest
  | '0' :: 'b' :: rest => basedInteger? 2 (fun c => c == '0' || c == '1') rest
  | t => do
    let (negative, rest) := sign t
    let (digits, rest) ← decimal? rest
    let size : Int := valueOfDigits 10 digits
    let n := if negative then -size else size
    if fits n then some (.integer n, rest) else none

/-! ## Floats -/

/-- The least number that is rounded to infinity: half a step above the largest 64-bit float. -/
def floatBound : Nat := Nat.pow 2 1024 - Nat.pow 2 970

/-- Whether digits, with the point moved so many places to the right, are at least `floatBound`. The
count of places before the point decides all cases but those of about that size. -/
def overflows (digits : Text) (places : Int) : Bool :=
  let digits := digits.dropWhile (· == '0')
  let before := digits.length + places
  if digits.isEmpty || before < 300 then false
  else if 320 < before then true
  else
    let size := valueOfDigits 10 digits
    if 0 ≤ places then decide (floatBound ≤ size * Nat.pow 10 places.toNat)
    else decide (floatBound * Nat.pow 10 (-places).toNat ≤ size)

def exponent? : Scanner Int
  | [] => none
  | e :: rest =>
    if e == 'e' || e == 'E' then do
      let (negative, rest) := sign rest
      let (digits, rest) ← digits? Char.isDigit rest
      let size : Int := valueOfDigits 10 digits
      some (if negative then -size else size, rest)
    else none

/-- Reads a float written with a point, an exponent or both. -/
def plainFloat? (t : Text) : Option (Value × Text) := do
  let (negative, rest) := sign t
  let (whole, rest) ← decimal? rest
  let (fraction, exponent, rest) ←
    match rest with
    | '.' :: rest => do
      let (fraction, rest) ← digits? Char.isDigit rest
      match exponent? rest with
      | some (exponent, rest) => some (fraction, exponent, rest)
      | none => some (fraction, 0, rest)
    | _ => do
      let (exponent, rest) ← exponent? rest
      some ([], exponent, rest)
  if !negative && overflows (whole ++ fraction) (exponent - fraction.length) then none
  else some (.float, rest)

def specialFloat? (t : Text) : Option (Value × Text) :=
  match (sign t).2 with
  | 'i' :: 'n' :: 'f' :: rest => some (.float, rest)
  | 'n' :: 'a' :: 'n' :: rest => some (.float, rest)
  | _ => none

def float? (t : Text) : Option (Value × Text) := (plainFloat? t).or (specialFloat? t)

/-! ## Dates and times -/

/-- Reads a number of exactly so many digits. -/
def fixedNumber? (count : Nat) (t : Text) : Option (Nat × Text) :=
  let digits := t.take count
  if digits.length = count ∧ digits.all Char.isDigit then
    some (valueOfDigits 10 digits, t.drop count)
  else none

def twoDigits? (low high : Nat) (t : Text) : Option (Nat × Text) := do
  let (n, rest) ← fixedNumber? 2 t
  if low ≤ n ∧ n ≤ high then some (n, rest) else none

def char? (c : Char) (t : Text) : Option Text := Text.stripFront? [c] t

/-- How many days a month has. -/
def daysIn (year month : Nat) : Nat :=
  if month = 2 then
    if year % 4 = 0 ∧ (year % 100 ≠ 0 ∨ year % 400 = 0) then 29 else 28
  else if month = 4 ∨ month = 6 ∨ month = 9 ∨ month = 11 then 30
  else 31

def afterDate? (t : Text) : Option Text := do
  let (year, rest) ← fixedNumber? 4 t
  let (month, rest) ← twoDigits? 1 12 (← char? '-' rest)
  let (day, rest) ← twoDigits? 1 31 (← char? '-' rest)
  if day ≤ daysIn year month then some rest else none

/-- The text behind a time of day. -/
def afterTime? (t : Text) : Option Text := do
  let (_, rest) ← twoDigits? 0 23 t
  let (_, rest) ← twoDigits? 0 59 (← char? ':' rest)
  let (_, rest) ← twoDigits? 0 60 (← char? ':' rest)
  match rest with
  | '.' :: d :: more => some (if d.isDigit then more.dropWhile Char.isDigit else rest)
  | _ => some rest

/-- The text behind the offset of a time from universal time. -/
def afterOffset? : Text → Option Text
  | [] => none
  | c :: rest =>
    if c == 'Z' || c == 'z' then some rest
    else if c == '+' || c == '-' then do
      let (_, rest) ← twoDigits? 0 23 rest
      let (_, rest) ← twoDigits? 0 59 (← char? ':' rest)
      some rest
    else none

/-- The text behind a date, a time of day, or a date and a time with or without an offset. -/
def afterMoment? (t : Text) : Option Text :=
  match afterDate? t with
  | none => afterTime? t
  | some rest =>
    match rest with
    | c :: more =>
      if c == 'T' || c == 't' || c == ' ' then
        match afterTime? more with
        | some rest => some ((afterOffset? rest).getD rest)
        | none => some rest
      else some rest
    | [] => some rest

def date? (t : Text) : Option (Value × Text) :=
  (afterMoment? t).map fun rest => (.date, rest)

def number? (t : Text) : Option (Value × Text) := ((date? t).or (float? t)).or (integer? t)

end RegionToggle.Toml
