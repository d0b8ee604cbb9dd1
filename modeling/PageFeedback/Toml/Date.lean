set_option autoImplicit false

namespace PageFeedback.Toml

def fixedNumber? (count : Nat) (chars : List Char) : Option (Nat × List Char) :=
  let digits := chars.take count
  if digits.length = count && digits.all Char.isDigit then
    some (Nat.ofDigitChars 10 digits 0, chars.drop count)
  else none

def expect? (c : Char) : List Char → Option (List Char)
  | d :: rest => if d = c then some rest else none
  | [] => none

def isLeapYear (year : Nat) : Bool := year % 4 = 0 && (year % 100 ≠ 0 || year % 400 = 0)

def daysInMonth (year month : Nat) : Nat :=
  if month = 2 then if isLeapYear year then 29 else 28
  else if month = 4 || month = 6 || month = 9 || month = 11 then 30
  else 31

def date? (chars : List Char) : Option (List Char) := do
  let (year, rest) ← fixedNumber? 4 chars
  let (month, rest) ← fixedNumber? 2 (← expect? '-' rest)
  let (day, rest) ← fixedNumber? 2 (← expect? '-' rest)
  if 1 ≤ month && month ≤ 12 && 1 ≤ day && day ≤ daysInMonth year month then return rest else none

def fraction? : List Char → Option (List Char)
  | '.' :: rest =>
      if (rest.takeWhile Char.isDigit).isEmpty then none else some (rest.dropWhile Char.isDigit)
  | rest => some rest

def clock? (chars : List Char) : Option (List Char) := do
  let (hour, rest) ← fixedNumber? 2 chars
  let (minute, rest) ← fixedNumber? 2 (← expect? ':' rest)
  if hour ≤ 23 && minute ≤ 59 then return rest else none

def time? (chars : List Char) : Option (List Char) := do
  let rest ← clock? chars
  match rest with
  | ':' :: rest =>
      let (second, rest) ← fixedNumber? 2 rest
      if second ≤ 60 then fraction? rest else none
  | rest => return rest

def offset? : List Char → Option (List Char)
  | 'Z' :: rest => some rest
  | 'z' :: rest => some rest
  | '+' :: rest => clock? rest
  | '-' :: rest => clock? rest
  | rest => some rest

def isDatetime (chars : List Char) : Bool :=
  match date? chars with
  | some [] => true
  | some (mark :: rest) =>
      (mark = 'T' || mark = 't' || mark = ' ') && (time? rest).bind offset? == some []
  | none => time? chars == some []

end PageFeedback.Toml
