import RouteScript.Text.Numeral

/-!
# Timestamps

A date `year-month-day`, optionally with a time of day behind it: after `T` or `t` the time carries a
zone, after spaces it does not. Months, days, hours, minutes and seconds have one or two digits.
-/

namespace RouteScript.Timestamp

open Text Numeral

def shortNumber? : Text → Option (Nat × Text)
  | a :: b :: t =>
    if isDigit a then
      if isDigit b then some ((a.toNat - 0x30) * 10 + (b.toNat - 0x30), t)
      else some (a.toNat - 0x30, b :: t)
    else none
  | [a] => if isDigit a then some (a.toNat - 0x30, []) else none
  | [] => none

def twoDigits? : Text → Option (Nat × Text)
  | a :: b :: t =>
    if isDigit a && isDigit b then some ((a.toNat - 0x30) * 10 + (b.toNat - 0x30), t) else none
  | _ => none

def after? (b : UInt8) : Text → Option Text
  | c :: t => if b = c then some t else none
  | [] => none

def isLeap (year : Nat) : Bool := year % 4 == 0 && (year % 100 != 0 || year % 400 == 0)

def daysIn (year month : Nat) : Nat :=
  if month = 2 then (if isLeap year then 29 else 28)
  else if month = 4 ∨ month = 6 ∨ month = 9 ∨ month = 11 then 30
  else 31

/-- What follows a valid date with a four-digit year. -/
def afterDate? (t : Text) : Option Text := do
  guard ((t.takeWhile isDigit).length = 4)
  let year ← digits? 10 (t.take 4)
  let t ← after? dash (t.drop 4)
  let (month, t) ← shortNumber? t
  let t ← after? dash t
  let (day, t) ← shortNumber? t
  guard (1 ≤ month ∧ month ≤ 12 ∧ 1 ≤ day ∧ day ≤ daysIn year month)
  return t

def afterFraction : Text → Text
  | p :: d :: t =>
    if (p = dot ∨ p = comma) ∧ isDigit d then t.dropWhile isDigit else p :: d :: t
  | t => t

def afterTime? (t : Text) : Option Text := do
  let (hour, t) ← shortNumber? t
  let t ← after? colon t
  let (minute, t) ← shortNumber? t
  let t ← after? colon t
  let (second, t) ← shortNumber? t
  guard (hour < 24 ∧ minute < 60 ∧ second < 60)
  return afterFraction t

/-- The text is a time zone: `Z`, or hours and minutes with a sign. -/
def isZone : Text → Bool
  | [0x5A] => true
  | sign :: t =>
    (sign == 0x2B || sign == dash) &&
      (do
        let (hours, t) ← twoDigits? t
        let t ← after? colon t
        let (minutes, t) ← twoDigits? t
        guard (hours ≤ 24 ∧ minutes ≤ 60 ∧ t = [])).isSome
  | [] => false

def isTimestamp (t : Text) : Bool :=
  match afterDate? t with
  | none => false
  | some [] => true
  | some (b :: rest) =>
    if b = 0x54 ∨ b = 0x74 then (afterTime? rest).any isZone
    else if b = space then (afterTime? (rest.dropWhile (· = space))).any (· = [])
    else false

end RouteScript.Timestamp
