import RouteScript.Text.Timestamp

/-!
# Dates and times

A date `year-month-day`, a time `hour:minute:second` with or without a fraction, or both with a `T`
between them and perhaps a time zone behind them. All numbers have their full width.
-/

namespace RouteScript.Toml

open Text Numeral Timestamp

def afterFullDate? (t : Text) : Option Text := do
  guard ((t.take 4).length = 4 ∧ (t.take 4).all isDigit)
  let year ← digits? 10 (t.take 4)
  let t ← after? dash (t.drop 4)
  let (month, t) ← twoDigits? t
  let t ← after? dash t
  let (day, t) ← twoDigits? t
  guard (1 ≤ month ∧ month ≤ 12 ∧ 1 ≤ day ∧ day ≤ daysIn year month)
  return t

def afterFullTime? (t : Text) : Option Text := do
  let (hour, t) ← twoDigits? t
  let t ← after? colon t
  let (minute, t) ← twoDigits? t
  let t ← after? colon t
  let (second, t) ← twoDigits? t
  guard (hour < 24 ∧ minute < 60 ∧ second < 60)
  return afterFraction t

/-- A date or time with its signs in capitals and a `T` in the place of a space. -/
def plainDatetime (t : Text) : Text :=
  t.map fun b => if b = 0x7A then 0x5A else if b = 0x74 ∨ b = space then 0x54 else b

def isDatetime (t : Text) : Bool :=
  match afterFullDate? t with
  | some [] => true
  | some (0x54 :: rest) => (afterFullTime? rest).any fun z => z.isEmpty || isZone z
  | some _ => false
  | none => (afterFullTime? t).any (·.isEmpty)

end RouteScript.Toml
