import ProgressTable.Text.Numeral
import ProgressTable.Toml.Scan

/-!
# Dates and times of settings files

A date, a time of day, or both, maybe with an offset from Greenwich. They are kept as text in one
spelling: a capital letter between date and time, no zeros at the end of a second, and plus before
no offset at all. Main definitions: `Moment.literal`, a date as it is written, and `Moment.read?`,
the text of a date, which is read less strictly.
-/

namespace ProgressTable.Toml.Moment

open Scan

/-- The value of decimal digits. -/
def number (ds : Text) : Nat := (Numeral.continueNat? 0 ds).getD 0

/-- A number of so many digits between two bounds, as it is written. -/
def field (digits least greatest : Nat) : Scan Text := do
  let t ← exactly Char.isDigit digits
  if least ≤ number t ∧ number t ≤ greatest then pure t else failure

/-- The number of days in a month. -/
def daysIn (year month : Nat) : Nat :=
  if month = 2 then
    if year % 4 = 0 ∧ (year % 100 ≠ 0 ∨ year % 400 = 0) then 29 else 28
  else if month ∈ [4, 6, 9, 11] then 30
  else 31

/-- A date. -/
def date : Scan Text := do
  let year ← field 4 0 9999
  word ['-']
  let month ← field 2 1 12
  word ['-']
  let day ← field 2 1 (daysIn (number year) (number month))
  pure (year ++ '-' :: month ++ '-' :: day)

/-- A part of a second, to nine digits and without zeros at its end. -/
def secondPart : Scan Text := do
  word ['.']
  let c ← one Char.isDigit
  let cs ← run Char.isDigit
  let kept := (((c :: cs).take 9).reverse.dropWhile (· = '0')).reverse
  pure (if kept.isEmpty then [] else '.' :: kept)

/-- A time of day with a bound on the hour. -/
def time (greatestHour : Nat) : Scan Text := do
  let hour ← field 2 0 greatestHour
  word [':']
  let minute ← field 2 0 59
  word [':']
  let second ← field 2 0 60
  let part ← secondPart.option
  pure (hour ++ ':' :: minute ++ ':' :: second ++ part.getD [])

/-- What stands between a date and a time. -/
def separator : Scan Unit := do
  let _ ← one fun c => c = 'T' || c = 't' || c = ' '

/-- An offset from Greenwich whose hours and minutes fit. None at all is east of it. -/
def offset (fits : Nat → Nat → Bool) : Scan Text :=
  (fun _ => ['Z']) <$> one (fun c => c = 'Z' || c = 'z') <|> do
    let mark ← one fun c => c = '+' || c = '-'
    let hours := number (← exactly Char.isDigit 2)
    word [':']
    let minutes := number (← exactly Char.isDigit 2)
    if fits hours minutes then
      let total := 60 * hours + minutes
      pure ((if total = 0 then '+' else mark)
        :: Numeral.padded 2 (total / 60) ++ ':' :: Numeral.padded 2 (total % 60))
    else failure

/-- A date, a time of day, or both, as it is written in a file. -/
def literal : Scan Text :=
  (do
    let d ← date
    let t ← (do
      separator
      let t ← time 23
      let o ← (offset fun hours minutes => hours ≤ 23 && minutes ≤ 59).option
      pure ('T' :: t ++ o.getD [])).option
    pure (d ++ t.getD []))
  <|> time 23

/-- Reads the text of a date, of a time of day, or of both. An hour may be the one after the last,
an offset may be a whole day, and a date may have an offset without a time. -/
def read? (t : Text) : Option Text :=
  let whole : Scan Text :=
    (do
      let d ← date
      let t ← (separator *> time 24).option
      let o ← (offset fun hours minutes => 60 * hours + minutes ≤ 24 * 60).option
      ending
      pure (d ++ (t.map ('T' :: ·)).getD [] ++ o.getD []))
    <|> time 24 <* ending
  (whole t).map (·.1)

example : read? "1979-05-27 07:32:00-07:30".toList = some "1979-05-27T07:32:00-07:30".toList
    ∧ read? "2020-01-01z".toList = some "2020-01-01Z".toList
    ∧ read? "07:32:00Z".toList = none ∧ read? "2020-13-01".toList = none := by
  decide +kernel

end ProgressTable.Toml.Moment
