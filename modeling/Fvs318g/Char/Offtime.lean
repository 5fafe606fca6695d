import Fvs318g.Char.Rtc

/-!
# `offtime` in the arithmetic of the machine

`long int` has 32 bits, and an overflow of signed arithmetic is undefined. Here every operation of
`offtime` is checked: one that leaves the range has no result. The loops run for a given number of
rounds and have no result when they are not over by then.
-/

namespace Fvs318g.Char

open Lib

/-- The first loop of `offtime`. -/
def raiseRemChecked : Nat → Int → Int → Option (Int × Int)
  | 0, _, _ => none
  | rounds + 1, days, rem =>
    if rem < 0 then do
      let rem ← checked (rem + secsPerDay)
      let days ← checked (days - 1)
      raiseRemChecked rounds days rem
    else some (days, rem)

/-- The second loop of `offtime`. -/
def lowerRemChecked : Nat → Int → Int → Option (Int × Int)
  | 0, _, _ => none
  | rounds + 1, days, rem =>
    if secsPerDay ≤ rem then do
      let rem ← checked (rem - secsPerDay)
      let days ← checked (days + 1)
      lowerRemChecked rounds days rem
    else some (days, rem)

/-- `DIV`, for a positive divisor. -/
def divChecked (a b : Int) : Option Int := checked (a.tdiv b - (if a.tmod b < 0 then 1 else 0))

/-- `LEAPS_THRU_END_OF`. -/
def leapsThruEndOfChecked (y : Int) : Option Int := do
  let fourth ← divChecked y 4
  let hundredth ← divChecked y 100
  let difference ← checked (fourth - hundredth)
  checked (difference + (← divChecked y 400))

/-- One round of the year loop: the days that are left, and the year. -/
def yearRound (days y : Int) : Option (Int × Int) := do
  let reached ← checked (y + days.tdiv 365)
  let yg ← checked (reached - (if days.tmod 365 < 0 then 1 else 0))
  let years ← checked (yg - y)
  let whole ← checked (years * 365)
  let until_ ← checked (whole + (← leapsThruEndOfChecked (← checked (yg - 1))))
  let taken ← checked (until_ - (← leapsThruEndOfChecked (← checked (y - 1))))
  let days ← checked (days - taken)
  some (days, yg)

/-- The year loop of `offtime`. -/
def yearLoopChecked : Nat → Int → Int → Option (Int × Int)
  | 0, _, _ => none
  | rounds + 1, days, y =>
    if outsideYear days y then do
      let (days, y) ← yearRound days y
      yearLoopChecked rounds days y
    else some (days, y)

/-- The start of `offtime`: the day, and the second of the day. -/
def dayAndRemChecked (rounds : Nat) (t offset : Int) : Option (Int × Int) := do
  let rem ← checked (t.tmod secsPerDay + offset)
  let (days, rem) ← raiseRemChecked rounds (t.tdiv secsPerDay) rem
  lowerRemChecked rounds days rem

/-- The day of the week. -/
def wdayChecked (days : Int) : Option Int := do
  let wday := (← checked (4 + days)).tmod 7
  if wday < 0 then checked (wday + 7) else some wday

/-- `offtime`, with at most `rounds` rounds of each of its first three loops. -/
def offtimeChecked (rounds : Nat) (t offset : Int) : Option RtcTime := do
  let (days, rem) ← dayAndRemChecked rounds t offset
  let tmHour := rem.tdiv secsPerHour
  let rem := rem.tmod secsPerHour
  let wday ← wdayChecked days
  let (days, y) ← yearLoopChecked rounds days 1970
  let tmYear ← checked (y - 1900)
  let ip := monYday (isleap y)
  let mon := monthSearch ip days 11
  let tmMday ← checked ((← checked (days - ip.getD mon 0)) + 1)
  some
    { tmSec := rem.tmod 60
      tmMin := rem.tdiv 60
      tmHour := tmHour
      tmMday := tmMday
      tmMon := mon
      tmYear := tmYear
      tmWday := wday
      tmYday := days }

end Fvs318g.Char
