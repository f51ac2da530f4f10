import ClusterAccess.Calendar
import ClusterAccess.Yaml.Fault

/-!
# Dates and times of day

`MomentFields.read?` recognises the text of a date (`2001-12-14`), or of a date with a time, a
fraction of a second and an offset (`2001-12-14t21:59:43.10-05:00`). `Moment.ofFields` is the date or
the point in time that the fields name, if there is one.
-/

namespace ClusterAccess.Yaml

/-- The time of day in a text. The offset is in minutes. -/
structure TimeFields where
  hour : Nat
  minute : Nat
  second : Nat
  micros : Nat
  offset : Option Int
  deriving DecidableEq, Repr

/-- A date in a text, and the time behind it. `padded` tells whether month and day have two digits. -/
structure MomentFields where
  year : Nat
  month : Nat
  day : Nat
  padded : Bool
  time : Option TimeFields
  deriving DecidableEq, Repr

def isAsciiDigit (c : Char) : Bool := '0' ≤ c && c ≤ '9'

/-- The longest run of at most `most` digits, if it has at least `least`, and what follows it. -/
def digitsOf (least most : Nat) (cs : List Char) : Option (List Nat × List Char) :=
  let ds := (cs.take most).takeWhile isAsciiDigit
  if ds.length < least then none else some (ds.map fun c => c.toNat - 48, cs.drop ds.length)

/-- The rest of a text behind a given character. -/
def behind (c : Char) : List Char → Option (List Char)
  | d :: cs => if d = c then some cs else none
  | [] => none

/-- What separates a date from a time. -/
def timeGap : List Char → Option (List Char)
  | 'T' :: cs => some cs
  | 't' :: cs => some cs
  | c :: cs => if c = ' ' || c = '\t' then some (cs.dropWhile fun d => d = ' ' || d = '\t') else none
  | [] => none

/-- Six digits of a fraction; later ones are cut off. -/
def microsOf (ds : List Nat) : Nat :=
  Text.ofDigits 10 ((ds.take 6) ++ List.replicate (6 - ds.length) 0)

/-- An optional offset at the end of the text. -/
def offsetOf (cs : List Char) : Option (Option Int) :=
  if cs.isEmpty then some none
  else
    let numeric (sign : Int) (cs : List Char) : Option (Option Int) := do
      let (hours, cs) ← digitsOf 1 2 cs
      let h : Int := Text.ofDigits 10 hours
      if cs.isEmpty then pure (some (sign * (h * 60)))
      else
        let (minutes, cs) ← digitsOf 2 2 (← behind ':' cs)
        if cs.isEmpty then pure (some (sign * (h * 60 + Text.ofDigits 10 minutes))) else none
    match cs.dropWhile fun c => c = ' ' || c = '\t' with
    | ['Z'] => some (some 0)
    | '+' :: cs => numeric 1 cs
    | '-' :: cs => numeric (-1) cs
    | _ => none

/-- A time that reaches the end of the text. -/
def TimeFields.read? (cs : List Char) : Option TimeFields := do
  let (hour, cs) ← digitsOf 1 2 cs
  let (minute, cs) ← digitsOf 2 2 (← behind ':' cs)
  let (second, cs) ← digitsOf 2 2 (← behind ':' cs)
  let (fraction, cs) :=
    match cs with
    | '.' :: cs => (cs.takeWhile isAsciiDigit, cs.dropWhile isAsciiDigit)
    | _ => ([], cs)
  let offset ← offsetOf cs
  pure ⟨Text.ofDigits 10 hour, Text.ofDigits 10 minute, Text.ofDigits 10 second,
    microsOf (fraction.map fun c => c.toNat - 48), offset⟩

/-- The fields of a date, with or without a time, that is the whole text. -/
def MomentFields.read? (cs : List Char) : Option MomentFields := do
  let (year, cs) ← digitsOf 4 4 cs
  let (month, cs) ← digitsOf 1 2 (← behind '-' cs)
  let (day, cs) ← digitsOf 1 2 (← behind '-' cs)
  let padded := month.length = 2 && day.length = 2
  let time ← if cs.isEmpty then pure none else (TimeFields.read? (← timeGap cs)).map some
  pure ⟨Text.ofDigits 10 year, Text.ofDigits 10 month, Text.ofDigits 10 day, padded, time⟩

/-- A date, as the number of its day, or a point in time in microseconds. A time with an offset is one
of universal time, one without is local. -/
inductive Moment where
  | date (day : Int)
  | local (micros : Int)
  | universal (micros : Int)
  deriving DecidableEq, Repr

/-- The day that year, month and day name. -/
def dayOf (y m d : Nat) : Except MomentFault Int :=
  if y = 0 then .error (.year y)
  else if m = 0 || 12 < m then .error .month
  else if d = 0 || Calendar.daysInMonth y m < d then .error .day
  else .ok (Calendar.dayNumber y m d)

/-- Offsets are shorter than a day. -/
def checkOffset (minutes : Int) : Except MomentFault Unit :=
  if minutes.natAbs < 24 * 60 then .ok ()
  else .error (.offset (minutes / (24 * 60)) (minutes % (24 * 60) * 60).toNat)

/-- The date or time that the fields name. An impossible offset is found before an impossible date. -/
def Moment.ofFields (f : MomentFields) : Except MomentFault Moment := do
  match f.time with
  | none => .date <$> dayOf f.year f.month f.day
  | some t =>
    checkOffset (t.offset.getD 0)
    let day ← dayOf f.year f.month f.day
    if 23 < t.hour then .error .hour
    else if 59 < t.minute then .error .minute
    else if 59 < t.second then .error .second
    else
      let seconds : Int := day * 86400 + (t.hour * 3600 + t.minute * 60 + t.second : Nat)
      match t.offset with
      | none => pure (.local (seconds * 1000000 + t.micros))
      | some m => pure (.universal ((seconds - m * 60) * 1000000 + t.micros))

end ClusterAccess.Yaml
