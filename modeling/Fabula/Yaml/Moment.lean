import Fabula.Text.Numeral

set_option autoImplicit false

namespace Fabula.Yaml

structure Day where
  year : Nat
  month : Nat
  day : Nat
  deriving Repr, DecidableEq

namespace Day

def isLeap (year : Nat) : Bool := year % 4 == 0 && (year % 100 != 0 || year % 400 == 0)

def daysIn (year month : Nat) : Nat :=
  if month = 2 then (if isLeap year then 29 else 28)
  else if month ∈ [4, 6, 9, 11] then 30
  else 31

def isValid (d : Day) : Bool :=
  1 ≤ d.year && d.year ≤ 9999 && 1 ≤ d.month && d.month ≤ 12 && 1 ≤ d.day &&
    d.day ≤ daysIn d.year d.month

def number (d : Day) : Nat :=
  let y := d.year - 1
  let months := (List.range (d.month - 1)).map fun m => daysIn d.year (m + 1)
  365 * y + y / 4 - y / 100 + y / 400 + months.foldl (· + ·) 0 + d.day

end Day

structure Moment where
  day : Day
  hour : Nat
  minute : Nat
  second : Nat
  /-- Millionths of a second. -/
  fraction : Nat
  /-- Minutes ahead of the universal clock. -/
  ahead : Option Int
  deriving Repr, DecidableEq

namespace Moment

def isValid (m : Moment) : Bool :=
  m.day.isValid && m.hour < 24 && m.minute < 60 && m.second < 60 &&
    m.ahead.all fun a => a.natAbs < 24 * 60

def seconds (m : Moment) : Nat := ((m.day.number * 24 + m.hour) * 60 + m.minute) * 60 + m.second

def same (m n : Moment) : Bool :=
  match m.ahead, n.ahead with
  | none, none => m == n
  | some a, some b =>
    m.fraction == n.fraction && (m.seconds : Int) - a * 60 == (n.seconds : Int) - b * 60
  | _, _ => false

end Moment

inductive Time where
  | date (d : Day)
  | moment (m : Moment)
  deriving Repr, DecidableEq

namespace Time

def digits? (least most : Nat) (cs : List Char) : Option (Nat × List Char) :=
  let ds := (cs.take most).takeWhile Char.isDigit
  if ds.length < least then none
  else some (Text.ofDigits 10 (ds.map fun c => c.toNat - '0'.toNat), cs.drop ds.length)

def after? (c : Char) : List Char → Option (List Char)
  | x :: rest => if x = c then some rest else none
  | [] => none

def day? (cs : List Char) : Option (Day × List Char) := do
  let (year, cs) ← digits? 4 4 cs
  let (month, cs) ← digits? 1 2 (← after? '-' cs)
  let (day, cs) ← digits? 1 2 (← after? '-' cs)
  pure (⟨year, month, day⟩, cs)

def afterDay? (cs : List Char) : Option (List Char) :=
  match cs with
  | 'T' :: cs => some cs
  | 't' :: cs => some cs
  | c :: _ =>
    if c = ' ' ∨ c = '\t' then some (cs.dropWhile fun c => c == ' ' || c == '\t') else none
  | [] => none

def millionths (ds : List Char) : Nat :=
  Text.ofDigits 10 (((ds ++ List.replicate 6 '0').take 6).map fun c => c.toNat - '0'.toNat)

def fraction (cs : List Char) : Nat × List Char :=
  match cs with
  | '.' :: cs => (millionths (cs.takeWhile Char.isDigit), cs.dropWhile Char.isDigit)
  | _ => (0, cs)

def ahead? (cs : List Char) : Option (Option Int) :=
  let offset (sign : Int) (cs : List Char) : Option (Option Int) := do
    let (hours, cs) ← digits? 1 2 cs
    match cs with
    | [] => pure (some (sign * (hours * 60 : Nat)))
    | ':' :: cs =>
      let (minutes, cs) ← digits? 2 2 cs
      if cs = [] then pure (some (sign * (hours * 60 + minutes : Nat))) else none
    | _ => none
  match cs with
  | [] => some none
  | _ =>
    match cs.dropWhile fun c => c == ' ' || c == '\t' with
    | ['Z'] => some (some 0)
    | '+' :: cs => offset 1 cs
    | '-' :: cs => offset (-1) cs
    | _ => none

/-- A day, or a moment, as it is written; it need not be one that the calendar has. -/
def ofText? (cs : List Char) : Option Time := do
  let (day, cs) ← day? cs
  if cs = [] then pure (.date day)
  else
    let (hour, cs) ← digits? 1 2 (← afterDay? cs)
    let (minute, cs) ← digits? 2 2 (← after? ':' cs)
    let (second, cs) ← digits? 2 2 (← after? ':' cs)
    let (fraction, cs) := fraction cs
    pure (.moment ⟨day, hour, minute, second, fraction, ← ahead? cs⟩)

def isValid : Time → Bool
  | date d => d.isValid
  | moment m => m.isValid

/-- Whether a text is a moment by its form alone. A day without a time of day has two digits for
the month and for the day of it. -/
def isForm (cs : List Char) : Bool :=
  match ofText? cs with
  | some (.date _) => cs.length == 10
  | some (.moment _) => true
  | none => false

def two (n : Nat) : String := String.ofList (Text.paddedNumeral 10 2 n)

def dayText (d : Day) : String :=
  String.ofList (Text.paddedNumeral 10 4 d.year) ++ "-" ++ two d.month ++ "-" ++ two d.day

def aheadText (a : Int) : String :=
  (if a < 0 then "-" else "+") ++ two (a.natAbs / 60) ++ ":" ++ two (a.natAbs % 60)

def plain : Time → String
  | date d => dayText d
  | moment m =>
    dayText m.day ++ " " ++ two m.hour ++ ":" ++ two m.minute ++ ":" ++ two m.second ++
      (if m.fraction = 0 then "" else "." ++ String.ofList (Text.paddedNumeral 10 6 m.fraction)) ++
      (m.ahead.map aheadText).getD ""

def arguments (ns : List Nat) : String := ", ".intercalate (ns.map Nat.repr)

def shownAhead (a : Int) : String :=
  if a = 0 then "datetime.timezone.utc"
  else
    let span := if a < 0 then "days=-1, seconds=" ++ Nat.repr (24 * 3600 - a.natAbs * 60)
      else "seconds=" ++ Nat.repr (a.natAbs * 60)
    "datetime.timezone(datetime.timedelta(" ++ span ++ "))"

/-- The expression for a time; zeros at the end are left out from the seconds on. -/
def shown : Time → String
  | date d => "datetime.date(" ++ arguments [d.year, d.month, d.day] ++ ")"
  | moment m =>
    let small := if m.fraction ≠ 0 then [m.second, m.fraction]
      else if m.second ≠ 0 then [m.second]
      else []
    "datetime.datetime(" ++
      arguments ([m.day.year, m.day.month, m.day.day, m.hour, m.minute] ++ small) ++
      (m.ahead.map (", tzinfo=" ++ shownAhead ·)).getD "" ++ ")"

end Time

end Fabula.Yaml
