/-!
Days and times of day, as configuration files write them. A time may name its distance from universal
time.
-/

namespace PluginKit

structure Date where
  year : Nat
  month : Nat
  day : Nat
  deriving DecidableEq

structure Moment where
  date : Date
  hour : Nat
  minute : Nat
  second : Nat
  micros : Nat
  offset : Option Int
  deriving DecidableEq

/-! ## What is out of range -/

inductive CalendarFault where
  | year (n : Nat)
  | month
  | day
  | hour
  | minute
  | second
  | offset (minutes : Int)
  deriving DecidableEq

def paddedNumber (width n : Nat) : String :=
  let digits := Nat.toDigits 10 n
  String.ofList (List.replicate (width - digits.length) '0' ++ digits)

def spanLiteral (minutes : Int) : String :=
  let days := minutes.fdiv 1440
  let seconds := minutes.fmod 1440 * 60
  let parts := (if days = 0 then [] else ["days=" ++ toString days]) ++
    (if seconds = 0 then [] else ["seconds=" ++ toString seconds])
  "datetime.timedelta(" ++ (if parts.isEmpty then "0" else ", ".intercalate parts) ++ ")"

def CalendarFault.message : CalendarFault → String
  | .year n => "year " ++ toString n ++ " is out of range"
  | .month => "month must be in 1..12"
  | .day => "day is out of range for month"
  | .hour => "hour must be in 0..23"
  | .minute => "minute must be in 0..59"
  | .second => "second must be in 0..59"
  | .offset minutes =>
    "offset must be a timedelta strictly between -timedelta(hours=24) and timedelta(hours=24), not " ++
      spanLiteral minutes ++ "."

namespace Date

def isLeap (year : Nat) : Bool := year % 4 = 0 && (year % 100 ≠ 0 || year % 400 = 0)

def monthLength (year month : Nat) : Nat :=
  if month = 2 then (if isLeap year then 29 else 28)
  else if [4, 6, 9, 11].contains month then 30 else 31

def fault? (d : Date) : Option CalendarFault :=
  if d.year = 0 || 9999 < d.year then some (.year d.year)
  else if d.month = 0 || 12 < d.month then some .month
  else if d.day = 0 || monthLength d.year d.month < d.day then some .day
  else none

def literal (d : Date) : String :=
  "datetime.date(" ++ toString d.year ++ ", " ++ toString d.month ++ ", " ++ toString d.day ++ ")"

def text (d : Date) : String :=
  paddedNumber 4 d.year ++ "-" ++ paddedNumber 2 d.month ++ "-" ++ paddedNumber 2 d.day

def ordinal (d : Date) : Nat :=
  let before := d.year - 1
  (List.range (d.month - 1)).foldl (fun days m => days + monthLength d.year (m + 1))
    (365 * before + before / 4 - before / 100 + before / 400 + d.day)

end Date

namespace Moment

def fault? (m : Moment) : Option CalendarFault :=
  match m.offset.filter fun minutes => 1440 ≤ minutes.natAbs, m.date.fault? with
  | some minutes, _ => some (.offset minutes)
  | none, some fault => some fault
  | none, none =>
    if 23 < m.hour then some .hour
    else if 59 < m.minute then some .minute
    else if 59 < m.second then some .second
    else none

def zoneLiteral (offset : Int) : String :=
  if offset = 0 then "datetime.timezone.utc" else "datetime.timezone(" ++ spanLiteral offset ++ ")"

def literal (m : Moment) : String :=
  let always := [m.date.year, m.date.month, m.date.day, m.hour, m.minute]
  let parts :=
    if m.micros ≠ 0 then always ++ [m.second, m.micros]
    else if m.second ≠ 0 then always ++ [m.second]
    else always
  let zone := match m.offset with
    | some offset => ["tzinfo=" ++ zoneLiteral offset]
    | none => []
  "datetime.datetime(" ++ ", ".intercalate (parts.map toString ++ zone) ++ ")"

def zoneText (offset : Int) : String :=
  (if offset < 0 then "-" else "+") ++ paddedNumber 2 (offset.natAbs / 60) ++ ":" ++
    paddedNumber 2 (offset.natAbs % 60)

def text (m : Moment) : String :=
  m.date.text ++ " " ++ paddedNumber 2 m.hour ++ ":" ++ paddedNumber 2 m.minute ++ ":" ++
    paddedNumber 2 m.second ++ (if m.micros = 0 then "" else "." ++ paddedNumber 6 m.micros) ++
    (match m.offset with
      | some offset => zoneText offset
      | none => "")

def minutes (m : Moment) : Int :=
  (m.date.ordinal * 1440 + m.hour * 60 + m.minute : Nat) - m.offset.getD 0

def same (a b : Moment) : Bool :=
  a.offset.isSome == b.offset.isSome && a.minutes == b.minutes && a.second == b.second
    && a.micros == b.micros

end Moment

end PluginKit
