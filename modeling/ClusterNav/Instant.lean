import ClusterNav.Text.Fit

/-!
# Instants

An instant counts seconds from the beginning of 1970.  `Instant.text` writes it in the Gregorian
calendar, extended to all years, with the seconds and a `Z` for universal time.
-/

namespace ClusterNav

/-- A day of the calendar. -/
structure Date where
  year : Int
  month : Nat
  day : Nat
deriving DecidableEq, Repr

namespace Date

/-- Days from the first of March of the year 0 to the beginning of 1970. -/
def daysBefore1970 : Int := 719468

/-- Days of four hundred years. -/
def cycle : Nat := 146097

/-- The date so many days after the beginning of 1970.  Years are counted from the first of March,
so that the leap day ends its year; the calendar repeats after four hundred of them. -/
def ofDays (days : Int) : Date :=
  let n := days + daysBefore1970
  let day := (n.emod cycle).toNat
  let year := (day - day / 1460 + day / 36524 - day / 146096) / 365
  let rest := day - (365 * year + year / 4 - year / 100)
  let month := (5 * rest + 2) / 153
  let inMarchYear : Int := year + 400 * n.ediv cycle
  { year := if month < 10 then inMarchYear else inMarchYear + 1
    month := if month < 10 then month + 3 else month - 9
    day := rest - (153 * month + 2) / 5 + 1 }

/-- A number with leading zeros. -/
def padded (n width : Nat) : String :=
  let digits := toString n
  Text.repeated '0' (width - digits.length) ++ digits

/-- A year: four digits, or a sign and at least four digits outside of 0 to 9999. -/
def yearText (year : Int) : String :=
  if year < 0 then "-" ++ padded year.natAbs 4
  else if 9999 < year then "+" ++ padded year.natAbs 4
  else padded year.natAbs 4

/-- A date with hyphens. -/
def text (d : Date) : String :=
  s!"{yearText d.year}-{padded d.month 2}-{padded d.day 2}"

end Date

/-- A second in time. -/
structure Instant where
  /-- Seconds from the beginning of 1970. -/
  seconds : Int
deriving DecidableEq, Repr

namespace Instant

/-- The instant so many seconds later. -/
def later (t : Instant) (seconds : Int) : Instant :=
  ⟨t.seconds + seconds⟩

/-- An instant, written out. -/
def text (t : Instant) : String :=
  let second := (t.seconds.emod 86400).toNat
  s!"{(Date.ofDays (t.seconds.ediv 86400)).text}T{Date.padded (second / 3600) 2}:"
    ++ s!"{Date.padded (second / 60 % 60) 2}:{Date.padded (second % 60) 2}Z"

end Instant

end ClusterNav
