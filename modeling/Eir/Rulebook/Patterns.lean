import Eir.Naming.Decision

/-!
# Patterns of the rulebook

The patterns that the rules demand values to match, and those that stand for
the names of classification systems.
-/

namespace Eir.Rulebook.Patterns

/-- Systems that list area data sheets. -/
def areaDataSheets : String := ".*(DfE ADS|dfe ads|DFE ADS).*"

/-- The Uniclass system. -/
def uniclass : String := ".*[Uu]niclass.*"

def email : String := "([A-Za-z0-9._%+-]+@[A-Za-z0-9.-]+\\.[A-Za-z]\x7b2,\x7d)"

def emailOrNone : String := "n\\/a|" ++ email

def numeric : String := "\\d+(\\.\\d+)?"

def numericOrNone : String := "n\\/a|" ++ numeric

def monetaryOrNone : String := "n\\/a|£?\\d+(\\.\\d\x7b2\x7d)?"

def textOrNone : String := "n\\/a|(\\w.*)+"

/-- Serial numbers and bar codes. -/
def numberOrNone : String := "n\\/a|(\\d|-| |_)+"

/-- The date that stands for no date. -/
def defaultDate : String := "1900-12-31T23:59:59"

/-- A date, with or without a time, or the date that stands for none. -/
def dateOrDefault : String :=
  defaultDate ++ "|20\\d\x7b2\x7d-(?:0[1-9]|1[0-2])-(?:0[1-9]|[12][0-9]|3[01])" ++
    "(?:T(?:[01][0-9]|2[0-3]):(?:[0-5][0-9]):(?:[0-5][0-9])(?:\\.\\d+)?" ++
    "(?:Z|[+-]\\d\x7b2\x7d:\\d\x7b2\x7d)?)?"

/-- The patterns under their names. -/
def named : List (String × String) := [
  ("SPACE_NAME", spaceNamePattern),
  ("ADS_SYSTEM", areaDataSheets),
  ("UNICLASS_SYSTEM", uniclass),
  ("EMAIL", email),
  ("EMAIL_OR_NA", emailOrNone),
  ("NUMERIC", numeric),
  ("NUMERIC_OR_NA", numericOrNone),
  ("MONETARY_OR_NA", monetaryOrNone),
  ("TEXT_OR_NA", textOrNone),
  ("NUMBER_OR_NA", numberOrNone),
  ("DATE_OR_DEFAULT", dateOrDefault),
  ("DEFAULT_DATE", defaultDate)]

end Eir.Rulebook.Patterns
