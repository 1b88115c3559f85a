import RouteDocs.Value
import RouteDocs.Text.Numeral
import RouteDocs.Text.Quoted
import RouteDocs.Decimal.Shortest

namespace RouteDocs

def commaSeparated (ns : List Nat) : String := ", ".intercalate (ns.map toString)

/-- A day as it is shown inside a collection. -/
def Date.display (d : Date) : String :=
  "datetime.date(" ++ commaSeparated [d.year, d.month, d.day] ++ ")"

/-- An offset as it is shown inside a collection: whole days and the seconds beyond them. -/
def Moment.offsetDisplay (minutes : Int) : String :=
  if minutes = 0 then "datetime.timezone.utc"
  else
    let seconds := minutes * 60
    let days := seconds.fdiv 86400
    let rest := seconds.fmod 86400
    let parts := (if days = 0 then [] else ["days=" ++ toString days]) ++
      (if rest = 0 then [] else ["seconds=" ++ toString rest])
    "datetime.timezone(datetime.timedelta(" ++ ", ".intercalate parts ++ "))"

/-- A moment as it is shown inside a collection; a zero at the end of the time is left out. -/
def Moment.display (m : Moment) : String :=
  let time :=
    if m.microsecond ≠ 0 then [m.second, m.microsecond]
    else if m.second ≠ 0 then [m.second]
    else []
  "datetime.datetime(" ++
    commaSeparated ([m.date.year, m.date.month, m.date.day, m.hour, m.minute] ++ time) ++
    (match m.offset with
      | some minutes => ", tzinfo=" ++ offsetDisplay minutes
      | none => "") ++ ")"

namespace Value

mutual

/-- A value as it is shown inside a collection. -/
def display : Value → String
  | .null => "None"
  | .bool true => "True"
  | .bool false => "False"
  | .int n => toString n
  | .float x => DecimalStyle.standard.write x
  | .text s => Text.quoted s
  | .bytes content => Text.quotedBytes content
  | .date d => d.display
  | .moment m => m.display
  | .list items => "[" ++ ", ".intercalate (displayAll items) ++ "]"
  | .pair first second => "(" ++ display first ++ ", " ++ display second ++ ")"
  | .mapping entries => "\x7b" ++ ", ".intercalate (displayEntries entries) ++ "\x7d"
  | .set [] => "set()"
  | .set (m :: ms) => "\x7b" ++ ", ".intercalate (display m :: displayAll ms) ++ "\x7d"
  | .marked _ content => display content
  | .again _ false => "[...]"
  | .again _ true => "\x7b...\x7d"

def displayAll : List Value → List String
  | [] => []
  | v :: vs => display v :: displayAll vs

def displayEntries : List (Value × Value) → List String
  | [] => []
  | (k, v) :: rest => (display k ++ ": " ++ display v) :: displayEntries rest

end

mutual

/-- Whether a value can be shown: no number in it has too many digits. -/
def isShowable : Value → Bool
  | .int n => ! Numeral.isTooLong n
  | .list items => areShowable items
  | .pair first second => isShowable first && isShowable second
  | .mapping entries => areEntriesShowable entries
  | .set members => areShowable members
  | .marked _ content => isShowable content
  | _ => true

def areShowable : List Value → Bool
  | [] => true
  | v :: vs => isShowable v && areShowable vs

def areEntriesShowable : List (Value × Value) → Bool
  | [] => true
  | (k, v) :: rest => isShowable k && isShowable v && areEntriesShowable rest

end

/-- A value by itself. -/
def plain : Value → String
  | .text s => s
  | .date d => d.text
  | .moment m => m.text
  | v => v.display

end Value
end RouteDocs
