import LiveText.Number.Digits

/-!
# Languages of calendars

The names of months and weekdays, ordinals, and the patterns of composed forms in three languages.
-/

namespace LiveText

/-- A language of calendars. -/
inductive Locale where
  | english
  | german
  | russian
deriving DecidableEq, Repr

/-- A composed form, of which every language has its own pattern. -/
inductive LongForm where
  | time
  | timeWithSeconds
  | date
  | longDate
  | longDateTime
  | fullDateTime
deriving DecidableEq, Repr

namespace LongForm

/-- The composed forms with their marks, the longer marks first. -/
def table : List (LongForm × List Char) :=
  [(timeWithSeconds, "LTS".toList), (time, "LT".toList), (fullDateTime, "LLLL".toList),
   (longDateTime, "LLL".toList), (longDate, "LL".toList), (date, "L".toList)]

end LongForm

namespace Locale

/-- The language that a tag such as `de-AT` asks for; English if there is no other. -/
def ofLanguage (tag : String) : Locale :=
  match tag.toList.map Char.toLower with
  | 'd' :: 'e' :: _ => german
  | 'r' :: 'u' :: _ => russian
  | _ => english

/-- The names of the months. -/
def months : Locale → List String
  | english => ["January", "February", "March", "April", "May", "June", "July", "August",
      "September", "October", "November", "December"]
  | german => ["Januar", "Februar", "März", "April", "Mai", "Juni", "Juli", "August",
      "September", "Oktober", "November", "Dezember"]
  | russian => ["январь", "февраль", "март", "апрель", "май", "июнь", "июль", "август",
      "сентябрь", "октябрь", "ноябрь", "декабрь"]

/-- The short names of the months. -/
def shortMonths : Locale → List String
  | english => ["Jan", "Feb", "Mar", "Apr", "May", "Jun", "Jul", "Aug", "Sep", "Oct", "Nov", "Dec"]
  | german => ["Jan.", "Feb.", "März", "Apr.", "Mai", "Juni", "Juli", "Aug.", "Sep.", "Okt.",
      "Nov.", "Dez."]
  | russian => ["янв.", "февр.", "март", "апр.", "май", "июнь", "июль", "авг.", "сент.", "окт.",
      "нояб.", "дек."]

/-- The names of the weekdays, from Sunday on. -/
def weekdays : Locale → List String
  | english => ["Sunday", "Monday", "Tuesday", "Wednesday", "Thursday", "Friday", "Saturday"]
  | german => ["Sonntag", "Montag", "Dienstag", "Mittwoch", "Donnerstag", "Freitag", "Samstag"]
  | russian => ["воскресенье", "понедельник", "вторник", "среда", "четверг", "пятница", "суббота"]

/-- The short names of the weekdays, from Sunday on. -/
def shortWeekdays : Locale → List String
  | english => ["Sun", "Mon", "Tue", "Wed", "Thu", "Fri", "Sat"]
  | german => ["So.", "Mo.", "Di.", "Mi.", "Do.", "Fr.", "Sa."]
  | russian => ["вс", "пн", "вт", "ср", "чт", "пт", "сб"]

/-- The two-letter names of the weekdays, from Sunday on. -/
def briefWeekdays : Locale → List String
  | english => ["Su", "Mo", "Tu", "We", "Th", "Fr", "Sa"]
  | german => ["So", "Mo", "Di", "Mi", "Do", "Fr", "Sa"]
  | russian => ["вс", "пн", "вт", "ср", "чт", "пт", "сб"]

/-- The pattern of a composed form. -/
def pattern : Locale → LongForm → String
  | english, .time => "h:mm A"
  | english, .timeWithSeconds => "h:mm:ss A"
  | english, .date => "MM/DD/YYYY"
  | english, .longDate => "MMMM D, YYYY"
  | english, .longDateTime => "MMMM D, YYYY h:mm A"
  | english, .fullDateTime => "dddd, MMMM D, YYYY h:mm A"
  | german, .time => "HH:mm"
  | german, .timeWithSeconds => "HH:mm:ss"
  | german, .date => "DD.MM.YYYY"
  | german, .longDate => "D. MMMM YYYY"
  | german, .longDateTime => "D. MMMM YYYY HH:mm"
  | german, .fullDateTime => "dddd, D. MMMM YYYY HH:mm"
  | russian, .time => "H:mm"
  | russian, .timeWithSeconds => "H:mm:ss"
  | russian, .date => "DD.MM.YYYY"
  | russian, .longDate => "D MMMM YYYY [г.]"
  | russian, .longDateTime => "D MMMM YYYY [г.], H:mm"
  | russian, .fullDateTime => "dddd, D MMMM YYYY [г.], H:mm"

/-- The letters after an ordinal number in English. -/
def ordinalEnding (n : Nat) : String :=
  if n % 100 = 11 ∨ n % 100 = 12 ∨ n % 100 = 13 then "th"
  else
    match n % 10 with
    | 1 => "st"
    | 2 => "nd"
    | 3 => "rd"
    | _ => "th"

/-- An ordinal number. -/
def ordinal (l : Locale) (n : Nat) : List Char :=
  let ending := match l with
    | english => ordinalEnding n
    | german => "."
    | russian => "-го"
  Digits.ofNat 10 n ++ ending.toList

end Locale

end LiveText
