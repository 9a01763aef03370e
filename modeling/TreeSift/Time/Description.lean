import TreeSift.Text.CharClass
import TreeSift.Time.Component

/-!
# TreeSift.Time.Description

The written descriptions of date formats, such as `[day].[month].[year]`.

1. Text outside brackets stands for itself, and so does `]` there; `[[` stands for one `[`.
2. In brackets stand a component's name and its modifiers, `key:value`, separated by blanks.  Names,
   keys and values are compared without regard to ASCII case, and the last of several modifiers with
   one key counts.
3. Anything else is no description: an empty or unclosed bracket, an unknown name, key or value, a
   bracket inside a bracket.
-/

namespace TreeSift

namespace Description

/-- The words between brackets, apart from ASCII blanks. -/
def wordsOf (cs : List Char) : List (List Char) :=
  (cs.splitBy fun a b => !CharClass.isAsciiBlank a && !CharClass.isAsciiBlank b).filter
    fun w => !w.any CharClass.isAsciiBlank

/-- A modifier: both sides of its first colon in lower case, neither of them empty. -/
def modifier? (w : List Char) : Option (String × String) :=
  let key := w.takeWhile (· != ':')
  match w.dropWhile (· != ':') with
  | [] => none
  | _ :: value =>
    if key.isEmpty || value.isEmpty then none
    else some (String.ofList (key.map Char.toLower), String.ofList (value.map Char.toLower))

/-- The modifiers of a component, by key. -/
abbrev Modifiers := List (String × String)

/-- The value a key has in the end. -/
def last? (ms : Modifiers) (key : String) : Option String :=
  (ms.reverse.find? fun m => m.1 == key).map Prod.snd

/-- Every value given for a key is one of a table; the last one counts. -/
def choose? {α : Type} (ms : Modifiers) (key : String) (table : List (String × α)) (usual : α) :
    Option α :=
  let given := ms.filter fun m => m.1 == key
  given.foldlM (fun _ m => (table.find? fun t => t.1 == m.2).map Prod.snd) usual

/-- Whether every modifier has one of the keys. -/
def onlyKeys (ms : Modifiers) (keys : List String) : Bool :=
  ms.all fun m => keys.contains m.1

/-- The padding of a number. -/
def padding? (ms : Modifiers) : Option Padding :=
  choose? ms "padding" [("space", .space), ("zero", .zero), ("none", .none)] .zero

/-- A modifier that is `true` or `false`. -/
def flag? (ms : Modifiers) (key : String) (usual : Bool) : Option Bool :=
  choose? ms key [("true", true), ("false", false)] usual

/-- Whether a sign must be there. -/
def sign? (ms : Modifiers) : Option Bool :=
  choose? ms "sign" [("automatic", false), ("mandatory", true)] false

/-- The number of octets to skip, from 1 to 65535. -/
def count? (ms : Modifiers) : Option Nat := do
  let counts ← (ms.filter fun m => m.1 == "count").mapM fun m =>
    let ds := match m.2.toList with
      | '+' :: r => r
      | r => r
    if ds.isEmpty || !ds.all Char.isDigit then none
    else
      let n : Nat := ds.foldl (fun n c => n * 10 + (c.toNat - '0'.toNat)) 0
      if 1 ≤ n ∧ n ≤ 65535 then some n else none
  counts.getLast?

/-- The number of digits of a fraction; `1+` takes all there are. -/
def fractionDigits : List (String × Option Nat) :=
  ("1+", none) :: (List.range 9).map fun i => (String.ofList (Nat.toDigits 10 (i + 1)), some (i + 1))

/-- A component from its name and modifiers. -/
def component? (name : String) (ms : Modifiers) : Option Component :=
  let keys := fun (allowed : List String) => if onlyKeys ms allowed then some () else none
  match name with
  | "day" => do
    keys ["padding"]
    some (.day (← padding? ms))
  | "month" => do
    keys ["padding", "repr", "case_sensitive"]
    let form ← choose? ms "repr" [("numerical", .number), ("long", .long), ("short", .short)]
      MonthForm.number
    some (.month (← padding? ms) form (← flag? ms "case_sensitive" true))
  | "ordinal" => do
    keys ["padding"]
    some (.ordinal (← padding? ms))
  | "weekday" => do
    keys ["repr", "one_indexed", "case_sensitive"]
    let form ← choose? ms "repr" [("short", .short), ("long", .long), ("sunday", .fromSunday),
      ("monday", .fromMonday)] WeekdayForm.long
    some (.weekday form (← flag? ms "one_indexed" true) (← flag? ms "case_sensitive" true))
  | "week_number" => do
    keys ["padding", "repr"]
    let form ← choose? ms "repr" [("iso", .iso), ("sunday", .sunday), ("monday", .monday)]
      WeekForm.iso
    some (.weekNumber (← padding? ms) form)
  | "year" => do
    keys ["padding", "repr", "range", "base", "sign"]
    let part ← choose? ms "repr" [("full", .full), ("century", .century), ("last_two", .lastTwo)]
      YearPart.full
    let _ ← choose? ms "range" [("standard", ()), ("extended", ())] ()
    let isoWeek ← choose? ms "base" [("calendar", false), ("iso_week", true)] false
    some (.year (← padding? ms) part isoWeek (← sign? ms))
  | "hour" => do
    keys ["padding", "repr"]
    some (.hour (← padding? ms) (← choose? ms "repr" [("12", true), ("24", false)] false))
  | "minute" => do
    keys ["padding"]
    some (.minute (← padding? ms))
  | "period" => do
    keys ["case", "case_sensitive"]
    let upper ← choose? ms "case" [("lower", false), ("upper", true)] true
    some (.period upper (← flag? ms "case_sensitive" true))
  | "second" => do
    keys ["padding"]
    some (.second (← padding? ms))
  | "subsecond" => do
    keys ["digits"]
    some (.subsecond (← choose? ms "digits" fractionDigits none))
  | "offset_hour" => do
    keys ["sign", "padding"]
    some (.offsetHour (← sign? ms) (← padding? ms))
  | "offset_minute" => do
    keys ["padding"]
    some (.offsetMinute (← padding? ms))
  | "offset_second" => do
    keys ["padding"]
    some (.offsetSecond (← padding? ms))
  | "ignore" => do
    keys ["count"]
    some (.ignore (← count? ms))
  | "unix_timestamp" => do
    keys ["precision", "sign"]
    let (digits, nanos) ← choose? ms "precision" [("second", (14, 1000000000)),
      ("millisecond", (17, 1000000)), ("microsecond", (20, 1000)), ("nanosecond", (23, 1))]
      (14, 1000000000)
    some (.unixTimestamp digits nanos (← sign? ms))
  | "end" => do
    keys ["trailing_input"]
    some (.endOfInput (← choose? ms "trailing_input" [("prohibit", false), ("discard", true)] false))
  | _ => none

/-- What stands between an opening bracket and the closing one. -/
def inBrackets? (cs : List Char) : Option Component :=
  match wordsOf cs with
  | [] => none
  | name :: rest => do
    let ms ← rest.mapM modifier?
    component? (String.ofList (name.map Char.toLower)) ms

/-- Whether the character is a bracket. -/
def isBracket (c : Char) : Bool := c == '[' || c == ']'

/-- The items of a description, if it is one. -/
def items? (cs : List Char) : Option (List DateItem) :=
  match cs with
  | [] => some []
  | '[' :: '[' :: r => (items? r).map (.literal ['['] :: ·)
  | '[' :: r =>
    let body := r.takeWhile fun c => !isBracket c
    match hr : r.dropWhile fun c => !isBracket c with
    | ']' :: more =>
      have : more.length < r.length + 1 := by
        have := (List.dropWhile_suffix (l := r) fun c => !isBracket c).length_le
        rw [hr, List.length_cons] at this
        omega
      do
        let c ← inBrackets? body
        let rest ← items? more
        some (.component c :: rest)
    | _ => none
  | c :: r =>
    (items? (r.dropWhile fun c => !isBracket c)).map
      (.literal (octets (c :: r.takeWhile fun c => !isBracket c)) :: ·)
termination_by cs.length
decreasing_by
  · simp only [List.length_cons]; omega
  · simpa using this
  · have := (List.dropWhile_suffix (l := r) fun c => !isBracket c).length_le
    simp only [List.length_cons]
    omega

end Description

/-- The moment a text denotes under a description: with its own offset if the description reads one,
otherwise date and time in UTC, otherwise the date alone. -/
def Moment.ofDescription? (description text : List Char) : Option Moment := do
  let items ← Description.items? description
  let f ← ({} : Fields).readAll? items (octets text)
  f.zoned? <|> f.local? <|> f.dateOnly?

end TreeSift
