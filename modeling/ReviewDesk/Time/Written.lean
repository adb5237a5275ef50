import ReviewDesk.Text.Blank
import ReviewDesk.Text.Digits
import ReviewDesk.Time.Instant

/-!
Times as text. Written out they are in UTC with a `Z`, with no fraction or one of three, six or nine
digits, the fewest that are exact. Reading is lenient about the blanks between the parts, about
leading zeros and about how the offset is spelt.
-/

set_option autoImplicit false
set_option relaxedAutoImplicit false

namespace ReviewDesk.Instant

/-- One to `most` digits, after blanks. -/
def number? (most : Nat) (cs : List Char) : Option (Nat × List Char) :=
  let cs := Text.dropBlanks cs
  match (Digit.span (cs.take most)).1 with
  | [] => none
  | ds => some (Digits.value ds, cs.drop ds.length)

/-- A sign and any number of digits, or up to four digits, after blanks. -/
def year? (cs : List Char) : Option (Int × List Char) :=
  match Text.dropBlanks cs with
  | '-' :: cs => match Digit.span cs with
    | ([], _) => none
    | (ds, rest) => some (-Digits.value ds, rest)
  | '+' :: cs => match Digit.span cs with
    | ([], _) => none
    | (ds, rest) => some (Digits.value ds, rest)
  | cs => (number? 4 cs).map fun (n, rest) ↦ ((n : Int), rest)

/-- One given character, after blanks. -/
def mark? (c : Char) (cs : List Char) : Option (List Char) :=
  match Text.dropBlanks cs with
  | d :: rest => if d = c then some rest else none
  | [] => none

/-- The nanoseconds of a fraction, of which nine digits count. -/
def fraction? : List Char → Option (Nat × List Char)
  | '.' :: cs => match Digit.span cs with
    | ([], _) => none
    | (ds, rest) => some (Digits.value ((ds ++ List.replicate 9 Digit.zero).take 9), rest)
  | cs => some (0, cs)

/-- Two digits that are not above `limit`. -/
def pair? (limit : Nat) : List Char → Option (Nat × List Char)
  | a :: b :: rest => do
    let a ← Digit.ofChar? a
    let b ← Digit.ofChar? b
    let n := 10 * a.val + b.val
    if n ≤ limit then some (n, rest) else none
  | _ => none

/-- The seconds east of UTC: `UTC`, `Z`, or a sign, two digits of hours, any run of colons and
blanks, and two digits of minutes. -/
def offset? (cs : List Char) : Option (Int × List Char) :=
  match cs with
  | a :: b :: c :: rest =>
    if [a, b, c].map Char.toUpper = ['U', 'T', 'C'] then some (0, rest) else signed cs
  | _ => signed cs
where
  signed : List Char → Option (Int × List Char)
    | [] => none
    | c :: cs =>
      if c = 'Z' ∨ c = 'z' then some (0, cs)
      else if c = '+' then size? cs
      else if c = '-' ∨ c = '−' then (size? cs).map fun (n, rest) ↦ (-n, rest)
      else none
  size? (cs : List Char) : Option (Int × List Char) := do
    let (hours, cs) ← pair? 99 cs
    let (minutes, cs) ← pair? 59 (cs.dropWhile fun c ↦ c = ':' ∨ Text.isBlank c)
    some ((hours * 3600 + minutes * 60 : Nat), cs)

/-- The instant of a local time, unless a part or the instant itself is out of range. The sixtieth
second of any minute is a leap second. -/
def ofLocal? (date : Date) (hour minute second nanos : Nat) (offset : Int) : Option Instant :=
  let (second, nanos) := if second = 60 then (59, nanos + 1000000000) else (second, nanos)
  if date.isValid ∧ hour ≤ 23 ∧ minute ≤ 59 ∧ second ≤ 59 ∧ offset.natAbs < 86400 then
    let time : Instant :=
      ⟨date.toDays * 86400 + (hour * 3600 + minute * 60 + second : Nat) - offset, nanos⟩
    if Date.yearInRange (Date.ofDays time.days).year then some time else none
  else none

def ofText? (text : String) : Option Instant := do
  let (year, cs) ← year? text.toList
  let cs ← mark? '-' cs
  let (month, cs) ← number? 2 cs
  let cs ← mark? '-' cs
  let (day, cs) ← number? 2 cs
  let cs ← match cs with
    | c :: cs => if c = 'T' ∨ c = 't' ∨ c = ' ' then some cs else none
    | [] => none
  let (hour, cs) ← number? 2 cs
  let cs ← mark? ':' cs
  let (minute, cs) ← number? 2 cs
  let cs ← mark? ':' cs
  let (second, cs) ← number? 2 cs
  let (nanos, cs) ← fraction? cs
  let (offset, cs) ← offset? (Text.dropBlanks cs)
  if (Text.dropBlanks cs).isEmpty then ofLocal? ⟨year, month, day⟩ hour minute second nanos offset
  else none

/-- Four digits from year 0 to year 9999, and otherwise a sign and at least four digits. -/
def yearText (year : Int) : List Char :=
  if 0 ≤ year ∧ year ≤ 9999 then Digits.text (Digits.fixed 4 year.toNat)
  else
    let ds := Digits.ofNat year.natAbs
    (if year < 0 then '-' else '+') :: Digits.text (List.replicate (4 - ds.length) Digit.zero ++ ds)

def fractionText (nanos : Nat) : List Char :=
  if nanos = 0 then []
  else if nanos % 1000000 = 0 then '.' :: Digits.text (Digits.fixed 3 (nanos / 1000000))
  else if nanos % 1000 = 0 then '.' :: Digits.text (Digits.fixed 6 (nanos / 1000))
  else '.' :: Digits.text (Digits.fixed 9 nanos)

def text (t : Instant) : String :=
  let date := Date.ofDays t.days
  let second := t.secondOfDay.toNat
  let two (n : Nat) := Digits.text (Digits.fixed 2 n)
  String.ofList (yearText date.year ++ '-' :: two date.month ++ '-' :: two date.day
    ++ 'T' :: two (second / 3600) ++ ':' :: two (second / 60 % 60)
    ++ ':' :: two (second % 60 + t.nanos / 1000000000)
    ++ fractionText (t.nanos % 1000000000) ++ ['Z'])

end ReviewDesk.Instant
