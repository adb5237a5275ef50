/-!
Comparison of text up to letter case: lowering of the ASCII letters alone, and the simple case
folding that reaches ASCII letters from outside ASCII.
-/

set_option autoImplicit false
set_option relaxedAutoImplicit false

namespace ReviewDesk.Text

/-- Lowers `A` to `Z` and leaves every other character as it is. -/
def lowerAscii (s : String) : String := String.ofList (s.toList.map Char.toLower)

def sameIgnoringCase (a b : List Char) : Bool := a.map Char.toLower == b.map Char.toLower

/-- Simple case folding onto ASCII letters: besides the capitals, the long s folds to `s` and the
Kelvin sign to `k`. -/
def foldLetter (c : Char) : Char :=
  if c.toNat = 0x17F then 's' else if c.toNat = 0x212A then 'k' else c.toLower

/-- Whether `needle` occurs somewhere in `text`. -/
def occurs (needle : List Char) : List Char → Bool
  | [] => needle.isEmpty
  | c :: cs => needle.isPrefixOf (c :: cs) || occurs needle cs

/-- Whether `needle`, written in lower-case ASCII, occurs in `text` up to letter case. -/
def mentions (needle text : String) : Bool :=
  occurs needle.toList (text.toList.map foldLetter)

end ReviewDesk.Text
