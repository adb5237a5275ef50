/-!
Blank characters and trimming. A character is blank when it has the Unicode property White_Space;
trimming takes the longest blank run off either end and never touches the inside.
-/

set_option autoImplicit false
set_option relaxedAutoImplicit false

namespace ReviewDesk.Text

/-- The twenty-five characters with the Unicode property White_Space. -/
def isBlank (c : Char) : Bool :=
  let n := c.toNat
  (0x09 ≤ n && n ≤ 0x0D) || n == 0x20 || n == 0x85 || n == 0xA0 || n == 0x1680
    || (0x2000 ≤ n && n ≤ 0x200A) || n == 0x2028 || n == 0x2029 || n == 0x202F
    || n == 0x205F || n == 0x3000

def dropBlanks (cs : List Char) : List Char := cs.dropWhile isBlank

def dropBlanksEnd (cs : List Char) : List Char := (dropBlanks cs.reverse).reverse

def trimChars (cs : List Char) : List Char := dropBlanksEnd (dropBlanks cs)

def trimStart (s : String) : String := String.ofList (dropBlanks s.toList)

def trim (s : String) : String := String.ofList (trimChars s.toList)

/-- Whether nothing is left after trimming. -/
def isBlankText (s : String) : Bool := s.toList.all isBlank

@[simp] theorem toList_trim (s : String) : (trim s).toList = trimChars s.toList := by
  simp [trim]

end ReviewDesk.Text
