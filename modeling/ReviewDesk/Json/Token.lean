import ReviewDesk.Json.Numeral
import ReviewDesk.Json.Quoted

/-!
The lexical items of JSON text. Space, tab, line feed and carriage return may stand between them
and mean nothing.
-/

set_option autoImplicit false
set_option relaxedAutoImplicit false

namespace ReviewDesk.Json

inductive Token where
  | openArray
  | closeArray
  | openObject
  | closeObject
  | comma
  | colon
  | null
  | bool (value : Bool)
  | number (value : Numeral)
  | string (value : Quoted)
  deriving DecidableEq

namespace Token

def isSpace (c : Char) : Bool := c = ' ' ∨ c = '\t' ∨ c = '\n' ∨ c = '\r'

/-- Reads the item at the front of a text that starts with none of the separating characters. -/
def read? : List Char → Option (Token × List Char)
  | [] => none
  | '[' :: cs => some (openArray, cs)
  | ']' :: cs => some (closeArray, cs)
  | '{' :: cs => some (openObject, cs)
  | '}' :: cs => some (closeObject, cs)
  | ',' :: cs => some (comma, cs)
  | ':' :: cs => some (colon, cs)
  | 'n' :: 'u' :: 'l' :: 'l' :: cs => some (null, cs)
  | 't' :: 'r' :: 'u' :: 'e' :: cs => some (bool true, cs)
  | 'f' :: 'a' :: 'l' :: 's' :: 'e' :: cs => some (bool false, cs)
  | '"' :: cs => (Quoted.read? cs).map fun (quoted, rest) ↦ (string quoted, rest)
  | cs => (Numeral.read? cs).map fun (numeral, rest) ↦ (number numeral, rest)

/-- Reads up to `count` characters and items. -/
def readUpTo? : Nat → List Char → Option (List Token)
  | _, [] => some []
  | 0, _ :: _ => none
  | count + 1, c :: cs =>
    if isSpace c then readUpTo? count cs
    else do
      let (token, rest) ← read? (c :: cs)
      let tokens ← readUpTo? count rest
      some (token :: tokens)

/-- The lexical items of a whole text. Each takes at least one character, so the length of the text
bounds their number. -/
def ofChars? (cs : List Char) : Option (List Token) := readUpTo? cs.length cs

end Token

end ReviewDesk.Json
