/-!
JSON strings as written. What stands between the quotes is a sequence of characters and of
sixteen-bit units written as escapes; it is a text only if the surrogates among the units stand in
pairs, a high one and right behind it a low one.
-/

set_option autoImplicit false
set_option relaxedAutoImplicit false

namespace ReviewDesk.Json

/-- One item of a written string. -/
inductive Piece where
  | char (c : Char)
  /-- A unit escaped by its four hexadecimal digits. -/
  | unit (u : Fin 65536)
  deriving DecidableEq

/-- A string as written between its quotes. -/
abbrev Quoted := List Piece

namespace Quoted

def isHigh (u : Fin 65536) : Bool := 0xD800 ≤ u.val && u.val < 0xDC00

def isLow (u : Fin 65536) : Bool := 0xDC00 ≤ u.val && u.val < 0xE000

/-- The character that a surrogate pair stands for. -/
def ofPair (high low : Fin 65536) : Char :=
  Char.ofNat (0x10000 + (high.val - 0xD800) * 0x400 + (low.val - 0xDC00))

/-- The text of a written string, if its surrogates are paired. -/
def decode? : Quoted → Option (List Char)
  | [] => some []
  | .char c :: rest => (decode? rest).map (c :: ·)
  | .unit u :: .unit v :: rest =>
    if isHigh u then if isLow v then (decode? rest).map (ofPair u v :: ·) else none
    else if isLow u then none
    else (decode? (.unit v :: rest)).map (Char.ofNat u.val :: ·)
  | .unit u :: rest =>
    if isHigh u || isLow u then none else (decode? rest).map (Char.ofNat u.val :: ·)

def text? (quoted : Quoted) : Option String := (decode? quoted).map String.ofList

def ofText (text : String) : Quoted := text.toList.map Piece.char

/-- The characters, if none is written as an escaped unit. -/
def plain? (quoted : Quoted) : Option (List Char) :=
  quoted.mapM fun
    | .char c => some c
    | .unit _ => none

def hexDigit? (c : Char) : Option (Fin 16) :=
  let n := c.toNat
  if h : 48 ≤ n ∧ n ≤ 57 then some ⟨n - 48, by omega⟩
  else if h : 65 ≤ n ∧ n ≤ 70 then some ⟨n - 55, by omega⟩
  else if h : 97 ≤ n ∧ n ≤ 102 then some ⟨n - 87, by omega⟩
  else none

def hexUnit? (a b c d : Char) : Option (Fin 65536) := do
  let a ← hexDigit? a
  let b ← hexDigit? b
  let c ← hexDigit? c
  let d ← hexDigit? d
  some ⟨a.val * 4096 + b.val * 256 + c.val * 16 + d.val, by omega⟩

/-- The character that a backslash and one letter stand for. -/
def shortEscape? : Char → Option Char
  | '"' => some '"'
  | '\\' => some '\\'
  | '/' => some '/'
  | 'b' => some '\x08'
  | 'f' => some '\x0c'
  | 'n' => some '\n'
  | 'r' => some '\r'
  | 't' => some '\t'
  | _ => none

/-- Reads a written string up to its closing quote. A control character has to be escaped. -/
def read? : List Char → Option (Quoted × List Char)
  | [] => none
  | '"' :: rest => some ([], rest)
  | '\\' :: 'u' :: a :: b :: c :: d :: rest => do
    let u ← hexUnit? a b c d
    let (quoted, rest) ← read? rest
    some (.unit u :: quoted, rest)
  | '\\' :: e :: rest => do
    let c ← shortEscape? e
    let (quoted, rest) ← read? rest
    some (.char c :: quoted, rest)
  | c :: rest =>
    if c.toNat < 0x20 ∨ c = '\\' then none
    else do
      let (quoted, rest) ← read? rest
      some (.char c :: quoted, rest)

def hexText (n : Nat) : List Char :=
  [n / 4096, n / 256, n / 16, n].map fun k ↦ Nat.digitChar (k % 16)

/-- How a character stands between quotes: the quote, the backslash and control characters are
escaped and all others written as they are. -/
def escape (c : Char) : List Char :=
  if c = '"' then ['\\', '"']
  else if c = '\\' then ['\\', '\\']
  else if c = '\x08' then ['\\', 'b']
  else if c = '\x0c' then ['\\', 'f']
  else if c = '\n' then ['\\', 'n']
  else if c = '\r' then ['\\', 'r']
  else if c = '\t' then ['\\', 't']
  else if c.toNat < 0x20 then '\\' :: 'u' :: hexText c.toNat
  else [c]

def text (quoted : Quoted) : List Char :=
  '"' :: (quoted.flatMap fun
    | .char c => escape c
    | .unit u => '\\' :: 'u' :: hexText u.val) ++ ['"']

end Quoted

end ReviewDesk.Json
