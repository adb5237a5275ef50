import ReviewDesk.Identity
import ReviewDesk.Kind

/-!
Ticket codes: the lead of the kind, seven digits drawn from the ledger number (or from the item's
identifier where the ledger gave none) and two letters drawn from the whole of it. Codes are drawn
again whenever a posted review is edited, so the same item has to give the same code for ever.
-/

set_option autoImplicit false
set_option relaxedAutoImplicit false

namespace ReviewDesk.TicketCode

/-- A text as the digits of a number in some base, reduced at every character. -/
def rolling (base modulus : Nat) (cs : List Char) : Nat :=
  cs.foldl (fun sum c ↦ (sum * base + c.toNat) % modulus) 0

/-- Lifts a number below a million over it, so that seven digits never start with a zero. -/
def lift (n : Nat) : Nat := if n < 1000000 then n + 1000000 else n

/-- The number drawn from an identifier. -/
def idNumber (id : String) : Nat := lift (rolling 33 9000000 id.toList)

/-- The number shown in the code: the last seven digits of the ledger number, or the identifier's
number where these are all zero. -/
def number (seed : Int64) (id : String) : Nat :=
  let tail := seed.toInt.natAbs % 10000000
  lift (if tail = 0 then idNumber id else tail)

def letter (n : Nat) : Char := Char.ofNat (97 + n % 26)

/-- Two letters drawn from a text. -/
def letters (cs : List Char) : List Char :=
  let sum := rolling 131 676 cs
  [letter (sum / 26), letter sum]

/-- What the two letters are drawn from. -/
def letterText (kind : Kind) (seed : Int64) (id : String) : String :=
  kind.ledgerName ++ ":" ++ Text.ofInt seed.toInt ++ ":" ++ id

def encode (kind : Kind) (seed : Int64) (id : String) : String :=
  String.ofList (kind.ticketLead.toList ++ Digits.text (Digits.fixed 7 (number seed id))
    ++ letters (letterText kind seed id).toList)

/-- The length of every code of a kind. -/
def length (kind : Kind) : Nat := kind.ticketLead.length + 9

end ReviewDesk.TicketCode
