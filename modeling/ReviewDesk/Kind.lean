import ReviewDesk.Text.Blank
import ReviewDesk.Text.Casing

/-!
The two kinds of review work and the names each goes by: its plain name, the name producers keep it
under in the ledger, its mark in action references, and the lead of its ticket codes.
-/

set_option autoImplicit false
set_option relaxedAutoImplicit false

namespace ReviewDesk

/-- What a review item asks a moderator to check. -/
inductive Kind where
  /-- The proof of a deposit. -/
  | deposit
  /-- An identity check. -/
  | kyc
  deriving DecidableEq

namespace Kind

/-- Every kind, in the order in which they are served. -/
def all : List Kind := [deposit, kyc]

def name : Kind → String
  | deposit => "deposit"
  | kyc => "kyc"

/-- The name in the ledger, under which producers announce items and ticket letters are drawn. -/
def ledgerName : Kind → String
  | deposit => "real_deposit"
  | kyc => "kyc"

/-- The first part of an action reference. -/
def mark : Kind → String
  | deposit => "dep"
  | kyc => "kyc"

/-- The letters that a ticket code starts with. -/
def ticketLead : Kind → String
  | deposit => "BXdep"
  | kyc => "BXkyc"

/-- The file name of an attachment that came without one. -/
def defaultFileName : Kind → String
  | deposit => "deposit-proof.bin"
  | kyc => "kyc-proof.bin"

/-- Reads any name a producer uses, whatever its ASCII case and the blanks around it. -/
def read? (text : String) : Option Kind :=
  let word := Text.lowerAscii (Text.trim text)
  if word = "deposit" ∨ word = "real_deposit" ∨ word = "dep" then some deposit
  else if word = "kyc" then some kyc
  else none

def ofName? (text : String) : Option Kind := all.find? fun kind ↦ kind.name == text

def ofMark? (text : List Char) : Option Kind := all.find? fun kind ↦ kind.mark.toList == text

theorem mem_all (kind : Kind) : kind ∈ all := by cases kind <;> simp [all]

theorem ofMark?_mark (kind : Kind) : ofMark? kind.mark.toList = some kind := by
  cases kind <;> decide

end Kind

/-- One value for each kind. -/
structure PerKind (α : Type) where
  deposit : α
  kyc : α
  deriving DecidableEq

namespace PerKind

variable {α : Type}

def get (values : PerKind α) : Kind → α
  | .deposit => values.deposit
  | .kyc => values.kyc

def set (values : PerKind α) (kind : Kind) (value : α) : PerKind α :=
  match kind with
  | .deposit => { values with deposit := value }
  | .kyc => { values with kyc := value }

def modify (values : PerKind α) (kind : Kind) (change : α → α) : PerKind α :=
  values.set kind (change (values.get kind))

@[simp] theorem get_set (values : PerKind α) (kind other : Kind) (value : α) :
    (values.set kind value).get other = if other = kind then value else values.get other := by
  cases kind <;> cases other <;> rfl

end PerKind

/-- What a moderator decides. -/
inductive Action where
  | approve
  | reject
  deriving DecidableEq

namespace Action

def all : List Action := [approve, reject]

def name : Action → String
  | approve => "approve"
  | reject => "reject"

/-- Reads a decision, whatever its ASCII case and the blanks around it. -/
def read? (text : String) : Option Action :=
  let word := Text.lowerAscii (Text.trim text)
  all.find? fun action ↦ action.name == word

end Action

end ReviewDesk
