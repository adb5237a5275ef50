import ReviewDesk.Text.Blank
import ReviewDesk.Text.Bounded

/-!
The identifiers that the desk passes around: items by text, channels and reviewers by 64-bit
numbers, and the place of a posted message.
-/

set_option autoImplicit false
set_option relaxedAutoImplicit false

namespace ReviewDesk

/-- The identifier of a review item, any text at all. -/
structure ItemId where
  text : String
  deriving DecidableEq

namespace ItemId

/-- The identifier a text names, without the blanks around it. -/
def ofText (text : String) : ItemId := ⟨Text.trim text⟩

def isEmpty (id : ItemId) : Bool := id.text.isEmpty

instance : LT ItemId := ⟨fun a b ↦ a.text < b.text⟩

instance (a b : ItemId) : Decidable (a < b) := inferInstanceAs (Decidable (a.text < b.text))

end ItemId

/-- A channel of the messaging platform. -/
structure ChannelId where
  number : Int64
  deriving DecidableEq

namespace ChannelId

/-- Reads a configured channel. Zero and anything that is no number mean that there is none. -/
def read? (text : String) : Option ChannelId :=
  ((Text.signed64? (Text.trim text)).filter (· ≠ 0)).map ChannelId.mk

def text (channel : ChannelId) : String := Text.ofInt channel.number.toInt

end ChannelId

/-- A person on the messaging platform. -/
structure ReviewerId where
  number : Int64
  deriving DecidableEq

namespace ReviewerId

/-- The platform gives people strictly positive numbers. -/
def isValid (reviewer : ReviewerId) : Bool := 0 < reviewer.number.toInt

def text (reviewer : ReviewerId) : String := Text.ofInt reviewer.number.toInt

instance : LT ReviewerId := ⟨fun a b ↦ a.number.toInt < b.number.toInt⟩

instance (a b : ReviewerId) : Decidable (a < b) :=
  inferInstanceAs (Decidable (a.number.toInt < b.number.toInt))

theorem lt_iff {a b : ReviewerId} : a < b ↔ a.number.toInt < b.number.toInt := Iff.rfl

theorem lt_irrefl (a : ReviewerId) : ¬a < a := by simp [lt_iff]

theorem lt_trans {a b c : ReviewerId} (hab : a < b) (hbc : b < c) : a < c :=
  Int.lt_trans hab hbc

theorem lt_of_not_lt {a b : ReviewerId} (h : ¬a < b) (hne : a ≠ b) : b < a := by
  have hn : a.number.toInt ≠ b.number.toInt := fun he ↦ hne <| by
    cases a; cases b; exact congrArg _ (Int64.toInt_inj.mp he)
  rw [lt_iff] at h ⊢
  omega

end ReviewerId

/-- Where a review was posted. -/
structure MessageRef where
  channel : ChannelId
  message : Int
  deriving DecidableEq

end ReviewDesk
