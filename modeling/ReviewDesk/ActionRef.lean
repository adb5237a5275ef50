import ReviewDesk.Identity
import ReviewDesk.Kind

/-!
Action references: the text attached to the buttons of a posted review. A reference is written as
the mark of the kind, the action and the item's identifier with colons between, and only the first
two colons separate, so an identifier may hold more of them.
-/

set_option autoImplicit false
set_option relaxedAutoImplicit false

namespace ReviewDesk

/-- A decision on one item, as a button of its posted review carries it. -/
structure ActionRef where
  kind : Kind
  action : Action
  item : ItemId
  deriving DecidableEq

namespace ActionRef

def text (ref : ActionRef) : String :=
  ref.kind.mark ++ ":" ++ ref.action.name ++ ":" ++ ref.item.text

/-- Cuts a text at its first colon; without one there is no second part. -/
def cut? (cs : List Char) : Option (List Char × List Char) :=
  match cs.span (· != ':') with
  | (before, _ :: after) => some (before, after)
  | (_, []) => none

/-- Reads a reference. The mark has to be exact; the action may have any ASCII case and blanks
around it; the identifier loses the blanks around it and must not be empty then. -/
def read? (text : String) : Option ActionRef := do
  let (mark, rest) ← cut? (Text.trimChars text.toList)
  let (action, id) ← cut? rest
  let kind ← Kind.ofMark? mark
  let action ← Action.read? (String.ofList action)
  let item := ItemId.ofText (String.ofList id)
  if item.isEmpty then none else some ⟨kind, action, item⟩

end ActionRef

end ReviewDesk
