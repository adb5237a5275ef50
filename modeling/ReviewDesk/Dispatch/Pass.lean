import ReviewDesk.Call

/-!
A dispatch pass: for each kind with a channel, the oldest pending items are posted and then claimed
with the message they were posted as. An item is posted before it is claimed; where somebody else
has claimed it by then, the post stays and counts as a duplicate.
-/

set_option autoImplicit false
set_option relaxedAutoImplicit false

namespace ReviewDesk.Dispatch

/-- What became of the items of a pass. -/
structure Report where
  sent : PerKind Nat := ⟨0, 0⟩
  duplicates : Nat := 0
  skipped : Nat := 0
  failed : Nat := 0
  deriving DecidableEq

/-- What became of one item. -/
inductive Fate where
  /-- Posted and claimed. -/
  | sent
  /-- Posted, but claimed by somebody else. -/
  | duplicate
  /-- Left alone: without an identifier, or with nothing to post. -/
  | skipped
  /-- Posting or claiming it failed. -/
  | failed
  deriving DecidableEq

namespace Report

def count (report : Report) (kind : Kind) : Fate → Report
  | .sent => { report with sent := report.sent.modify kind (· + 1) }
  | .duplicate => { report with duplicates := report.duplicates + 1 }
  | .skipped => { report with skipped := report.skipped + 1 }
  | .failed => { report with failed := report.failed + 1 }

end Report

/-- Posts and claims one item. -/
def offer (channel : ChannelId) (item : Item) : Procedure Fate :=
  if item.id.isEmpty ∨ item.attachment.isEmpty then .done .skipped
  else .ask (.publish channel (Post.ofItem item)) fun
    | .error _ => .done .failed
    | .ok target => .ask (.claim item.kind item.id target) fun
      | .error _ => .done .failed
      | .ok true => .done .sent
      | .ok false => .done .duplicate

def offerAll (kind : Kind) (channel : ChannelId) : List Item → Report → Procedure Report
  | [], report => .done report
  | item :: items, report => do
    let fate ← offer channel item
    offerAll kind channel items (report.count kind fate)

/-- The part of a pass that concerns one kind. -/
def passKind (limit : Nat) (kind : Kind) (report : Report) : Procedure (Except Failure Report) :=
  .ask (.resolveChannel kind) fun
    | .error error => .done (.error (.store error))
    | .ok none => .done (.ok report)
    | .ok (some channel) => .ask (.fetchPending kind limit) fun
      | .error error => .done (.error (.store error))
      | .ok items => do
        let report ← offerAll kind channel items report
        return .ok report

def passKinds (limit : Nat) : List Kind → Report → Procedure (Except Failure Report)
  | [], report => .done (.ok report)
  | kind :: kinds, report => do
    match ← passKind limit kind report with
    | .error failure => return .error failure
    | .ok report => passKinds limit kinds report

/-- A whole pass, which fails as a whole only where a kind cannot be looked through. -/
def pass (limit : Nat) : Procedure (Except Failure Report) := passKinds (max limit 1) Kind.all {}

end ReviewDesk.Dispatch
