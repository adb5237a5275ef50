import ReviewDesk.Decision.Client
import ReviewDesk.Desk.Service
import ReviewDesk.Diagnosis
import ReviewDesk.Item.Wire
import ReviewDesk.Rights.Wire
import ReviewDesk.Settings.Wire
import ReviewDesk.Signal.Timed
import ReviewDesk.Proofs.Conversation
import ReviewDesk.Proofs.Dispatch.Conversation
import ReviewDesk.Proofs.Shelf.Claims
import ReviewDesk.Proofs.Traffic.Steps
import ReviewDesk.Proofs.Outside
import ReviewDesk.Proofs.Shelf.Order
import ReviewDesk.Proofs.Traffic.Claimed
import ReviewDesk.Proofs.Traffic.Booked
import ReviewDesk.Proofs.Traffic.Race
import ReviewDesk.Proofs.Traffic.Fair
import ReviewDesk.Proofs.Dispatch.Alone
import ReviewDesk.Proofs.Dispatch.Backlog
import ReviewDesk.Proofs.Desk.Answered
import ReviewDesk.Proofs.Dispatch.Faithful
import ReviewDesk.Proofs.Membership.Lingering
import ReviewDesk.Proofs.Membership.Revocation
import ReviewDesk.Proofs.Membership.Stranded
import ReviewDesk.Proofs.Decision.Admission
import ReviewDesk.Proofs.Membership.Census
import ReviewDesk.Proofs.Membership.Incidents
import ReviewDesk.Proofs.Membership.Isolation
import ReviewDesk.Proofs.Membership.Warrant
import ReviewDesk.Proofs.ActionRef.Reading
import ReviewDesk.Proofs.Dispatch.Buttons
import ReviewDesk.Proofs.Desk.Closing
import ReviewDesk.Proofs.Dispatch.Shares
import ReviewDesk.Proofs.Dispatch.Ledger
import ReviewDesk.Proofs.Dispatch.Separate
import ReviewDesk.Proofs.Bus.Content
import ReviewDesk.Proofs.Desk.Accounts
import ReviewDesk.Proofs.Dispatch.Effect
import ReviewDesk.Proofs.Dispatch.Drain
import ReviewDesk.Proofs.Traffic.Fetched
import ReviewDesk.Proofs.Membership.Minimal
import ReviewDesk.Proofs.Membership.Outcome
import ReviewDesk.Proofs.ActionRef.Grammar
import ReviewDesk.Proofs.Notice.Concord
import ReviewDesk.Proofs.Signal.Wakeups
import ReviewDesk.Proofs.TicketCode.Layout
import ReviewDesk.Proofs.Health.Passes
import ReviewDesk.Proofs.Settings.Reading
import ReviewDesk.Proofs.Decision.Replies
import ReviewDesk.Proofs.Wire
