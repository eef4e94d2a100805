import Quiesce.Interleaving
import Quiesce.Launch
import Quiesce.Main
import Quiesce.Proofs.Api.Addresses
import Quiesce.Proofs.Api.Events
import Quiesce.Proofs.Api.Override
import Quiesce.Proofs.Api.Refusal
import Quiesce.Proofs.Drain.Protocol
import Quiesce.Proofs.Gate.Table
import Quiesce.Proofs.Interleaving.Acts
import Quiesce.Proofs.Interleaving.Chronicle
import Quiesce.Proofs.Interleaving.FailedStop
import Quiesce.Proofs.Interleaving.Isolation
import Quiesce.Proofs.Interleaving.LateStop
import Quiesce.Proofs.Interleaving.Restart
import Quiesce.Proofs.Interleaving.Sessions
import Quiesce.Proofs.Interleaving.StopTokens
import Quiesce.Proofs.Interleaving.Successor
import Quiesce.Proofs.Interleaving.Unsettled
import Quiesce.Proofs.Json.Acceptance
import Quiesce.Proofs.Json.Events
import Quiesce.Proofs.Json.Fields
import Quiesce.Proofs.Json.Grammar
import Quiesce.Proofs.Json.Numerals
import Quiesce.Proofs.Json.Scanning
import Quiesce.Proofs.Json.Strings
import Quiesce.Proofs.Poll.Lookup
import Quiesce.Proofs.Poll.Reply
import Quiesce.Proofs.Roster.Change
import Quiesce.Proofs.Roster.Membership
import Quiesce.Proofs.Session.Accounting
import Quiesce.Proofs.Session.Completion
import Quiesce.Proofs.Session.Exchanges
import Quiesce.Proofs.Session.Outcomes
import Quiesce.Proofs.Settings.Reading
import Quiesce.Proofs.StopRequest.Attempts
import Quiesce.Proofs.StopRequest.Target
import Quiesce.Proofs.StopRequest.Waits
import Quiesce.Proofs.Text.Digits
import Quiesce.Proofs.Text.Percent
import Quiesce.Proofs.Text.Utf8
import Quiesce.Proofs.Url.Paths
