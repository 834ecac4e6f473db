import SessionKeeper.Main
import SessionKeeper.Refresh.Traffic
import SessionKeeper.Proofs.Time.Calendar
import SessionKeeper.Proofs.Time.Stamp
import SessionKeeper.Proofs.Json.RoundTrip
import SessionKeeper.Proofs.Credential.Record
import SessionKeeper.Proofs.Session.Coherence
import SessionKeeper.Proofs.Refresh.Desk
import SessionKeeper.Proofs.Refresh.Runs
import SessionKeeper.Proofs.Refresh.OneCall
import SessionKeeper.Proofs.Refresh.Waiters
import SessionKeeper.Proofs.Refresh.Delivery
import SessionKeeper.Proofs.Refresh.Answers
import SessionKeeper.Proofs.Refresh.Overtaken
import SessionKeeper.Client.Run
import SessionKeeper.Proofs.Client.Steps
import SessionKeeper.Proofs.Client.Expiry
import SessionKeeper.Proofs.Client.Files
import SessionKeeper.Proofs.Client.Deeds
import SessionKeeper.Proofs.Client.Ledger
import SessionKeeper.Proofs.Credential.Store
import SessionKeeper.Proofs.Client.Verdicts
import SessionKeeper.Proofs.Client.Reports
import SessionKeeper.Proofs.Client.Effects
import SessionKeeper.Proofs.Client.History
import SessionKeeper.Proofs.Client.Retry
import SessionKeeper.Proofs.Client.Queue
import SessionKeeper.Proofs.Client.Endings
import SessionKeeper.Proofs.Client.Batch
import SessionKeeper.Proofs.Client.Course
import SessionKeeper.Proofs.Client.Deliveries
import SessionKeeper.Proofs.Client.Together
import SessionKeeper.Proofs.Client.Keeping
import SessionKeeper.Proofs.Client.Finality
import SessionKeeper.Proofs.Client.Prompts
import SessionKeeper.Proofs.Client.PassThrough
import SessionKeeper.Proofs.Client.ExpiredCalls
import SessionKeeper.Proofs.Http.Cookie
import SessionKeeper.Proofs.Refresh.Issuance
import SessionKeeper.Proofs.Client.RefreshTokens
import SessionKeeper.Proofs.Credential.StoreFile
import SessionKeeper.Proofs.Session.Operation
import SessionKeeper.Proofs.Session.Consistency
import SessionKeeper.Proofs.Session.Unaffected
import SessionKeeper.Proofs.Session.Replacement
import SessionKeeper.Proofs.Refresh.Rounds
import SessionKeeper.Proofs.Refresh.Looks
import SessionKeeper.Proofs.Client.Attempts
import SessionKeeper.Proofs.Client.Causes
import SessionKeeper.Proofs.Client.Ahead
import SessionKeeper.Proofs.Client.Wire
import SessionKeeper.Proofs.Credential.Expiry
import SessionKeeper.Proofs.Client.Due
import SessionKeeper.Proofs.Client.LostSessions
import SessionKeeper.Proofs.Client.SignIns
import SessionKeeper.Proofs.CommandLine.Status
import SessionKeeper.Proofs.Session.Watching
import SessionKeeper.Json.Grammar
import SessionKeeper.Proofs.Json.Tokens
import SessionKeeper.Proofs.Json.Trees
import SessionKeeper.Proofs.Credential.Fields
