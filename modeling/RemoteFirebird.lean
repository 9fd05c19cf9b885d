import RemoteFirebird.ForeignTable.Statements
import RemoteFirebird.Log
import RemoteFirebird.Options.Table
import RemoteFirebird.Options.UserMapping
import RemoteFirebird.Pool.Borrow
import RemoteFirebird.Pool.Closing
import RemoteFirebird.Pool.Establish
import RemoteFirebird.Proofs.Edits
import RemoteFirebird.Proofs.ForeignTable.ColumnLists
import RemoteFirebird.Proofs.ForeignTable.Naming
import RemoteFirebird.Proofs.ForeignTable.Presentation
import RemoteFirebird.Proofs.ForeignTable.ReadBack
import RemoteFirebird.Proofs.ForeignTable.Refusals
import RemoteFirebird.Proofs.ForeignTable.TargetLists
import RemoteFirebird.Proofs.ForeignTable.Updatability
import RemoteFirebird.Proofs.ForeignTable.Wording
import RemoteFirebird.Proofs.Options.Limits
import RemoteFirebird.Proofs.Options.Offences
import RemoteFirebird.Proofs.Options.Secrets
import RemoteFirebird.Proofs.Outcome
import RemoteFirebird.Proofs.Pool.Assignment
import RemoteFirebird.Proofs.Pool.Confinement
import RemoteFirebird.Proofs.Pool.Conservation
import RemoteFirebird.Proofs.Pool.Handshake
import RemoteFirebird.Proofs.Pool.Identity
import RemoteFirebird.Proofs.Pool.LiveSessions
import RemoteFirebird.Proofs.Pool.LookUps
import RemoteFirebird.Proofs.Pool.Nesting
import RemoteFirebird.Proofs.Pool.Operations
import RemoteFirebird.Proofs.Pool.Reachable
import RemoteFirebird.Proofs.Pool.Reentry
import RemoteFirebird.Proofs.Pool.Reports
import RemoteFirebird.Proofs.Pool.Run
import RemoteFirebird.Proofs.Pool.Secrets
import RemoteFirebird.Proofs.Pool.Sound
import RemoteFirebird.Proofs.Rehearsal.Balance
import RemoteFirebird.Proofs.Rehearsal.Borrows
import RemoteFirebird.Proofs.Rehearsal.Handshake
import RemoteFirebird.Proofs.Rehearsal.Reentry
import RemoteFirebird.Proofs.Rehearsal.Runs
import RemoteFirebird.Proofs.Rehearsal.Secrets
import RemoteFirebird.Proofs.Session.Endpoint
import RemoteFirebird.Proofs.Sql.BareNames
import RemoteFirebird.Proofs.Sql.Quoting
import RemoteFirebird.Proofs.Sql.ReadBack
import RemoteFirebird.Proofs.Sql.Reader
import RemoteFirebird.Proofs.Text.Numeral
import RemoteFirebird.Rehearsal.Run
import RemoteFirebird.Session.Encoding
