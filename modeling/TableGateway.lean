import TableGateway.Json.Described
import TableGateway.Main
import TableGateway.Proofs.Admission
import TableGateway.Proofs.Binding
import TableGateway.Proofs.SameRows
import TableGateway.Settings.Shown
import TableGateway.Storage.Table
import TableGateway.Proofs.Likeness
import TableGateway.Proofs.Changes
import TableGateway.Proofs.Targets
import TableGateway.Proofs.KeyCache
import TableGateway.Proofs.Cells
import TableGateway.Proofs.Outcomes
import TableGateway.Proofs.Pages
import TableGateway.Proofs.Failures
import TableGateway.Proofs.PassingOver
import TableGateway.Proofs.Nesting
import TableGateway.Proofs.Records
import TableGateway.Proofs.Headers
import TableGateway.Proofs.Expiry
import TableGateway.Proofs.Signatures
import TableGateway.Proofs.Tokens
import TableGateway.Proofs.Ranges
import TableGateway.Proofs.Starting
import TableGateway.Proofs.Limits
import TableGateway.Proofs.FilterGrammar
import TableGateway.Proofs.SingleEntries
import TableGateway.Proofs.InLists
import TableGateway.Proofs.Bodies
import TableGateway.Proofs.Requirements
import TableGateway.Proofs.Upserts
import TableGateway.Proofs.Spellings
import TableGateway.Proofs.EmptyHeaders
import TableGateway.Proofs.Refusals
import TableGateway.Proofs.Routes
import TableGateway.Proofs.Wishes
import TableGateway.Proofs.Storing
import TableGateway.Proofs.Precedence
import TableGateway.Proofs.Sources
import TableGateway.Proofs.Integers
