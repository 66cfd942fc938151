import AppBundle.Main
import AppBundle.Proofs.Accounts
import AppBundle.Proofs.Assembly
import AppBundle.Proofs.Below
import AppBundle.Proofs.Bounded
import AppBundle.Proofs.Entrypoints
import AppBundle.Proofs.Excluded
import AppBundle.Proofs.Findings
import AppBundle.Proofs.Following
import AppBundle.Proofs.History
import AppBundle.Proofs.Linkless
import AppBundle.Proofs.Links
import AppBundle.Proofs.Lookup
import AppBundle.Proofs.NormalPath
import AppBundle.Proofs.Pool
import AppBundle.Proofs.Pooled
import AppBundle.Proofs.Reading
import AppBundle.Proofs.Shipped
import AppBundle.Proofs.Snapshot
import AppBundle.Proofs.Spelling
import AppBundle.Proofs.Strays
import AppBundle.Proofs.Unresolved
import AppBundle.Proofs.Walk
import AppBundle.Proofs.Ending
import AppBundle.Proofs.Respelled
import AppBundle.Proofs.Matching
import AppBundle.Proofs.Parts
import AppBundle.Proofs.Stricter
import AppBundle.Proofs.Plain
import AppBundle.Proofs.Nesting
import AppBundle.Proofs.Anchored
import AppBundle.Proofs.Repeated
import AppBundle.Proofs.CatchAll
import AppBundle.Proofs.FileNames
import AppBundle.Proofs.CleanUrls
import AppBundle.Proofs.Listing
import AppBundle.Proofs.OutputNames
import AppBundle.Proofs.Fallback
import AppBundle.Proofs.Classified
import AppBundle.Proofs.Collisions
import AppBundle.Proofs.Discovered
import AppBundle.Proofs.Contained
import AppBundle.Proofs.Handlers
import AppBundle.Proofs.Grammar
import AppBundle.Proofs.Parameters
import AppBundle.Proofs.Comments
import AppBundle.Proofs.Statements
import AppBundle.Proofs.Sources
import AppBundle.Proofs.Overrides
import AppBundle.Proofs.Nearest
import AppBundle.Proofs.Conditions
import AppBundle.Proofs.Joined
import AppBundle.Proofs.Canonical
import AppBundle.Proofs.Commands
