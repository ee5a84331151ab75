import Tint.Main
import Tint.Proofs.Builtin.Dimensions
import Tint.Proofs.Builtin.ListItems
import Tint.Proofs.Builtin.QuotedStrings
import Tint.Proofs.Builtin.TypeNames
import Tint.Proofs.Catalog.History
import Tint.Proofs.Catalog.Listing
import Tint.Proofs.Catalog.Lookup
import Tint.Proofs.Catalog.Merged
import Tint.Proofs.CommandLine.Grammar
import Tint.Proofs.CommandLine.Outcome
import Tint.Proofs.Comments
import Tint.Proofs.Config.Extends
import Tint.Proofs.Config.Format
import Tint.Proofs.Config.Shorthand
import Tint.Proofs.Exhausted
import Tint.Proofs.FirstClaim
import Tint.Proofs.Json.Tokenized
import Tint.Proofs.Language.Canonical
import Tint.Proofs.Markup.Wrapped
import Tint.Proofs.Precedence
import Tint.Proofs.Reserved
import Tint.Proofs.Slices
import Tint.Proofs.Stash.Paired
import Tint.Proofs.Stash.Spans
import Tint.Proofs.Structured.Escaped
import Tint.Proofs.Structured.Scanned
import Tint.Proofs.Terminal
