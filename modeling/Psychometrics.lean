import Psychometrics.Cache.Basic
import Psychometrics.Cache.Key
import Psychometrics.Configuration.Basic
import Psychometrics.Configuration.Json
import Psychometrics.Digest.Sha256
import Psychometrics.Instrument.Basic
import Psychometrics.Instrument.Json
import Psychometrics.Json.Basic
import Psychometrics.Json.Decimal
import Psychometrics.Json.Double
import Psychometrics.Json.Printer
import Psychometrics.Json.Reader
import Psychometrics.Json.Record
import Psychometrics.Json.Token
import Psychometrics.Latent
import Psychometrics.Listing.Basic
import Psychometrics.Listing.Json
import Psychometrics.Listing.Legend
import Psychometrics.Model.Basic
import Psychometrics.Model.Json
import Psychometrics.Model.Relation
import Psychometrics.Model.Scaling
import Psychometrics.Model.Upgrade
import Psychometrics.Naming.Names
import Psychometrics.Naming.Symbol
import Psychometrics.Proofs.Cache.Key
import Psychometrics.Proofs.Cache.Transparency
import Psychometrics.Proofs.Configuration.Roundtrip
import Psychometrics.Proofs.Configuration.Text
import Psychometrics.Proofs.Json.Layout
import Psychometrics.Proofs.Json.Record
import Psychometrics.Proofs.Json.Roundtrip
import Psychometrics.Proofs.Json.Scan
import Psychometrics.Proofs.Json.Tree
import Psychometrics.Proofs.Json.Unambiguous
import Psychometrics.Proofs.Listing.Failure
import Psychometrics.Proofs.Listing.Legend
import Psychometrics.Proofs.Listing.Lines
import Psychometrics.Proofs.Listing.Reload
import Psychometrics.Proofs.Listing.Restoring
import Psychometrics.Proofs.Listing.Rules
import Psychometrics.Proofs.Listing.Unidimensional
import Psychometrics.Proofs.Model.Excluded
import Psychometrics.Proofs.Model.Frame
import Psychometrics.Proofs.Model.Items
import Psychometrics.Proofs.Model.Loading
import Psychometrics.Proofs.Model.Relation
import Psychometrics.Proofs.Model.Slots
import Psychometrics.Proofs.Naming.Appending
import Psychometrics.Proofs.Naming.Distinct
import Psychometrics.Proofs.Naming.Exhaustion
import Psychometrics.Proofs.Naming.Marker
import Psychometrics.Proofs.Naming.Shape
import Psychometrics.Proofs.Naming.Supply
import Psychometrics.Proofs.Outcome
import Psychometrics.Proofs.Renaming.Basic
import Psychometrics.Proofs.Renaming.Naming
import Psychometrics.Proofs.Renaming.Scaling
import Psychometrics.Proofs.Renaming.Statements
import Psychometrics.Proofs.Renaming.Text
import Psychometrics.Proofs.Report.HigherOrder
import Psychometrics.Proofs.Report.Measured
import Psychometrics.Proofs.Report.Scaling
import Psychometrics.Proofs.Report.Valid
import Psychometrics.Proofs.Scaling.Admissible
import Psychometrics.Proofs.Scaling.Drawn
import Psychometrics.Proofs.Scaling.Edits
import Psychometrics.Proofs.Scaling.Effective
import Psychometrics.Proofs.Scaling.Exclusion
import Psychometrics.Proofs.Scaling.Identified
import Psychometrics.Proofs.Scaling.Lapse
import Psychometrics.Proofs.Scaling.Reload
import Psychometrics.Proofs.Scaling.Restoring
import Psychometrics.Proofs.Scaling.Shrinking
import Psychometrics.Proofs.Scaling.Stored
import Psychometrics.Proofs.Session.Change
import Psychometrics.Proofs.Session.Debounce
import Psychometrics.Proofs.Session.Exclusion
import Psychometrics.Proofs.Session.Frame
import Psychometrics.Proofs.Session.Fresh
import Psychometrics.Proofs.Session.Identification
import Psychometrics.Proofs.Session.Named
import Psychometrics.Proofs.Session.Refusal
import Psychometrics.Proofs.Session.Reopening
import Psychometrics.Proofs.Session.Restoring
import Psychometrics.Proofs.Session.Run
import Psychometrics.Proofs.Session.Saving
import Psychometrics.Proofs.Session.Timer
import Psychometrics.Proofs.Statement.Blocks
import Psychometrics.Proofs.Statement.Description
import Psychometrics.Proofs.Statement.Foreign
import Psychometrics.Proofs.Statement.HigherOrder
import Psychometrics.Proofs.Statement.Identified
import Psychometrics.Proofs.Statement.Keyed
import Psychometrics.Proofs.Statement.Line
import Psychometrics.Proofs.Statement.Measurement
import Psychometrics.Proofs.Statement.Narrowing
import Psychometrics.Proofs.Statement.Occurrence
import Psychometrics.Proofs.Statement.Outline
import Psychometrics.Proofs.Statement.Printable
import Psychometrics.Proofs.Statement.Separate
import Psychometrics.Proofs.Statement.Total
import Psychometrics.Proofs.Timestamp.Roundtrip
import Psychometrics.Report.Basic
import Psychometrics.Report.Json
import Psychometrics.Report.OfModel
import Psychometrics.Session.Basic
import Psychometrics.Session.Edit
import Psychometrics.Session.Json
import Psychometrics.Session.Store
import Psychometrics.Session.Timer
import Psychometrics.Statement.Basic
import Psychometrics.Statement.OfModel
import Psychometrics.Text.Blank
import Psychometrics.Text.Decimal
import Psychometrics.Text.Hexadecimal
import Psychometrics.Text.Identifier
import Psychometrics.Text.Quoted
import Psychometrics.Text.ShortCode
import Psychometrics.Timestamp.Basic
import Psychometrics.Timestamp.Text
