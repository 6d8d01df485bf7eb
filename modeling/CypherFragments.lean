import CypherFragments.Json.Convert
import CypherFragments.Main
import CypherFragments.Record.Schema
import CypherFragments.Proofs.Assembly
import CypherFragments.Proofs.Name
import CypherFragments.Proofs.Config.Valid
import CypherFragments.Proofs.Inline.Composition
import CypherFragments.Proofs.Edge.Parameters
import CypherFragments.Proofs.Literal.ReadBack
import CypherFragments.Proofs.Noninterference
import CypherFragments.Proofs.Edge.Parts
import CypherFragments.Proofs.Clause.Distinct
import CypherFragments.Proofs.Inline.CreateLiteral
import CypherFragments.Proofs.Unambiguous.Call
import CypherFragments.Proofs.Config.Layered
import CypherFragments.Proofs.Edge.Aliases
import CypherFragments.Proofs.Representation
import CypherFragments.Proofs.Excludes
import CypherFragments.Proofs.Parameters
import CypherFragments.Proofs.CommandLine.Options
import CypherFragments.Proofs.ConfiguredClause
import CypherFragments.Proofs.Inline.OnePass
import CypherFragments.Proofs.Clause.Template
import CypherFragments.Proofs.Clause.Collected
import CypherFragments.Proofs.Clause.Assignment
import CypherFragments.Proofs.Config.Written
import CypherFragments.Proofs.Clause.RoundTrip
import CypherFragments.Proofs.Sections
import CypherFragments.Proofs.Failure
import CypherFragments.Proofs.Merge
import CypherFragments.Proofs.Config.File
import CypherFragments.Proofs.Config.File
