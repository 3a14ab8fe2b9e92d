import Schemata.CommandLine.FileTree
import Schemata.Main
import Schemata.Proofs.Definition.Grammar
import Schemata.Proofs.Token.Scanning
import Schemata.Proofs.Definition.Items
import Schemata.Proofs.Definition.Derivation
import Schemata.Proofs.Definition.Parsing
import Schemata.Proofs.Naming
import Schemata.Proofs.Column.Default
import Schemata.Proofs.Definition.Names
import Schemata.Proofs.Bundle
import Schemata.Proofs.Storage.Comment
import Schemata.Proofs.Host.Binding
import Schemata.Proofs.Definition.Faults
import Schemata.Proofs.Text.Lines
import Schemata.Proofs.Script.Rows
import Schemata.Proofs.Script.Lines
import Schemata.Proofs.Host.Success
import Schemata.Proofs.Generation
import Schemata.Proofs.CommandLine.Writing
import Schemata.Proofs.Definition.Words
import Schemata.Proofs.CommandLine.Artifacts
import Schemata.Proofs.Text.Reading
import Schemata.Proofs.Storage.Columns
import Schemata.Proofs.Host.Columns
import Schemata.Proofs.Columns
import Schemata.Proofs.Host.Literals
import Schemata.Proofs.Host.Parameters
import Schemata.Proofs.Storage.Parameters
import Schemata.Proofs.Parameters
import Schemata.Proofs.Token.Joining
import Schemata.Proofs.Joining
import Schemata.Proofs.Storage.References
import Schemata.Proofs.Storage.Single
import Schemata.Proofs.Storage.Determined
import Schemata.Proofs.CommandLine.Footprint
import Schemata.Proofs.Indentation
import Schemata.Proofs.Token.Regions
import Schemata.Proofs.Definition.Interchange
import Schemata.Proofs.Definition.Canonical
import Schemata.Proofs.Definition.RoundTrip
import Schemata.Proofs.Definition.Lengths
import Schemata.Proofs.Host.Properties
import Schemata.Proofs.Text.Letters
import Schemata.Proofs.Host.Identifiers
import Schemata.Proofs.Literal.Canonical
import Schemata.Proofs.Literal.Integer
import Schemata.Proofs.Column.Exact
import Schemata.Proofs.Literal.Finite
import Schemata.Proofs.Column.Widening
import Schemata.Proofs.Naming.SnakeCase
import Schemata.Proofs.Naming.Coherence
import Schemata.Proofs.Definition.Order
import Schemata.Proofs.Token.Faults
import Schemata.Proofs.Script.Execution
import Schemata.Proofs.Host.Embedding
import Schemata.Proofs.Script.Brackets
import Schemata.Proofs.Host.Brackets
import Schemata.Proofs.Host.Arguments
import Schemata.Proofs.Storage.Dependencies
import Schemata.Proofs.Text.Bytes
import Schemata.Proofs.CommandLine.Listing
import Schemata.Definition.Machine
import Schemata.Proofs.Definition.Machine
import Schemata.Proofs.Definition.Flags
