import ApiContext.Compilation
import ApiContext.Context
import ApiContext.Decimal.Literal
import ApiContext.Decimal.Shortest
import ApiContext.Diagnostic
import ApiContext.Draft
import ApiContext.Entries
import ApiContext.Journal
import ApiContext.Json.Basic
import ApiContext.Json.Reader
import ApiContext.Json.Record
import ApiContext.Json.Source
import ApiContext.Json.Writer
import ApiContext.Lineage
import ApiContext.Model.Operation
import ApiContext.Model.Parameter
import ApiContext.Model.Security
import ApiContext.Model.Spec
import ApiContext.Model.Value
import ApiContext.Naming.Identifier
import ApiContext.Naming.Route
import ApiContext.Profile
import ApiContext.Proofs.Agreement
import ApiContext.Proofs.Ascent
import ApiContext.Proofs.AsciiNames
import ApiContext.Proofs.Assignments
import ApiContext.Proofs.CamelCase
import ApiContext.Proofs.CaseTables
import ApiContext.Proofs.Climb
import ApiContext.Proofs.Coherence
import ApiContext.Proofs.Collisions
import ApiContext.Proofs.DeclarationOrder
import ApiContext.Proofs.Diagnostics
import ApiContext.Proofs.Doubles
import ApiContext.Proofs.Drafts
import ApiContext.Proofs.Escaping
import ApiContext.Proofs.Grouping
import ApiContext.Proofs.Identifiers
import ApiContext.Proofs.Inheritance
import ApiContext.Proofs.InlineSchemas
import ApiContext.Proofs.Levels
import ApiContext.Proofs.Log
import ApiContext.Proofs.NestedValues
import ApiContext.Proofs.Notes
import ApiContext.Proofs.Nulls
import ApiContext.Proofs.OperationMappings
import ApiContext.Proofs.OrderedMaps
import ApiContext.Proofs.Origins
import ApiContext.Proofs.Outcome
import ApiContext.Proofs.Outlines
import ApiContext.Proofs.ParameterMappings
import ApiContext.Proofs.Paths
import ApiContext.Proofs.Pointers
import ApiContext.Proofs.Positions
import ApiContext.Proofs.Profiles
import ApiContext.Proofs.PropertyLists
import ApiContext.Proofs.Pruning
import ApiContext.Proofs.RawTrees
import ApiContext.Proofs.Readers
import ApiContext.Proofs.References
import ApiContext.Proofs.Resolution
import ApiContext.Proofs.ResolvedTypes
import ApiContext.Proofs.RoundTrip
import ApiContext.Proofs.Routes
import ApiContext.Proofs.Run
import ApiContext.Proofs.Sanitizing
import ApiContext.Proofs.Separation
import ApiContext.Proofs.Separators
import ApiContext.Proofs.Sessions
import ApiContext.Proofs.Shadowing
import ApiContext.Proofs.Slices
import ApiContext.Proofs.Sorting
import ApiContext.Proofs.TagGroups
import ApiContext.Proofs.TopLevel
import ApiContext.Proofs.Traversal
import ApiContext.Proofs.ValueMappings
import ApiContext.Proofs.Visits
import ApiContext.Proofs.Walk
import ApiContext.Resolve.Basic
import ApiContext.Resolve.Operation
import ApiContext.Resolve.Schema
import ApiContext.Resolve.Value
import ApiContext.Settings.Basic
import ApiContext.Settings.File
import ApiContext.Text.Alphanumeric
import ApiContext.Text.CaseMapping
import ApiContext.Text.CodePoint
import ApiContext.Text.Digits
import ApiContext.Text.LetterCase
import ApiContext.Text.Words
import ApiContext.Yaml.Basic
import ApiContext.Yaml.Document
import ApiContext.Yaml.Scalar
