import SchemaDiagram.Catalog.Basic
import SchemaDiagram.Catalog.Build
import SchemaDiagram.Catalog.Builder
import SchemaDiagram.Catalog.ColumnType
import SchemaDiagram.Catalog.Database
import SchemaDiagram.Catalog.Filter
import SchemaDiagram.Catalog.NameMap
import SchemaDiagram.Catalog.Rows
import SchemaDiagram.Catalog.Validity
import SchemaDiagram.Command.Arguments
import SchemaDiagram.Command.Run
import SchemaDiagram.Decimal.Numeral
import SchemaDiagram.Decimal.Shortest
import SchemaDiagram.Diagram.Document
import SchemaDiagram.Diagram.RelationLine
import SchemaDiagram.Diagram.Session
import SchemaDiagram.Diagram.TypeLabel
import SchemaDiagram.FileTree
import SchemaDiagram.Glob
import SchemaDiagram.Json.Error
import SchemaDiagram.Json.Grammar
import SchemaDiagram.Json.Scan
import SchemaDiagram.Json.Schema
import SchemaDiagram.Json.Value
import SchemaDiagram.Main
import SchemaDiagram.Mismatch
import SchemaDiagram.Path
import SchemaDiagram.Proofs.AdmittedValues
import SchemaDiagram.Proofs.AssembledCatalog
import SchemaDiagram.Proofs.BlankLists
import SchemaDiagram.Proofs.BuiltCatalog
import SchemaDiagram.Proofs.BuiltValidity
import SchemaDiagram.Proofs.CatalogStructure
import SchemaDiagram.Proofs.CollectedRows
import SchemaDiagram.Proofs.Defects
import SchemaDiagram.Proofs.Derivation
import SchemaDiagram.Proofs.Drawing
import SchemaDiagram.Proofs.DrawnKeys
import SchemaDiagram.Proofs.ErrorTruth
import SchemaDiagram.Proofs.Files
import SchemaDiagram.Proofs.FilterAlgebra
import SchemaDiagram.Proofs.FilteredDocuments
import SchemaDiagram.Proofs.FilteredSchemas
import SchemaDiagram.Proofs.FirstViolation
import SchemaDiagram.Proofs.FormatSchemas
import SchemaDiagram.Proofs.JsonGrammar
import SchemaDiagram.Proofs.JsonSchema
import SchemaDiagram.Proofs.JsonSkipping
import SchemaDiagram.Proofs.JsonText
import SchemaDiagram.Proofs.KeyColumns
import SchemaDiagram.Proofs.KeyCounts
import SchemaDiagram.Proofs.Keys
import SchemaDiagram.Proofs.LineCounts
import SchemaDiagram.Proofs.LoadedCatalogs
import SchemaDiagram.Proofs.LoadedRows
import SchemaDiagram.Proofs.Narrowing
import SchemaDiagram.Proofs.PathParts
import SchemaDiagram.Proofs.Pieces
import SchemaDiagram.Proofs.PrintedJson
import SchemaDiagram.Proofs.PrintedLines
import SchemaDiagram.Proofs.PublishedSchema
import SchemaDiagram.Proofs.Readers
import SchemaDiagram.Proofs.ReadingOrder
import SchemaDiagram.Proofs.Records
import SchemaDiagram.Proofs.RenderedFiles
import SchemaDiagram.Proofs.Rendering
import SchemaDiagram.Proofs.RepeatedFlags
import SchemaDiagram.Proofs.RowOrder
import SchemaDiagram.Proofs.SchemaIndependence
import SchemaDiagram.Proofs.SchemaLists
import SchemaDiagram.Proofs.SchemaTargets
import SchemaDiagram.Proofs.Scripts
import SchemaDiagram.Proofs.Selection
import SchemaDiagram.Proofs.Sessions
import SchemaDiagram.Proofs.SettingPrecedence
import SchemaDiagram.Proofs.SnapshotRoundTrip
import SchemaDiagram.Proofs.SnapshotRun
import SchemaDiagram.Proofs.SnapshotSpellings
import SchemaDiagram.Proofs.Strictness
import SchemaDiagram.Proofs.TypeModifiers
import SchemaDiagram.Proofs.WrittenSnapshots
import SchemaDiagram.Settings.File
import SchemaDiagram.Settings.Resolve
import SchemaDiagram.Settings.Values
import SchemaDiagram.Snapshot.Admission
import SchemaDiagram.Snapshot.Catalog
import SchemaDiagram.Snapshot.Format
import SchemaDiagram.Snapshot.Publish
import SchemaDiagram.Snapshot.Read
import SchemaDiagram.Snapshot.Spelling
import SchemaDiagram.Snapshot.Write
import SchemaDiagram.Text.Blank
import SchemaDiagram.Text.Hexadecimal
import SchemaDiagram.Text.Invisible
import SchemaDiagram.Text.Order
import SchemaDiagram.Text.Quoted
import SchemaDiagram.Text.UpperCase
import SchemaDiagram.Warning
import SchemaDiagram.Yaml.Cursor
import SchemaDiagram.Yaml.Document
import SchemaDiagram.Yaml.Event
import SchemaDiagram.Yaml.Malformation
import SchemaDiagram.Yaml.Meaning
import SchemaDiagram.Yaml.Read
import SchemaDiagram.Yaml.Scalar
import SchemaDiagram.Yaml.Tag
import SchemaDiagram.Yaml.Token
