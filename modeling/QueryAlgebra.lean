import QueryAlgebra.Catalog
import QueryAlgebra.DataType
import QueryAlgebra.Dialect
import QueryAlgebra.Dialect.Definition
import QueryAlgebra.Document
import QueryAlgebra.Expression
import QueryAlgebra.Expression.Equality
import QueryAlgebra.Expression.Operators
import QueryAlgebra.KeyedList
import QueryAlgebra.Proofs.Alignment
import QueryAlgebra.Proofs.CatalogRuns
import QueryAlgebra.Proofs.Compositions
import QueryAlgebra.Proofs.ConjoinedSelections
import QueryAlgebra.Proofs.ConservativeDialects
import QueryAlgebra.Proofs.DerivedRelations
import QueryAlgebra.Proofs.DialectAgreement
import QueryAlgebra.Proofs.DialectChanges
import QueryAlgebra.Proofs.DialectMerge
import QueryAlgebra.Proofs.EqualTrees
import QueryAlgebra.Proofs.EqualityCongruence
import QueryAlgebra.Proofs.ErasedReasons
import QueryAlgebra.Proofs.ErrorReports
import QueryAlgebra.Proofs.Faults
import QueryAlgebra.Proofs.GroupedColumns
import QueryAlgebra.Proofs.GroupingNames
import QueryAlgebra.Proofs.KeyIndexing
import QueryAlgebra.Proofs.KeyedLookups
import QueryAlgebra.Proofs.LiteralLists
import QueryAlgebra.Proofs.LiteralReader
import QueryAlgebra.Proofs.NameResolution
import QueryAlgebra.Proofs.NodeErrors
import QueryAlgebra.Proofs.OverloadResolution
import QueryAlgebra.Proofs.Ownership
import QueryAlgebra.Proofs.Pipelines
import QueryAlgebra.Proofs.ProjectedAttributes
import QueryAlgebra.Proofs.Reader
import QueryAlgebra.Proofs.ReferenceLeads
import QueryAlgebra.Proofs.ReferenceTyping
import QueryAlgebra.Proofs.RenamedAttributes
import QueryAlgebra.Proofs.RenderedLaws
import QueryAlgebra.Proofs.RenderingOrder
import QueryAlgebra.Proofs.RoundTrip
import QueryAlgebra.Proofs.Scanner
import QueryAlgebra.Proofs.SelectionStack
import QueryAlgebra.Proofs.SelectionSteps
import QueryAlgebra.Proofs.Spelling
import QueryAlgebra.Proofs.StackedSelections
import QueryAlgebra.Proofs.StickyErrors
import QueryAlgebra.Proofs.StrictTyping
import QueryAlgebra.Proofs.TableColumns
import QueryAlgebra.Proofs.TreeInduction
import QueryAlgebra.Proofs.Trimming
import QueryAlgebra.Proofs.TypeIdentity
import QueryAlgebra.Proofs.TypeNames
import QueryAlgebra.Proofs.TypingDescent
import QueryAlgebra.Proofs.TypingTermination
import QueryAlgebra.Proofs.UpperCase
import QueryAlgebra.Proofs.WellTyped
import QueryAlgebra.Reference
import QueryAlgebra.Relation
import QueryAlgebra.Render
import QueryAlgebra.Rendered
import QueryAlgebra.SetupError
import QueryAlgebra.Table
import QueryAlgebra.Text.Quoted
import QueryAlgebra.Text.Unicode
import QueryAlgebra.Typing
import QueryAlgebra.Yaml.Decode
import QueryAlgebra.Yaml.Mark
import QueryAlgebra.Yaml.Node
import QueryAlgebra.Yaml.Scalar
import QueryAlgebra.Yaml.Token
