import JavaCallGraph.AnalysisError
import JavaCallGraph.CallGraph
import JavaCallGraph.CallGraph.Build
import JavaCallGraph.CallGraph.Digraph
import JavaCallGraph.CallGraph.File
import JavaCallGraph.Command
import JavaCallGraph.CommandLine.Read
import JavaCallGraph.CommandLine.Spec
import JavaCallGraph.Endpoint
import JavaCallGraph.FileTree
import JavaCallGraph.Format.Json
import JavaCallGraph.Format.Json.Read
import JavaCallGraph.Format.Json.Write
import JavaCallGraph.Format.Toml
import JavaCallGraph.Format.Toml.Read
import JavaCallGraph.Format.Yaml.Cursor
import JavaCallGraph.Format.Yaml.Node
import JavaCallGraph.Format.Yaml.Plain
import JavaCallGraph.Format.Yaml.Scalar
import JavaCallGraph.Format.Yaml.Token
import JavaCallGraph.Format.Yaml.Write
import JavaCallGraph.Format.Zip
import JavaCallGraph.Ignore.Glob
import JavaCallGraph.Ignore.Rules
import JavaCallGraph.ImportTable
import JavaCallGraph.Inference
import JavaCallGraph.Java.Fault
import JavaCallGraph.Java.Grammar
import JavaCallGraph.Java.Outline
import JavaCallGraph.Java.Parse
import JavaCallGraph.Java.Pattern
import JavaCallGraph.Java.Token
import JavaCallGraph.Java.Token.Scan
import JavaCallGraph.Java.Tree
import JavaCallGraph.Java.Unit
import JavaCallGraph.KeyMap
import JavaCallGraph.Library
import JavaCallGraph.Main
import JavaCallGraph.MethodContext
import JavaCallGraph.OutputFormat
import JavaCallGraph.Path
import JavaCallGraph.Project
import JavaCallGraph.Report
import JavaCallGraph.Resolution
import JavaCallGraph.ResultFiles
import JavaCallGraph.Scan
import JavaCallGraph.Scope
import JavaCallGraph.Settings
import JavaCallGraph.Signature
import JavaCallGraph.Snippet
import JavaCallGraph.SymbolStore
import JavaCallGraph.SymbolStore.Archive
import JavaCallGraph.SymbolStore.Solve
import JavaCallGraph.Text.Blank
import JavaCallGraph.Text.Cut
import JavaCallGraph.Text.Digit
import JavaCallGraph.Text.Letter
import JavaCallGraph.Text.Lowercase
import JavaCallGraph.TypeName
import JavaCallGraph.Proofs.Distinct
import JavaCallGraph.Proofs.KeyMap
import JavaCallGraph.Proofs.CallGraph
import JavaCallGraph.Proofs.SymbolStore
import JavaCallGraph.Proofs.ClosedWorld
import JavaCallGraph.Proofs.Text
import JavaCallGraph.Proofs.TypeName
import JavaCallGraph.Proofs.Signature
import JavaCallGraph.Proofs.ImportTable
import JavaCallGraph.Proofs.Sites
import JavaCallGraph.Proofs.CallSites
import JavaCallGraph.Proofs.SharedKeys
import JavaCallGraph.Proofs.Hierarchy
import JavaCallGraph.Proofs.Overrides
import JavaCallGraph.Proofs.SignatureText
import JavaCallGraph.Proofs.TypePaths
import JavaCallGraph.Proofs.GraphKeys
import JavaCallGraph.Proofs.Accounting
import JavaCallGraph.Proofs.GraphShape
import JavaCallGraph.Proofs.UnitOrder
import JavaCallGraph.Proofs.Json
import JavaCallGraph.Proofs.FileTree
import JavaCallGraph.Proofs.Path
import JavaCallGraph.Proofs.ResultFiles
import JavaCallGraph.Proofs.Scan
import JavaCallGraph.Proofs.Deletion
import JavaCallGraph.Proofs.BrokenFiles
import JavaCallGraph.Proofs.SnippetMerge
import JavaCallGraph.Proofs.StoreGrowth
import JavaCallGraph.Proofs.KnownTypes
import JavaCallGraph.Proofs.CallDistance
import JavaCallGraph.Proofs.SupertypeSearch
import JavaCallGraph.Proofs.Overloads
import JavaCallGraph.Proofs.Writing
import JavaCallGraph.Proofs.Footprint
import JavaCallGraph.Proofs.CallChains
import JavaCallGraph.Proofs.DeclaredNames
import JavaCallGraph.Proofs.DeclaredParams
import JavaCallGraph.Proofs.OuterTypes
import JavaCallGraph.Proofs.Receivers
import JavaCallGraph.Proofs.NestedTypes
import JavaCallGraph.Proofs.Spacing
import JavaCallGraph.Proofs.SignatureParts
import JavaCallGraph.Proofs.VariableReceivers
import JavaCallGraph.Proofs.CalleeQueries
import JavaCallGraph.Proofs.ClassEntries
import JavaCallGraph.Proofs.MappingPaths
import JavaCallGraph.Proofs.ScanListing
import JavaCallGraph.Proofs.TypeListing
import JavaCallGraph.Proofs.Digraph
import JavaCallGraph.Proofs.ImportedNames
import JavaCallGraph.Proofs.JoinedPaths
