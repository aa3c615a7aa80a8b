import Tron.Text.Basic
import Tron.Text.Blank
import Tron.Text.Lines
import Tron.Text.Printable
import Tron.Text.Quoted
import Tron.Text.Occurrence
import Tron.Table
import Tron.Declaration.Identifier
import Tron.Declaration.LetForm
import Tron.Declaration.FnForm
import Tron.Declaration.ParameterForm
import Tron.Declaration.Basic
import Tron.Declaration.Scan
import Tron.Completion
import Tron.Position
import Tron.Layout
import Tron.Documents
import Tron.Documents.Operation
import Tron.Settings
import Tron.Log
import Tron.Session.Workspace
import Tron.Session.Event
import Tron.Session.Basic
import Tron.Manifest
import Tron.CommandLine.Complaint
import Tron.CommandLine.Argument
import Tron.CommandLine.Reading
import Tron.Launch
import Tron.Project.Path
import Tron.Project.FileTree
import Tron.Project.Toolchain
import Tron.Project.Plan
import Tron.Project.Scaffold
import Tron.Project.Command
import Tron.Main
import Tron.Proofs.TableInsertion
import Tron.Proofs.DocumentOrder
import Tron.Proofs.Marks
import Tron.Proofs.History
import Tron.Proofs.CompletionHistory
import Tron.Proofs.PlaceDecoding
import Tron.Proofs.PlaceOffsets
import Tron.Proofs.PlaceOrder
import Tron.Proofs.TrimmedLines
import Tron.Proofs.LayoutStack
import Tron.Proofs.LayoutNormal
import Tron.Proofs.LayoutDepth
import Tron.Proofs.LayoutMargins
import Tron.Proofs.LayoutComposition
import Tron.Proofs.LayoutWords
import Tron.Proofs.LayoutRequest
import Tron.Proofs.FormReading
import Tron.Proofs.FormSearch
import Tron.Proofs.FormGrammar
import Tron.Proofs.FormOccurrences
import Tron.Proofs.FormGrowth
import Tron.Proofs.ParameterSeries
import Tron.Proofs.PrintedProgram
import Tron.Proofs.Respacing
import Tron.Proofs.FormRespacing
import Tron.Proofs.LayoutScan
import Tron.Proofs.DocumentHistory
import Tron.Proofs.NameRecency
import Tron.Proofs.OpenDocuments
import Tron.Proofs.FailedSteps
import Tron.Proofs.DocumentIsolation
import Tron.Proofs.FileEffects
import Tron.Proofs.ProjectEffects
import Tron.Proofs.DirectoryMaking
import Tron.Proofs.LastSettings
import Tron.Proofs.PlanRepetition
import Tron.Proofs.ProjectCreation
import Tron.Proofs.ToolchainReports
import Tron.Proofs.VersionLine
