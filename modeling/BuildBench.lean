import BuildBench.Cache.Key
import BuildBench.Cache.Store
import BuildBench.Command.Environment
import BuildBench.Command.Words
import BuildBench.CommandLine.Basic
import BuildBench.CommandLine.Benching
import BuildBench.CommandLine.Given
import BuildBench.CommandLine.Help
import BuildBench.CommandLine.Option
import BuildBench.CommandLine.Queries
import BuildBench.CommandLine.Refusal
import BuildBench.CommandLine.Running
import BuildBench.CommandLine.Source
import BuildBench.CommandLine.Words
import BuildBench.Decimal.Binary
import BuildBench.Decimal.Numeral
import BuildBench.Decimal.Shortest
import BuildBench.Decimal.Significant
import BuildBench.Digest.Sha256
import BuildBench.Fault
import BuildBench.Files.Change
import BuildBench.Files.Glob
import BuildBench.Files.Home
import BuildBench.Files.Name
import BuildBench.Files.PathName
import BuildBench.Files.Tree
import BuildBench.Files.Walk
import BuildBench.Fixture.Fetch
import BuildBench.Fixture.Url
import BuildBench.Inspection.Class
import BuildBench.Inspection.ClassTable
import BuildBench.Inspection.NumberTable
import BuildBench.Inspection.Subject
import BuildBench.Inspection.TextTable
import BuildBench.Json.Reading
import BuildBench.Json.Writing
import BuildBench.Logging
import BuildBench.Main
import BuildBench.Proofs.Cache.AcceptedEntries
import BuildBench.Proofs.Cache.CallSequences
import BuildBench.Proofs.Cache.DamagedEntries
import BuildBench.Proofs.Cache.EntryNames
import BuildBench.Proofs.Cache.EntryParts
import BuildBench.Proofs.Cache.GlobPatterns
import BuildBench.Proofs.Cache.HeldEntries
import BuildBench.Proofs.Cache.KeyDigests
import BuildBench.Proofs.Cache.Location
import BuildBench.Proofs.Cache.LockFiles
import BuildBench.Proofs.Cache.Manifests
import BuildBench.Proofs.Cache.ReadableEntries
import BuildBench.Proofs.Cache.RestoreReach
import BuildBench.Proofs.Cache.Restoring
import BuildBench.Proofs.Cache.SaveOutcome
import BuildBench.Proofs.Cache.Saving
import BuildBench.Proofs.CommandLine.EventChecks
import BuildBench.Proofs.CommandLine.Printing
import BuildBench.Proofs.CommandLine.ReadSettings
import BuildBench.Proofs.CommandLine.RunEndings
import BuildBench.Proofs.Decimal.FloatBits
import BuildBench.Proofs.Decimal.FloatProducts
import BuildBench.Proofs.Decimal.NearestFloat
import BuildBench.Proofs.Decimal.SquareRoots
import BuildBench.Proofs.Files.ConfinedChanges
import BuildBench.Proofs.Files.Copies
import BuildBench.Proofs.Files.FreshCopies
import BuildBench.Proofs.Files.Leads
import BuildBench.Proofs.Files.MakingFolders
import BuildBench.Proofs.Files.OneLeafChanges
import BuildBench.Proofs.Files.Operations
import BuildBench.Proofs.Files.PathNames
import BuildBench.Proofs.Files.RealPath
import BuildBench.Proofs.Files.TidyTrees
import BuildBench.Proofs.Files.TreeKinds
import BuildBench.Proofs.Files.WayOfName
import BuildBench.Proofs.Files.WriteReach
import BuildBench.Proofs.History.Actions
import BuildBench.Proofs.History.Deeds
import BuildBench.Proofs.History.Faults
import BuildBench.Proofs.History.Outside
import BuildBench.Proofs.History.Processes
import BuildBench.Proofs.History.QuietActions
import BuildBench.Proofs.Json.LegibleCharacters
import BuildBench.Proofs.Json.Strings
import BuildBench.Proofs.Logging.CapturedOutput
import BuildBench.Proofs.Logging.Records
import BuildBench.Proofs.Logging.Setups
import BuildBench.Proofs.Run.CacheAfterStages
import BuildBench.Proofs.Run.CacheUse
import BuildBench.Proofs.Run.DeedOrder
import BuildBench.Proofs.Run.FailFast
import BuildBench.Proofs.Run.HandedEnvironments
import BuildBench.Proofs.Run.Interruptions
import BuildBench.Proofs.Run.LastProcess
import BuildBench.Proofs.Run.LawsOfParts
import BuildBench.Proofs.Run.LawsOfRuns
import BuildBench.Proofs.Run.MeasurementGate
import BuildBench.Proofs.Run.OwnChanges
import BuildBench.Proofs.Run.Reports
import BuildBench.Proofs.Run.SearchPath
import BuildBench.Proofs.Run.SparedCache
import BuildBench.Proofs.Run.StageHistories
import BuildBench.Proofs.Settings.AnswerableFindings
import BuildBench.Proofs.Settings.CommandReferences
import BuildBench.Proofs.Settings.EditedProfiles
import BuildBench.Proofs.Settings.Precedence
import BuildBench.Proofs.Settings.ProfileSections
import BuildBench.Proofs.Settings.RearrangedProfiles
import BuildBench.Proofs.Settings.RefusedProfiles
import BuildBench.Proofs.Settings.SettingNames
import BuildBench.Proofs.Settings.VariableMaps
import BuildBench.Proofs.Stages.Build
import BuildBench.Proofs.Stages.Checkout
import BuildBench.Proofs.Stages.Download
import BuildBench.Proofs.Stages.DownloadPlace
import BuildBench.Proofs.Stages.Installation
import BuildBench.Proofs.Statistics.DescribedSamples
import BuildBench.Proofs.Statistics.Interpolation
import BuildBench.Proofs.Statistics.Outliers
import BuildBench.Proofs.Statistics.Percentiles
import BuildBench.Proofs.Statistics.Summaries
import BuildBench.Proofs.Text.TemplatePieces
import BuildBench.Proofs.Timing.BenchmarkWords
import BuildBench.Proofs.Timing.Exports
import BuildBench.Proofs.Timing.ReapedRepetition
import BuildBench.Proofs.Timing.RepeatedRuns
import BuildBench.Proofs.Timing.ReportFile
import BuildBench.Proofs.Timing.ShownPaths
import BuildBench.Run.Artifact
import BuildBench.Run.Basic
import BuildBench.Run.Checkout
import BuildBench.Run.Installation
import BuildBench.Run.Measurement
import BuildBench.Run.Preparation
import BuildBench.Run.Report
import BuildBench.Settings.Basic
import BuildBench.Settings.Findings
import BuildBench.Settings.Load
import BuildBench.Settings.Profile
import BuildBench.Statistics.Arithmetic
import BuildBench.Statistics.Description
import BuildBench.Statistics.NaturalMerge
import BuildBench.Statistics.Percentile
import BuildBench.Text.Blank
import BuildBench.Text.Case
import BuildBench.Text.CaseContext
import BuildBench.Text.ControlSequence
import BuildBench.Text.Digit
import BuildBench.Text.Layout
import BuildBench.Text.Lines
import BuildBench.Text.NumberLayout
import BuildBench.Text.Pieces
import BuildBench.Text.Printable
import BuildBench.Text.Quoted
import BuildBench.Text.ShellWords
import BuildBench.Text.Similarity
import BuildBench.Text.Surrogate
import BuildBench.Text.Template
import BuildBench.Text.Utf8
import BuildBench.Timing.Export
import BuildBench.Timing.External
import BuildBench.Timing.Layout
import BuildBench.Timing.Repeated
import BuildBench.Timing.Repetition
import BuildBench.Timing.Summary
import BuildBench.Trigger
import BuildBench.Value.Basic
import BuildBench.Value.Compare
import BuildBench.Value.Shown
import BuildBench.Value.Variables
import BuildBench.World.Basic
import BuildBench.World.Disk
import BuildBench.World.Log
import BuildBench.World.Outside
import BuildBench.World.Program
import BuildBench.Yaml.Cursor
import BuildBench.Yaml.Document
import BuildBench.Yaml.Form
import BuildBench.Yaml.Graph
import BuildBench.Yaml.Merge
import BuildBench.Yaml.Node
import BuildBench.Yaml.Scalar
import BuildBench.Yaml.ScalarText
import BuildBench.Yaml.Token
