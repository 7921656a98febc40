import TextMacro.Command.Stock
import TextMacro.CommandLine.Program
import TextMacro.Main
import TextMacro.Pipeline
import TextMacro.Position
import TextMacro.Proofs.AddedColor
import TextMacro.Proofs.BlockOffset
import TextMacro.Proofs.BracketCount
import TextMacro.Proofs.CleanExit
import TextMacro.Proofs.Dependency
import TextMacro.Proofs.FailureTrace
import TextMacro.Proofs.IncludeChain
import TextMacro.Proofs.OpaqueString
import TextMacro.Proofs.OutputFile
import TextMacro.Proofs.PathChain
import TextMacro.Proofs.PipelineOutput
import TextMacro.Proofs.PlainCopy
import TextMacro.Proofs.Printing
import TextMacro.Proofs.QuotedPath
import TextMacro.Proofs.Registration
import TextMacro.Proofs.Replacement
import TextMacro.Proofs.Reporting
import TextMacro.Proofs.Seam
import TextMacro.Proofs.TameBlock
import TextMacro.Proofs.Transcoding
import TextMacro.Proofs.UniqueSplit
import TextMacro.Settings.Assigned
import TextMacro.Settings.Load
