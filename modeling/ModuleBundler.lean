import ModuleBundler.Bundle
import ModuleBundler.CommandLine.Grammar
import ModuleBundler.CommandLine.Invocation
import ModuleBundler.Compile
import ModuleBundler.Compress
import ModuleBundler.Config.Basic
import ModuleBundler.Config.Decode
import ModuleBundler.Config.Load
import ModuleBundler.Definition
import ModuleBundler.Execution
import ModuleBundler.Expansion
import ModuleBundler.Failure
import ModuleBundler.FileTree.Basic
import ModuleBundler.FileTree.Change
import ModuleBundler.FileTree.Edit
import ModuleBundler.FileTree.Resolve
import ModuleBundler.FileTree.Walk
import ModuleBundler.Glob.Parser
import ModuleBundler.Glob.Regex
import ModuleBundler.Glob.Token
import ModuleBundler.Identifier
import ModuleBundler.Json
import ModuleBundler.Keyed
import ModuleBundler.Log
import ModuleBundler.Log.Selection
import ModuleBundler.Main
import ModuleBundler.Options
import ModuleBundler.Path
import ModuleBundler.Program
import ModuleBundler.Proofs.Bundle.Collisions
import ModuleBundler.Proofs.Bundle.Rerun
import ModuleBundler.Proofs.Bundle.Reversal
import ModuleBundler.Proofs.Bundle.Run
import ModuleBundler.Proofs.Compile.Apart
import ModuleBundler.Proofs.Compile.Effect
import ModuleBundler.Proofs.Compile.Failing
import ModuleBundler.Proofs.Compile.Isolation
import ModuleBundler.Proofs.Compile.Renewal
import ModuleBundler.Proofs.Compile.Run
import ModuleBundler.Proofs.Compression
import ModuleBundler.Proofs.Config.Decoding
import ModuleBundler.Proofs.Config.Document
import ModuleBundler.Proofs.Config.Layers
import ModuleBundler.Proofs.Config.Overlay
import ModuleBundler.Proofs.Config.Precedence
import ModuleBundler.Proofs.Config.Validity
import ModuleBundler.Proofs.Config.Written
import ModuleBundler.Proofs.Definition.Layout
import ModuleBundler.Proofs.Definition.Offsets
import ModuleBundler.Proofs.Definition.Window
import ModuleBundler.Proofs.Expansion.Display
import ModuleBundler.Proofs.Expansion.Meaning
import ModuleBundler.Proofs.Expansion.Named
import ModuleBundler.Proofs.Expansion.Spelling
import ModuleBundler.Proofs.Expansion.Stability
import ModuleBundler.Proofs.Expansion.Walk
import ModuleBundler.Proofs.Expansion.Yield
import ModuleBundler.Proofs.FileTree.Descent
import ModuleBundler.Proofs.FileTree.Listing
import ModuleBundler.Proofs.FileTree.Lookup
import ModuleBundler.Proofs.FileTree.Outside
import ModuleBundler.Proofs.FileTree.Plain
import ModuleBundler.Proofs.FileTree.Written
import ModuleBundler.Proofs.Glob.Literal
import ModuleBundler.Proofs.Identifier
import ModuleBundler.Proofs.Job
import ModuleBundler.Proofs.Path.Course
import ModuleBundler.Proofs.Path.Naming
import ModuleBundler.Proofs.Selection
import ModuleBundler.Proofs.Substitution
import ModuleBundler.Proofs.Text.Occurrence
import ModuleBundler.Proofs.Text.Position
import ModuleBundler.Proofs.Text.Replacement
import ModuleBundler.Proofs.Text.Utf8Order
import ModuleBundler.Proofs.Toml.Keys
import ModuleBundler.Proofs.Toml.Lookup
import ModuleBundler.Proofs.Toml.Reading
import ModuleBundler.Proofs.Watch.Feedback
import ModuleBundler.Proofs.Watch.History
import ModuleBundler.Proofs.Watch.Inputs
import ModuleBundler.Proofs.Watch.Passes
import ModuleBundler.Report
import ModuleBundler.Session
import ModuleBundler.Shell.CharacterMap
import ModuleBundler.Shell.Run
import ModuleBundler.Shell.Script
import ModuleBundler.Shell.Tool
import ModuleBundler.Target
import ModuleBundler.Text.Blank
import ModuleBundler.Text.Quoted
import ModuleBundler.Text.Search
import ModuleBundler.Text.Utf8
import ModuleBundler.Toml.Document
import ModuleBundler.Toml.Error
import ModuleBundler.Toml.Number
import ModuleBundler.Toml.Section
import ModuleBundler.Toml.Text
import ModuleBundler.Toml.Value
import ModuleBundler.Watch.Filter
import ModuleBundler.Watch.Loop
import ModuleBundler.Watch.Start
import ModuleBundler.Proofs.Compression.Settings
import ModuleBundler.Proofs.Path.Canonical
import ModuleBundler.Proofs.Path.Parents
import ModuleBundler.Proofs.Config.Discovery
import ModuleBundler.Proofs.Report
