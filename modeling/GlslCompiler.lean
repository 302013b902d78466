import GlslCompiler.Artifact.Basic
import GlslCompiler.Artifact.Blake2b
import GlslCompiler.Artifact.Bytes
import GlslCompiler.CommandLine.Arguments
import GlslCompiler.CommandLine.Build
import GlslCompiler.CommandLine.Choice
import GlslCompiler.CommandLine.Inspect
import GlslCompiler.CommandLine.Manifest
import GlslCompiler.CommandLine.Run
import GlslCompiler.CommandLine.Shell
import GlslCompiler.CommandLine.Timestamp
import GlslCompiler.CommandLine.Watch
import GlslCompiler.Compile
import GlslCompiler.Converter.Basic
import GlslCompiler.Converter.Entity
import GlslCompiler.Converter.Import
import GlslCompiler.Converter.Load
import GlslCompiler.Converter.Module
import GlslCompiler.Converter.ModuleSource
import GlslCompiler.Converter.Playback
import GlslCompiler.Converter.Raising
import GlslCompiler.Diagnostic
import GlslCompiler.Fault
import GlslCompiler.Files.Error
import GlslCompiler.Files.Tree
import GlslCompiler.Main
import GlslCompiler.Number.Decimal
import GlslCompiler.Number.Double
import GlslCompiler.Number.Reading
import GlslCompiler.Optimizer.Bridge
import GlslCompiler.Optimizer.Engine
import GlslCompiler.Optimizer.Native
import GlslCompiler.Optimizer.Playback
import GlslCompiler.Path
import GlslCompiler.Preamble
import GlslCompiler.Program.Decl
import GlslCompiler.Program.Expr
import GlslCompiler.Program.Layout
import GlslCompiler.Program.Normalize
import GlslCompiler.Program.Stmt
import GlslCompiler.Proofs.Expression.Grammar
import GlslCompiler.Proofs.Expression.Numbers
import GlslCompiler.Proofs.Expression.Suffixes
import GlslCompiler.Proofs.Expression.Parser
import GlslCompiler.Proofs.Expression.Token
import GlslCompiler.Settings
import GlslCompiler.StageCheck
import GlslCompiler.Text.Blank
import GlslCompiler.Text.ControlSequence
import GlslCompiler.Text.Integer
import GlslCompiler.Text.JsonString
import GlslCompiler.Text.LetterCase
import GlslCompiler.Text.Newline
import GlslCompiler.Text.NormalForm
import GlslCompiler.Text.NormalForm.Combining
import GlslCompiler.Text.NormalForm.Composition
import GlslCompiler.Text.NormalForm.Decomposition
import GlslCompiler.Text.NormalForm.Entry
import GlslCompiler.Text.Printable
import GlslCompiler.Text.Quoted
import GlslCompiler.Tier
import GlslCompiler.Variant.Plan
import GlslCompiler.Writer.Decl
import GlslCompiler.Writer.Expr
import GlslCompiler.Writer.Literal
import GlslCompiler.Writer.Stmt
import GlslCompiler.Proofs.Expression.Spelling
import GlslCompiler.Proofs.Expression.Emission
import GlslCompiler.Proofs.Compile.Draft
import GlslCompiler.Proofs.Compile.Outcome
import GlslCompiler.Proofs.Compile.Transparency
import GlslCompiler.Proofs.Expression.Completeness
import GlslCompiler.Proofs.Artifact.Bytes
import GlslCompiler.Proofs.Artifact.Format
import GlslCompiler.Proofs.Compile.Contents
import GlslCompiler.Proofs.Compile.Sharing
import GlslCompiler.Proofs.Program.Passes
import GlslCompiler.Proofs.Program.Sequences
import GlslCompiler.Proofs.Compile.Record
import GlslCompiler.Proofs.Writer.Dialects
import GlslCompiler.Proofs.Writer.Flattening
import GlslCompiler.Proofs.Compile.Independence
import GlslCompiler.Proofs.CommandLine.Shell
import GlslCompiler.Proofs.CommandLine.Inspection
import GlslCompiler.Proofs.CommandLine.WatchLoop
import GlslCompiler.Proofs.Text.Json
import GlslCompiler.Proofs.Files.Tree
import GlslCompiler.Proofs.CommandLine.Manifest
import GlslCompiler.Proofs.CommandLine.Store
import GlslCompiler.Proofs.Writer.Blocks
import GlslCompiler.Proofs.Writer.LoopClauses
import GlslCompiler.Proofs.Writer.ArraySizes
import GlslCompiler.Proofs.Writer.FloatConstants
import GlslCompiler.Proofs.Optimizer.Loading
import GlslCompiler.Proofs.Optimizer.Handles
import GlslCompiler.Proofs.Writer.Suffixes
import GlslCompiler.Proofs.Artifact.Truncation
import GlslCompiler.Proofs.Program.Storage
import GlslCompiler.Proofs.Number.Overflow
import GlslCompiler.Proofs.Writer.Failures
import GlslCompiler.Proofs.Expression.Parentheses
import GlslCompiler.Proofs.Expression.Operands
import GlslCompiler.Proofs.Program.Layouts
import GlslCompiler.Proofs.Writer.Concatenation
