/-
# Availability annotations

The sources of a package name symbolic versions, such as `System 0.0.2`, in marker
comments beside their availability attributes. This library finds those annotations
and writes them anew, with the platform versions of a table either in effect or kept
in a comment. It holds the two dialects of annotations, the update of lines, texts and
files, the search for sources in a file tree, the configuration, the diff that a dry
run shows, and the command line.
-/

import AvailabilityAnnotations.Annotation
import AvailabilityAnnotations.Annotation.NewForm
import AvailabilityAnnotations.Annotation.OldForm
import AvailabilityAnnotations.Annotation.Search
import AvailabilityAnnotations.CommandLine.Arguments
import AvailabilityAnnotations.CommandLine.Execute
import AvailabilityAnnotations.CommandLine.Page
import AvailabilityAnnotations.Config
import AvailabilityAnnotations.Config.Json
import AvailabilityAnnotations.Diff.Edit
import AvailabilityAnnotations.Diff.Script
import AvailabilityAnnotations.Diff.Split
import AvailabilityAnnotations.Diff.Unified
import AvailabilityAnnotations.Failure
import AvailabilityAnnotations.FileSystem.Access
import AvailabilityAnnotations.FileSystem.Cause
import AvailabilityAnnotations.FileSystem.Path
import AvailabilityAnnotations.FileSystem.Resolve
import AvailabilityAnnotations.FileSystem.Tree
import AvailabilityAnnotations.Json.Collection
import AvailabilityAnnotations.Json.Magnitude
import AvailabilityAnnotations.Json.Scalar
import AvailabilityAnnotations.Json.Value
import AvailabilityAnnotations.Log
import AvailabilityAnnotations.Log.Field
import AvailabilityAnnotations.Log.Filter
import AvailabilityAnnotations.Main
import AvailabilityAnnotations.Mode
import AvailabilityAnnotations.Pattern
import AvailabilityAnnotations.Pattern.Acceptance
import AvailabilityAnnotations.Pattern.CharSet
import AvailabilityAnnotations.Pattern.Escape
import AvailabilityAnnotations.Pattern.Group
import AvailabilityAnnotations.PlatformTable
import AvailabilityAnnotations.Proofs.Annotation.NewForm
import AvailabilityAnnotations.Proofs.Annotation.Occurrence
import AvailabilityAnnotations.Proofs.Annotation.OldForm
import AvailabilityAnnotations.Proofs.Annotation.OpenForm
import AvailabilityAnnotations.Proofs.Annotation.Search
import AvailabilityAnnotations.Proofs.Rules.Completion
import AvailabilityAnnotations.Proofs.Rules.Passes
import AvailabilityAnnotations.Proofs.Rules.Standard
import AvailabilityAnnotations.Proofs.Rules.Surroundings
import AvailabilityAnnotations.Proofs.Rules.Written
import AvailabilityAnnotations.Proofs.Stability.Dialect
import AvailabilityAnnotations.Proofs.Stability.Idempotence
import AvailabilityAnnotations.Proofs.Text.Line
import AvailabilityAnnotations.Proofs.Text.Literal
import AvailabilityAnnotations.Proofs.Toggling.NewDialect
import AvailabilityAnnotations.Proofs.Toggling.OldDialect
import AvailabilityAnnotations.Proofs.Update.Lines
import AvailabilityAnnotations.Rules
import AvailabilityAnnotations.Run
import AvailabilityAnnotations.Run.Summary
import AvailabilityAnnotations.Sources
import AvailabilityAnnotations.Text
import AvailabilityAnnotations.Text.Alphanumeric
import AvailabilityAnnotations.Text.Blank
import AvailabilityAnnotations.Text.Line
import AvailabilityAnnotations.Text.Terminal
import AvailabilityAnnotations.Update
import AvailabilityAnnotations.Proofs.FileSystem.Access
import AvailabilityAnnotations.Proofs.Update.Changes
import AvailabilityAnnotations.Proofs.Update.Retention
import AvailabilityAnnotations.Proofs.Run.Rounds
import AvailabilityAnnotations.Proofs.Run.Frame
import AvailabilityAnnotations.Proofs.Run.DryRun
import AvailabilityAnnotations.Proofs.Recognition.NewDialect
import AvailabilityAnnotations.Proofs.Recognition.OldDialect
import AvailabilityAnnotations.Proofs.Recognition.Written
import AvailabilityAnnotations.Proofs.Stability.StaleContent
import AvailabilityAnnotations.Proofs.Diff.Hunks
import AvailabilityAnnotations.Proofs.Diff.Lines
import AvailabilityAnnotations.Proofs.Diff.Reading
import AvailabilityAnnotations.Proofs.Diff.Unified
import AvailabilityAnnotations.Proofs.Run.Patch
import AvailabilityAnnotations.Proofs.Diff.Frontier
import AvailabilityAnnotations.Proofs.Diff.Search
import AvailabilityAnnotations.Proofs.Run.Report
import AvailabilityAnnotations.Proofs.Update.Report
import AvailabilityAnnotations.Proofs.Update.Structure
import AvailabilityAnnotations.Proofs.Update.UnknownVersion
import AvailabilityAnnotations.Proofs.FileSystem.Descent
import AvailabilityAnnotations.Proofs.Text.ByteOrder
import AvailabilityAnnotations.Proofs.FileSystem.Leaves
import AvailabilityAnnotations.Proofs.Sources.Discovery
import AvailabilityAnnotations.Proofs.Json.Grammar
import AvailabilityAnnotations.Proofs.Json.Scalar
import AvailabilityAnnotations.Proofs.Json.Collection
import AvailabilityAnnotations.Proofs.Json.Value
import AvailabilityAnnotations.Proofs.Config.Field
import AvailabilityAnnotations.Proofs.Config.Member
import AvailabilityAnnotations.Proofs.Config.Reading
import AvailabilityAnnotations.Proofs.Config.RoundTrip
