import BuildDigest.Main
import BuildDigest.Proofs.Results
import BuildDigest.Proofs.CommandLine
import BuildDigest.Proofs.History
import BuildDigest.Proofs.TestTable
import BuildDigest.Proofs.TargetTable
import BuildDigest.Proofs.Reports
import BuildDigest.Proofs.Acceptance
import BuildDigest.Proofs.Agreement
import BuildDigest.Proofs.Violations
import BuildDigest.Proofs.Policies
import BuildDigest.Proofs.Legibility
import BuildDigest.Proofs.Calendar
import BuildDigest.Proofs.Messages
import BuildDigest.Proofs.Base64
import BuildDigest.Proofs.CommitMessage
import BuildDigest.Proofs.Lines
import BuildDigest.Proofs.Numbers
import BuildDigest.Proofs.Quotes
import BuildDigest.Proofs.Grammar
import BuildDigest.Proofs.Records
import BuildDigest.Proofs.Moments
import BuildDigest.Proofs.Rendering
import BuildDigest.Proofs.Rearrangement
import BuildDigest.Proofs.Spellings
import BuildDigest.Proofs.Repetition
import BuildDigest.Proofs.UnknownKinds
import BuildDigest.Proofs.Unread
import BuildDigest.Proofs.Pieces
import BuildDigest.Proofs.Origins
import BuildDigest.Proofs.Rounds
import BuildDigest.Proofs.Links
import BuildDigest.Proofs.Actions
import BuildDigest.Proofs.Strategies
import BuildDigest.Proofs.BuildLink
import BuildDigest.Proofs.Environment
import BuildDigest.Proofs.Outputs
import BuildDigest.Proofs.Attempts
import BuildDigest.Proofs.TypedLine
import BuildDigest.Proofs.Occurrence
import BuildDigest.Proofs.Signatures
import BuildDigest.Proofs.Labels
import BuildDigest.Proofs.PatternLists
import BuildDigest.Proofs.Subjects
import BuildDigest.Proofs.Answers
import BuildDigest.Proofs.TargetTimes
import BuildDigest.Proofs.Reordering
import BuildDigest.Proofs.MissingCodes
import BuildDigest.Proofs.Durations
import BuildDigest.Proofs.Projection
