import ColumnConstants.Main
import ColumnConstants.Run.Session
import ColumnConstants.Proofs.Nested
import ColumnConstants.Proofs.Walk
import ColumnConstants.Proofs.Acceptance
import ColumnConstants.Proofs.Characters
import ColumnConstants.Proofs.Cutting
import ColumnConstants.Proofs.Composition
import ColumnConstants.Proofs.Emission
import ColumnConstants.Proofs.Rendering
import ColumnConstants.Proofs.Spacing
import ColumnConstants.Proofs.Writing
import ColumnConstants.Proofs.Grammar
import ColumnConstants.Proofs.Shape
import ColumnConstants.Proofs.Recovery
import ColumnConstants.Proofs.Boundary
import ColumnConstants.Proofs.Layout
import ColumnConstants.Proofs.Spelling
import ColumnConstants.Proofs.Blocks
import ColumnConstants.Run.Refusal
import ColumnConstants.Disk.Written
import ColumnConstants.Proofs.Atomicity
import ColumnConstants.Proofs.Extraction
import ColumnConstants.Proofs.Naming
import ColumnConstants.Proofs.Fitness
import ColumnConstants.Proofs.Pairs
import ColumnConstants.Proofs.Siblings
import ColumnConstants.Disk.Reached
import ColumnConstants.Proofs.Repetition
import ColumnConstants.Proofs.Gathering
import ColumnConstants.Proofs.Distinctness
import ColumnConstants.Tag.Pattern
import ColumnConstants.Proofs.Matching
import ColumnConstants.Proofs.Segments
import ColumnConstants.Source.Lexeme
import ColumnConstants.Proofs.LineEnds
import ColumnConstants.Proofs.Balance
import ColumnConstants.Proofs.Quotes
import ColumnConstants.Proofs.FaultLines
import ColumnConstants.Proofs.Generics
import ColumnConstants.Proofs.Tracing
import ColumnConstants.Constants.Template
import ColumnConstants.Proofs.Alignment
import ColumnConstants.Proofs.Leading
import ColumnConstants.Proofs.Skipping
import ColumnConstants.Source.Scanner
import ColumnConstants.Proofs.Advancing
