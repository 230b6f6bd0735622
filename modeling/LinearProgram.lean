import LinearProgram.File.Exchange
import LinearProgram.Model.Table
import LinearProgram.Number.Binary64
import LinearProgram.Problem.Edit
import LinearProgram.Problem.Text
import LinearProgram.Proofs.Compile.Columns
import LinearProgram.Proofs.Number.Scalar
import LinearProgram.Proofs.Model.Meaning
import LinearProgram.Proofs.Problem.Meaning
import LinearProgram.Proofs.Compile.Outline
import LinearProgram.Proofs.Compile.Stages
import LinearProgram.Proofs.Compile.Contents
import LinearProgram.Proofs.Compile.Preservation
import LinearProgram.Proofs.Compile.Violation
import LinearProgram.Proofs.Compile.Acceptance
import LinearProgram.Proofs.Compile.Decompilation
import LinearProgram.Proofs.Algebraic.Sections
import LinearProgram.Proofs.Algebraic.Language
import LinearProgram.Proofs.Algebraic.Recognition
import LinearProgram.Proofs.Algebraic.RoundTrip
import LinearProgram.Proofs.Mps.Names
import LinearProgram.Proofs.Mps.Reader
import LinearProgram.Proofs.Mps.Reading
import LinearProgram.Proofs.Model.ColumnMajor
import LinearProgram.Proofs.Mps.Interpretation
import LinearProgram.Proofs.Mps.RoundTrip
import LinearProgram.Proofs.Number.Rational
import LinearProgram.Proofs.Model.Map
import LinearProgram.Proofs.Transfer
import LinearProgram.Proofs.Algebraic.Embedding
import LinearProgram.Proofs.Compile.Embedding
import LinearProgram.Proofs.Mps.Embedding
import LinearProgram.Proofs.Agreement
import LinearProgram.Proofs.Room
import LinearProgram.Proofs.Compile.Reordering
import LinearProgram.Proofs.Compile.Spelling
import LinearProgram.Proofs.Compile.Growth
import LinearProgram.Proofs.Compile.Renaming
import LinearProgram.Proofs.Compile.FreeNumbers
import LinearProgram.Proofs.Compile.Numbering
import LinearProgram.Proofs.Compile.ColumnBounds
import LinearProgram.Proofs.Algebraic.Normalization
import LinearProgram.Proofs.Algebraic.Colons
import LinearProgram.Proofs.Algebraic.Location
import LinearProgram.Proofs.Guarded.Outcome
import LinearProgram.Proofs.Guarded.Text
import LinearProgram.Proofs.Guarded.Number
import LinearProgram.Proofs.Number.Reading
import LinearProgram.Proofs.Mps.Attribution
import LinearProgram.Proofs.Mps.Uniqueness
import LinearProgram.Proofs.Guarded.Lexing
import LinearProgram.Proofs.Algebraic.Longest
import LinearProgram.Proofs.Algebraic.Munching
import LinearProgram.Proofs.Guarded.Layout
import LinearProgram.Proofs.Guarded.Expression
import LinearProgram.Proofs.Guarded.Comparison
import LinearProgram.Proofs.Guarded.Program
import LinearProgram.Proofs.Guarded.Compile
import LinearProgram.Proofs.Guarded.Model
import LinearProgram.Proofs.Guarded.Writer
import LinearProgram.Proofs.Guarded.Pipeline
import LinearProgram.Proofs.Compile.ColumnPlaces
import LinearProgram.Proofs.Compile.Transposition
import LinearProgram.Proofs.ErrorChain
import LinearProgram.Proofs.Model.Table
import LinearProgram.Proofs.Compile.Obstacles
import LinearProgram.Proofs.Compile.Reports
