import Stencil.Text.Blank
import Stencil.Text.Digit
import Stencil.Text.Case
import Stencil.Text.Quoted
import Stencil.Template.Pattern
import Stencil.Number.Decimal
import Stencil.Number.Exact
import Stencil.Number.Reader
import Stencil.Value.Printer
import Stencil.Value.Equality
import Stencil.Value.Order
import Stencil.Value.Arithmetic
import Stencil.Annotation.Expected
import Stencil.Annotation.Evaluation
import Stencil.Object.State
import Stencil.Rendering
import Stencil.Conversion
import Stencil.Matching
import Stencil.Settings.Basic
import Stencil.Binding
import Stencil.Cache
import Stencil.Yaml.Token.Stream
import Stencil.Yaml.Document
import Stencil.Yaml.Writer
import Stencil.Settings.File
import Stencil.Settings.Logging
import Stencil.Settings.Find
import Stencil.Main
import Stencil.Proofs.Rendering.RoundTrip
import Stencil.Proofs.Template.Strict
import Stencil.Proofs.Cache.Inclusion
import Stencil.Proofs.Binding.Decision
import Stencil.Proofs.Conversion.Enumeration
import Stencil.Proofs.Conversion.Registration
import Stencil.Proofs.Operation.Naming
import Stencil.Proofs.Operation.Signature
import Stencil.Proofs.KeyPath.Escape
import Stencil.Proofs.Operation.Assignment
import Stencil.Proofs.KeyPath.Privacy
import Stencil.Proofs.Conversion.RoundTrip
import Stencil.Proofs.KeyPath.Collection
import Stencil.Proofs.Operation.Isolation
import Stencil.Proofs.Conversion.Obstruction
import Stencil.Proofs.KeyPath.Composition
import Stencil.Proofs.KeyPath.Distinct
import Stencil.Proofs.KeyPath.Totals
import Stencil.Proofs.Operation.Underscores
import Stencil.Proofs.Binding.Renaming
import Stencil.Proofs.Template.Concatenation
import Stencil.Proofs.Assignment.Order
import Stencil.Proofs.Settings.Loading
import Stencil.Proofs.Matching.Course
