import TemplateCompiler.Main
import TemplateCompiler.Session.Outcome
import TemplateCompiler.Proofs.Act
import TemplateCompiler.Proofs.Number.Notation
import TemplateCompiler.Proofs.Text.Blank
import TemplateCompiler.Proofs.Text.Literal
import TemplateCompiler.Proofs.Text.Outline
import TemplateCompiler.Proofs.Json.Scalars
import TemplateCompiler.Proofs.Buffer.Renewal
import TemplateCompiler.Proofs.Buffer.Operation
import TemplateCompiler.Proofs.Buffer.History
import TemplateCompiler.Proofs.Buffer.Navigation
import TemplateCompiler.Proofs.Buffer.Uncached
import TemplateCompiler.Proofs.Buffer.Growth
import TemplateCompiler.Proofs.Buffer.Restoration
import TemplateCompiler.Proofs.Buffer.Scopes
import TemplateCompiler.Proofs.Buffer.Failure
import TemplateCompiler.Proofs.Buffer.Assignment
import TemplateCompiler.Proofs.Buffer.Replacement
import TemplateCompiler.Proofs.Session.Emission
import TemplateCompiler.Proofs.Session.Passage
import TemplateCompiler.Proofs.Session.Regime
import TemplateCompiler.Proofs.Compiler.Grammar
import TemplateCompiler.Proofs.Compiler.Layout
import TemplateCompiler.Proofs.Compiler.Body
import TemplateCompiler.Proofs.Compiler.TopLevel
import TemplateCompiler.Proofs.Compiler.Assembly
import TemplateCompiler.Proofs.Compiler.Template
import TemplateCompiler.Proofs.Compiler.Success
import TemplateCompiler.Proofs.Compiler.Confinement
import TemplateCompiler.Proofs.Compiler.Sections
import TemplateCompiler.Proofs.Compiler.Recovery
import TemplateCompiler.Proofs.Compiler.Frame
import TemplateCompiler.Proofs.Buffer.Draft
import TemplateCompiler.Proofs.Session.Composition
import TemplateCompiler.Proofs.Compiler.Composition
import TemplateCompiler.Proofs.Session.Uniform
import TemplateCompiler.Proofs.Compiler.Cosmetics
import TemplateCompiler.Proofs.Session.Opening
import TemplateCompiler.Proofs.Compiler.Record
import TemplateCompiler.Proofs.Session.Performance
import TemplateCompiler.Proofs.Session.Guarded
import TemplateCompiler.Proofs.Session.Naming
import TemplateCompiler.Proofs.Compiler.Evaluation
import TemplateCompiler.Proofs.Text.Octets
import TemplateCompiler.Proofs.CommandLine.Rendering
import TemplateCompiler.Proofs.References
import TemplateCompiler.Proofs.Compiler.Dependencies
import TemplateCompiler.Proofs.Statement.Loader
import TemplateCompiler.Proofs.Session.Past
import TemplateCompiler.Proofs.Compiler.Independence
import TemplateCompiler.Proofs.Compiler.Hoisting
import TemplateCompiler.Proofs.Slots.Request
import TemplateCompiler.Proofs.Slots.Sharing
import TemplateCompiler.Proofs.Slots.Values
