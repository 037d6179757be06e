import ValidatorGen.CommandLine.Run
import ValidatorGen.Main
import ValidatorGen.Run.Generate
import ValidatorGen.Proofs.Compile.Order
import ValidatorGen.Proofs.Modules.Generate
import ValidatorGen.Proofs.Nesting.Chain
import ValidatorGen.Proofs.Outline.Closed
import ValidatorGen.Proofs.Outline.Answered
import ValidatorGen.Proofs.Outline.Loading
import ValidatorGen.Proofs.Outline.Declared
import ValidatorGen.Proofs.Schema.Source
import ValidatorGen.Proofs.Schema.Join
import ValidatorGen.Proofs.Schema.Files
import ValidatorGen.Proofs.Schema.Literal
import ValidatorGen.Proofs.Schema.Comment
import ValidatorGen.Proofs.Directive.Chain
import ValidatorGen.Proofs.Directive.Split
import ValidatorGen.Proofs.Directive.Scan
import ValidatorGen.Proofs.Run.Outcome
import ValidatorGen.Proofs.CommandLine.Status
import ValidatorGen.Proofs.Relation
import ValidatorGen.Proofs.Run.Settings
import ValidatorGen.Proofs.Export.Folder
import ValidatorGen.Proofs.Export.Again
import ValidatorGen.Proofs.Modules.Strings
import ValidatorGen.Proofs.Modules.Scalars
import ValidatorGen.Proofs.Modules.Comments
import ValidatorGen.Proofs.Modules.ImportsPath
import ValidatorGen.Proofs.Intake.Standard
import ValidatorGen.Proofs.Intake.Contract
import ValidatorGen.Proofs.Run.Override
import ValidatorGen.Proofs.Outline.Bindings
import ValidatorGen.Proofs.Compile.Elements
import ValidatorGen.Proofs.Compile.Fitting
import ValidatorGen.Proofs.Compile.TypeName
import ValidatorGen.Proofs.Compile.Coercion
import ValidatorGen.Proofs.Compile.Column
import ValidatorGen.Proofs.Compile.Numeral
import ValidatorGen.Proofs.Compile.Repeated
import ValidatorGen.Proofs.Script.String
import ValidatorGen.Proofs.Script.Members
import ValidatorGen.Proofs.Documentation
import ValidatorGen.Proofs.ModuleSpecifier
