import TextTemplate.Description
import TextTemplate.Main
import TextTemplate.Proofs.Template.Tree
import TextTemplate.Value.StockHost
import TextTemplate.Proofs.Source.Taking
import TextTemplate.Proofs.Template.Reading
import TextTemplate.Proofs.Render.Ending
import TextTemplate.Proofs.Render.Trait
import TextTemplate.Proofs.Evaluation
import TextTemplate.Proofs.Render.Frame
import TextTemplate.Proofs.Render.Completion
import TextTemplate.Proofs.Render.Overriding
import TextTemplate.Proofs.Render.Termination
import TextTemplate.Proofs.Render.Agreement
import TextTemplate.Proofs.Render.Nested
import TextTemplate.Proofs.Render.Safety
import TextTemplate.Proofs.Inheritance.Cycles
import TextTemplate.Proofs.Render.Parallel
import TextTemplate.Proofs.Inheritance.Flattening
import TextTemplate.Proofs.Source.Grammar
import TextTemplate.Proofs.Source.Cutting
import TextTemplate.Proofs.Source.Written
import TextTemplate.Proofs.Source.Printing
import TextTemplate.Proofs.Source.Building
import TextTemplate.Proofs.Source.RoundTrip
import TextTemplate.Proofs.Escaping.Escaped
import TextTemplate.Proofs.Escaping.Harmless
import TextTemplate.Proofs.Render.Guarded
import TextTemplate.Proofs.Escaping.Meeting
import TextTemplate.Proofs.Escaping.Callables
import TextTemplate.Proofs.Escaping.Output
import TextTemplate.Proofs.Library.Name
import TextTemplate.Proofs.Render.Honesty
import TextTemplate.Proofs.Render.Failure
import TextTemplate.Proofs.Render.Lockstep
import TextTemplate.Proofs.Escaping.Influence
import TextTemplate.Proofs.Library.Growth
import TextTemplate.Proofs.Library.History
import TextTemplate.Proofs.Render.Depth
import TextTemplate.Proofs.Render.Refusal
import TextTemplate.Proofs.Render.Visibility
import TextTemplate.Proofs.Render.Metadata
import TextTemplate.Proofs.Render.Loop
import TextTemplate.Proofs.File.Way
import TextTemplate.Proofs.File.Saving
import TextTemplate.Proofs.Render.Hushed
import TextTemplate.Proofs.Render.Repetition
import TextTemplate.Proofs.Render.Concatenation
import TextTemplate.Proofs.Library.Directory
import TextTemplate.Proofs.Render.Plain
import TextTemplate.Proofs.Inheritance.Circle
import TextTemplate.Proofs.Template.Shape
import TextTemplate.Proofs.Source.Tiling
import TextTemplate.Proofs.Escaping.Authored
import TextTemplate.Proofs.Data.Conversion
import TextTemplate.Proofs.Data.Walk
import TextTemplate.Proofs.Render.Point
import TextTemplate.Proofs.Render.Innermost
import TextTemplate.Proofs.Source.Pending
import TextTemplate.Proofs.Source.Opening
import TextTemplate.Proofs.Source.Blame
import TextTemplate.Proofs.File.Settling
import TextTemplate.Proofs.Context.Scopes
import TextTemplate.Proofs.Escaping.Unescaping
import TextTemplate.Proofs.Value.Readers
import TextTemplate.Proofs.Command.Checking
import TextTemplate.Proofs.Inheritance.Opened
import TextTemplate.Proofs.Command.Bindings
import TextTemplate.Proofs.Command.Calendar
import TextTemplate.Proofs.Source.Closing
import TextTemplate.Proofs.Invocation
