import PatternLint.Atom
import PatternLint.CharSet
import PatternLint.CharSet.Ascii
import PatternLint.CharSet.Class
import PatternLint.CharSet.Named
import PatternLint.Delimited
import PatternLint.Dialect
import PatternLint.Fault
import PatternLint.Flags
import PatternLint.Group
import PatternLint.Hazard.Advice
import PatternLint.Hazard.Finding
import PatternLint.Hazard.Profile
import PatternLint.Hazard.Report
import PatternLint.Hazard.Scan
import PatternLint.Hazard.Severity
import PatternLint.Node
import PatternLint.Node.Equality
import PatternLint.Parse.ClassMembers
import PatternLint.Parse.State
import PatternLint.Parse.Step
import PatternLint.Pattern
import PatternLint.Proofs.CharSet
import PatternLint.Proofs.CharSet.Canonical
import PatternLint.Proofs.CharSet.CaseFold
import PatternLint.Proofs.CharSet.Class
import PatternLint.Proofs.CharSet.Complement
import PatternLint.Proofs.CharSet.Laws
import PatternLint.Proofs.CharSet.Variants
import PatternLint.Proofs.Core
import PatternLint.Proofs.Delimited
import PatternLint.Proofs.Depth
import PatternLint.Proofs.DepthLimits
import PatternLint.Proofs.EmptyClasses
import PatternLint.Proofs.ErrorPlaces
import PatternLint.Proofs.FlagLetters
import PatternLint.Proofs.FlagScope
import PatternLint.Proofs.GroupWidths
import PatternLint.Proofs.Hazard.Advice
import PatternLint.Proofs.Hazard.Consistency
import PatternLint.Proofs.Hazard.Hidden
import PatternLint.Proofs.Hazard.Language
import PatternLint.Proofs.Hazard.Limit
import PatternLint.Proofs.Hazard.Mitigation
import PatternLint.Proofs.Hazard.Monotone
import PatternLint.Proofs.Hazard.Nesting
import PatternLint.Proofs.Hazard.Overlap
import PatternLint.Proofs.Hazard.Proper
import PatternLint.Proofs.Hazard.Remedies
import PatternLint.Proofs.Hazard.Rules
import PatternLint.Proofs.Hazard.Search
import PatternLint.Proofs.Hazard.Unknown
import PatternLint.Proofs.Hazard.Width
import PatternLint.Proofs.Lengths
import PatternLint.Proofs.Literal
import PatternLint.Proofs.LiteralText
import PatternLint.Proofs.Lookbehind
import PatternLint.Proofs.Names
import PatternLint.Proofs.NestLimit
import PatternLint.Proofs.Numbering
import PatternLint.Proofs.OctalEscapes
import PatternLint.Proofs.OpenClasses
import PatternLint.Proofs.Parse.Complete
import PatternLint.Proofs.Parse.Formed
import PatternLint.Proofs.Parse.Groups
import PatternLint.Proofs.Parse.Lockstep
import PatternLint.Proofs.Parse.Move
import PatternLint.Proofs.Parse.Reads
import PatternLint.Proofs.Parse.Refusal
import PatternLint.Proofs.Parse.Sound
import PatternLint.Proofs.Parse.Written
import PatternLint.Proofs.Places
import PatternLint.Proofs.Positions
import PatternLint.Proofs.Printer
import PatternLint.Proofs.References
import PatternLint.Proofs.Resolver
import PatternLint.Proofs.Restyle
import PatternLint.Proofs.Roundtrip
import PatternLint.Proofs.Scopes
import PatternLint.Proofs.SetExpr
import PatternLint.Proofs.Shape
import PatternLint.Proofs.SharedWidths
import PatternLint.Proofs.Snippet
import PatternLint.Proofs.Spelling
import PatternLint.Proofs.Stability
import PatternLint.Proofs.Text.Characters
import PatternLint.Proofs.Token.Canonical
import PatternLint.Proofs.Token.ClassTokens
import PatternLint.Proofs.Token.Counts
import PatternLint.Proofs.Token.Faults
import PatternLint.Proofs.Token.Insertion
import PatternLint.Proofs.Token.Lexeme
import PatternLint.Proofs.Token.ReferenceText
import PatternLint.Proofs.Token.Spaced
import PatternLint.Proofs.Token.Stream
import PatternLint.Proofs.Token.Strung
import PatternLint.Proofs.Token.Tiling
import PatternLint.Proofs.Token.Trail
import PatternLint.Proofs.Transforms
import PatternLint.Proofs.Tree
import PatternLint.Proofs.Walk
import PatternLint.Proofs.WidthLaws
import PatternLint.References
import PatternLint.Render
import PatternLint.Render.Printer
import PatternLint.Repeat
import PatternLint.SetExpr.Brackets
import PatternLint.SetExpr.Escape
import PatternLint.SetExpr.Form
import PatternLint.SetExpr.Modes
import PatternLint.SetExpr.Reader
import PatternLint.Settings
import PatternLint.Settings.Value
import PatternLint.Span
import PatternLint.Text.Bytes
import PatternLint.Text.Digits
import PatternLint.Text.Snippet
import PatternLint.Token
import PatternLint.Token.Escape
import PatternLint.Token.Fault
import PatternLint.Token.Paren
import PatternLint.Token.Reader
import PatternLint.Token.Scan
import PatternLint.Transform
import PatternLint.Unicode.Age
import PatternLint.Unicode.CaseOrbit
import PatternLint.Unicode.Classify
import PatternLint.Unicode.DerivedProperty
import PatternLint.Unicode.GeneralCategory
import PatternLint.Unicode.ListedProperty
import PatternLint.Unicode.NamedSet
import PatternLint.Unicode.Property
import PatternLint.Unicode.Script
import PatternLint.Unicode.ScriptExtensions
import PatternLint.Unicode.Segmentation
import PatternLint.Walk
import PatternLint.Width
import PatternLint.Width.Scope
import PatternLint.Width.Shared
