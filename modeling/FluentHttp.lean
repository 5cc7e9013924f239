import FluentHttp.Text.CharacterClass
import FluentHttp.Text.LetterCase
import FluentHttp.TypeExpr.Printer
import FluentHttp.TypeExpr.Parser
import FluentHttp.Json.Basic
import FluentHttp.Json.Outline
import FluentHttp.Declaration.Supertypes
import FluentHttp.Declaration.Writer
import FluentHttp.Declaration.Reader
import FluentHttp.Registry
import FluentHttp.Java.Printer
import FluentHttp.Api.Generation
import FluentHttp.Session
import FluentHttp.Files.Store
import FluentHttp.Files.SourceTree
import FluentHttp.CommandLine.Machine
import FluentHttp.Main
import FluentHttp.Proofs.TypeExpr.Lexing
import FluentHttp.Proofs.TypeExpr.Canonical
import FluentHttp.Proofs.TypeExpr.Reading
import FluentHttp.Proofs.Declaration.Supertypes
import FluentHttp.Proofs.Contract.Reports
import FluentHttp.Proofs.Intake
import FluentHttp.Proofs.Session
import FluentHttp.Proofs.Contract
import FluentHttp.Proofs.Registry
import FluentHttp.Proofs.Api.Containers
import FluentHttp.Proofs.Api.Generation
import FluentHttp.Proofs.Api.Slots
import FluentHttp.Proofs.Api.Element
import FluentHttp.Proofs.Api.Overloads
import FluentHttp.Proofs.Generated
import FluentHttp.Proofs.Api.Places
import FluentHttp.Proofs.Api.PassedOn
import FluentHttp.Proofs.Api.Delegation
import FluentHttp.Proofs.Api.DeclaredNames
import FluentHttp.Proofs.Api.Members
import FluentHttp.Proofs.Java.Vocabulary
import FluentHttp.Proofs.Api.Bodies
import FluentHttp.Proofs.Closed
import FluentHttp.Proofs.TypeExpr.Variables
import FluentHttp.Proofs.WellScoped
import FluentHttp.Proofs.Inheritance
import FluentHttp.Proofs.Api.Signatures
import FluentHttp.Proofs.MethodClashes
import FluentHttp.Proofs.Interleaving
import FluentHttp.Proofs.ReactiveMode
import FluentHttp.Proofs.Java.Imports
import FluentHttp.Proofs.Java.Meaning
import FluentHttp.Proofs.Denotation
import FluentHttp.Proofs.ContextTypes
import FluentHttp.Proofs.Api.TokenConstructors
import FluentHttp.Proofs.Registry.Calls
import FluentHttp.Proofs.Json.Lexing
import FluentHttp.Proofs.Json.Reading
import FluentHttp.Proofs.Declaration.Records
import FluentHttp.Proofs.Declaration.RoundTrip
import FluentHttp.Proofs.Api.OfferedMethods
import FluentHttp.Proofs.Api.Factories
import FluentHttp.Proofs.Contract.Acceptance
import FluentHttp.Proofs.TypeExpr.SyntaxErrors
import FluentHttp.Proofs.Files.SourceTree
import FluentHttp.Proofs.Java.Resolution
import FluentHttp.Proofs.Api.Exceptions
import FluentHttp.Proofs.Java.Grammar
import FluentHttp.Proofs.Java.Grouping
import FluentHttp.Proofs.Files.Place
import FluentHttp.Proofs.Files.Changes
import FluentHttp.Proofs.Files.AtomicWrite
import FluentHttp.Proofs.Java.StringLiteral
