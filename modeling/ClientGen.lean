import ClientGen.Main
import ClientGen.Json.Printer
import ClientGen.Record.Codec
import ClientGen.Proofs.TypeRoundTrip
import ClientGen.Proofs.TypeSoundness
import ClientGen.Proofs.TypeScope
import ClientGen.Proofs.Compilation
import ClientGen.Proofs.BodySyntax
import ClientGen.Proofs.NameCapture
import ClientGen.Proofs.KeyOrder
import ClientGen.Proofs.FileTree
import ClientGen.Proofs.WorkingDirectory
import ClientGen.Proofs.Parsing
import ClientGen.Proofs.Interleaving
import ClientGen.Proofs.Publishing
import ClientGen.Proofs.Course
import ClientGen.Proofs.Independence
import ClientGen.Proofs.OutputFiles
import ClientGen.Proofs.Codec
import ClientGen.Proofs.ClientChoice
import ClientGen.Proofs.Signature
import ClientGen.Proofs.TypeNames
import ClientGen.Proofs.ServerLists
import ClientGen.Proofs.Substitution
import ClientGen.Proofs.ParameterOrder
import ClientGen.Proofs.Extensions
import ClientGen.Proofs.LiteralValue
import ClientGen.Proofs.TypingsSpecifier
import ClientGen.Proofs.DocComments
import ClientGen.Proofs.HeaderComments
import ClientGen.Proofs.TemplateLiteral
import ClientGen.Proofs.PayloadTypes
import ClientGen.Proofs.Pointers
import ClientGen.Proofs.ObjectTypes
import ClientGen.Proofs.Overriding
import ClientGen.Proofs.RenderedText
import ClientGen.Proofs.Registration
import ClientGen.Proofs.ManifestLoading
