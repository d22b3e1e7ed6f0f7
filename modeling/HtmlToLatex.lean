import HtmlToLatex.GeneratedId
import HtmlToLatex.Main
import HtmlToLatex.Text.Utf8
import HtmlToLatex.Proofs.Walk
import HtmlToLatex.Proofs.Agreement
import HtmlToLatex.Proofs.Image
import HtmlToLatex.Proofs.Noninterference
import HtmlToLatex.Proofs.OutputLaw
import HtmlToLatex.Proofs.Rendering
import HtmlToLatex.Proofs.UrlPath
import HtmlToLatex.Proofs.ImageName
import HtmlToLatex.Proofs.Conservation
import HtmlToLatex.Proofs.Segments
import HtmlToLatex.Proofs.Tracing
import HtmlToLatex.Proofs.Containers
import HtmlToLatex.Proofs.BlankText
import HtmlToLatex.Proofs.StartTags
import HtmlToLatex.Proofs.NamedNodes
import HtmlToLatex.Proofs.ParsingRules
import HtmlToLatex.Proofs.ElementNames
import HtmlToLatex.Proofs.PackagedCommands
import HtmlToLatex.Proofs.WrittenCommands
import HtmlToLatex.Proofs.Wrapping
import HtmlToLatex.Proofs.PackageInference
import HtmlToLatex.Proofs.Nesting
import HtmlToLatex.Proofs.Balance
import HtmlToLatex.Proofs.Formulas
import HtmlToLatex.Proofs.Files
import HtmlToLatex.Proofs.Frame
import HtmlToLatex.Proofs.DocumentOrder
import HtmlToLatex.Proofs.Directories
import HtmlToLatex.Proofs.Retrievals
import HtmlToLatex.Proofs.Independence
import HtmlToLatex.Proofs.FlagPlacement
import HtmlToLatex.Proofs.Footprint
import HtmlToLatex.Proofs.GeneratedNames
import HtmlToLatex.Proofs.Attempts
import HtmlToLatex.Proofs.Publication
import HtmlToLatex.Proofs.SourceFiles
import HtmlToLatex.Proofs.FrontEnds
import HtmlToLatex.Proofs.Tables
import HtmlToLatex.Proofs.TableReading
import HtmlToLatex.Proofs.Rejections
import HtmlToLatex.Proofs.References
import HtmlToLatex.Proofs.EncodedText
import HtmlToLatex.Proofs.LoneCharacters
import HtmlToLatex.Proofs.LineBreaks
import HtmlToLatex.Proofs.Unescaping
import HtmlToLatex.Proofs.Delimiters
import HtmlToLatex.Proofs.Listings
import HtmlToLatex.Proofs.InertOptions
import HtmlToLatex.Proofs.Normalization
import HtmlToLatex.Proofs.FailureLog
import HtmlToLatex.Proofs.Exports
import HtmlToLatex.Proofs.LocalNames
import HtmlToLatex.Proofs.KeyOrder
import HtmlToLatex.Proofs.PartialOptions
