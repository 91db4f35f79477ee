import RichMarkdown.Logging
import RichMarkdown.Markdown.Parse
import RichMarkdown.Process.Session
import RichMarkdown.Json.Reader
import RichMarkdown.Json.Printer
import RichMarkdown.Document.Payload
import RichMarkdown.Document.Reader
import RichMarkdown.Source.Walk
import RichMarkdown.Source.Fields
import RichMarkdown.Source.References
import RichMarkdown.Proofs.Registry.Run
import RichMarkdown.Proofs.Process.History
import RichMarkdown.Proofs.Process.Depth
import RichMarkdown.Proofs.Process.Apart
import RichMarkdown.Proofs.Document.Vocabulary
import RichMarkdown.Proofs.Document.References
import RichMarkdown.Proofs.Rule.Standard
import RichMarkdown.Proofs.Rule.Visits
import RichMarkdown.Proofs.Rule.Faults
import RichMarkdown.Proofs.Document.Marks
import RichMarkdown.Proofs.Document.Erasure
import RichMarkdown.Proofs.Markup.Build
import RichMarkdown.Proofs.Markup.Recut
import RichMarkdown.Proofs.Document.Confinement
import RichMarkdown.Proofs.Source.Reload
import RichMarkdown.Proofs.Document.Reload
import RichMarkdown.Proofs.Registry.Order
import RichMarkdown.Proofs.Source.Paths
import RichMarkdown.Proofs.Source.Walk
import RichMarkdown.Proofs.Source.Survivors
import RichMarkdown.Proofs.Markup.Texts
import RichMarkdown.Proofs.Markup.PlainText
import RichMarkdown.Proofs.Source.References
import RichMarkdown.Proofs.Text.Words
import RichMarkdown.Proofs.Text.Lower
import RichMarkdown.Proofs.Text.FinalSigma
import RichMarkdown.Proofs.Source.Identifier
import RichMarkdown.Proofs.Markup.Labels
import RichMarkdown.Proofs.Source.Passes
import RichMarkdown.Proofs.Document.Reuse
import RichMarkdown.Proofs.Document.Emptiness
import RichMarkdown.Proofs.Markup.Failure
import RichMarkdown.Proofs.Markup.Footnotes
import RichMarkdown.Proofs.Options
import RichMarkdown.Proofs.Json.Tokens
import RichMarkdown.Proofs.Json.Values
import RichMarkdown.Proofs.Source.Dump
