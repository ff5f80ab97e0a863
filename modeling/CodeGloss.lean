import CodeGloss.Main
import CodeGloss.Proofs.Glossary.Substitution
import CodeGloss.Proofs.Gloss.Escaping
import CodeGloss.Proofs.Gloss.Patch
import CodeGloss.Proofs.Gloss.Recording
import CodeGloss.Proofs.Glossary.Dictionary
import CodeGloss.Proofs.Glossary.Frame
import CodeGloss.Proofs.Scan.Content
import CodeGloss.Proofs.Gloss.PassagePatch
import CodeGloss.Proofs.Gloss.ScannedPatch
import CodeGloss.Proofs.Gloss.ScannedTokens
import CodeGloss.Proofs.Glossary.Reading
import CodeGloss.Proofs.Scan.WholeLiteral
import CodeGloss.Proofs.Gloss.TripleQuotes
import CodeGloss.Proofs.Gloss.Literals
import CodeGloss.Proofs.Gloss.TemplateChunk
import CodeGloss.Proofs.Gloss.Comments
import CodeGloss.Proofs.Gloss.SecondPass
import CodeGloss.Proofs.Gloss.Unmatched
import CodeGloss.Proofs.Gloss.Escapes
import CodeGloss.Proofs.Translator.Snapshot
import CodeGloss.Proofs.Format.Limits
import CodeGloss.Proofs.Translator.Routing
import CodeGloss.Proofs.Stores.Reporting
import CodeGloss.Proofs.Stores.Formats
import CodeGloss.Proofs.Text.Utf8
import CodeGloss.Proofs.Command.Saving
import CodeGloss.Proofs.Gloss.Records
import CodeGloss.Proofs.Scan.LiteralAt
import CodeGloss.Proofs.Scan.Partition
import CodeGloss.Proofs.Gloss.Append
import CodeGloss.Proofs.Gloss.Changed
import CodeGloss.Proofs.Glossary.WordByWord
import CodeGloss.Proofs.Glossary.WholeWord
import CodeGloss.Proofs.Glossary.OwnSpelling
import CodeGloss.Proofs.Glossary.FirstProposal
import CodeGloss.Proofs.Gloss.Splicing
import CodeGloss.Proofs.Language.Forms
import CodeGloss.Proofs.Language.LineEndings
import CodeGloss.Proofs.Translator.Epochs
import CodeGloss.Proofs.Syntax.Preorder
import CodeGloss.Proofs.Syntax.ModuleNames
import CodeGloss.Proofs.Gloss.Omission
import CodeGloss.Proofs.Gloss.SkippedModules
import CodeGloss.Proofs.Gloss.DraftRuns
import CodeGloss.Proofs.Syntax.Templates
import CodeGloss.Proofs.Text.OffsetTable
import CodeGloss.Proofs.Gloss.Attributes
