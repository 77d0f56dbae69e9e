import Concordance.Archive.Pages
import Concordance.Crawl.Check
import Concordance.Crawl.Seeds
import Concordance.Main
import Concordance.Proofs.Query.Evaluation
import Concordance.Proofs.Query.Conversion
import Concordance.Query.Formula
import Concordance.Service.Basic
import Concordance.Proofs.Query.Reading
import Concordance.Proofs.Query.Acceptance
import Concordance.Proofs.Query.Lexing
import Concordance.Proofs.Inversion
import Concordance.Proofs.Search.Expansion
import Concordance.Proofs.Search.Composition
import Concordance.Proofs.FileTree.Changes
import Concordance.Proofs.FileTree.Runs
import Concordance.Proofs.Text.Lines
import Concordance.Proofs.Contents
import Concordance.Proofs.Listing.LemmaIndex
import Concordance.Proofs.Listing.UrlIndex
import Concordance.Proofs.Listing.Outcome
import Concordance.Proofs.Number.Numeral
import Concordance.Proofs.Normalization
import Concordance.Proofs.FileTree.Frames
import Concordance.Proofs.FileTree.Reading
import Concordance.Proofs.Encoding.Bytes
import Concordance.Proofs.Index.DocumentFiles
import Concordance.Proofs.Encoding.Corpus
import Concordance.Proofs.Json.Quoted
import Concordance.Proofs.Json.Record
import Concordance.Proofs.Index.Metadata
import Concordance.Proofs.Index.Corpora
import Concordance.Proofs.Index.Loading
import Concordance.Proofs.Index.Saving
import Concordance.Proofs.Index.Files
import Concordance.Proofs.Build.Source
import Concordance.Proofs.Build.Steps
import Concordance.Proofs.Build.Listings
import Concordance.Proofs.Build.Normalized
import Concordance.Proofs.Build.Built
import Concordance.Proofs.Build.Stepwise
import Concordance.Proofs.Build.Rebuild
import Concordance.Proofs.Build.Opening
import Concordance.Proofs.Build.Reopening
import Concordance.Proofs.Build.Failing
import Concordance.Proofs.FileTree.Saving
import Concordance.Service.Deployment
import Concordance.Service.Overlap
import Concordance.Proofs.Grouping
import Concordance.Proofs.Statistics.Counting
import Concordance.Proofs.Statistics.Agreement
import Concordance.Proofs.Statistics.Conservation
import Concordance.Proofs.Service.Requests
import Concordance.Proofs.Service.History
import Concordance.Proofs.Service.Credential
import Concordance.Proofs.Service.Overlap
import Concordance.Proofs.Query.Parsing
import Concordance.Proofs.Weight.Exact
import Concordance.Proofs.Weight.Vectors
import Concordance.Proofs.Weight.Discrimination
import Concordance.Proofs.CleanWords
import Concordance.Proofs.Search.Ranking
import Concordance.Proofs.Search.Postings
import Concordance.Proofs.Query.Refusal
import Concordance.Proofs.Query.Rendering
import Concordance.Proofs.Weight.Order
import Concordance.Proofs.Statistics.Frequencies
import Concordance.Proofs.Weight.Similarity
import Concordance.Proofs.Weight.Repetition
import Concordance.Proofs.Index.FileNumbers
import Concordance.Proofs.Build.Numbering
import Concordance.Proofs.Crawl.Seeds
import Concordance.Proofs.Text.Fold
import Concordance.Proofs.Html.VisibleText
import Concordance.Proofs.Snippet.Marking
import Concordance.Proofs.Snippet.Nesting
import Concordance.Proofs.Snippet.Repetition
import Concordance.Proofs.Snippet.Window
import Concordance.Proofs.FileTree.Invariants
import Concordance.Proofs.Index.Written
import Concordance.Proofs.Encoding.Percent
import Concordance.Proofs.Service.Targets
import Concordance.Proofs.Service.Answers
