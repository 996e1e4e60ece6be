import SpokenSales.Conversation
import SpokenSales.Main
import SpokenSales.Panel
import SpokenSales.Storage.Tree
import SpokenSales.Proofs.Text.Lowercase
import SpokenSales.Proofs.Query.Answer
import SpokenSales.Proofs.Text.Words
import SpokenSales.Proofs.Command.Vocabulary
import SpokenSales.Proofs.Command.Normal
import SpokenSales.Proofs.Command.Figures
import SpokenSales.Proofs.Command.Phrase
import SpokenSales.Proofs.Catalog.Accepted
import SpokenSales.Proofs.Catalog.RoundTrip
import SpokenSales.Proofs.Cli.Reset
import SpokenSales.Proofs.Command.Shapes
import SpokenSales.Proofs.Command.Understood
import SpokenSales.Proofs.Catalog.Loading
import SpokenSales.Proofs.Date.Plain
import SpokenSales.Proofs.Json.Follows
import SpokenSales.Proofs.Catalog.Draft
import SpokenSales.Proofs.Assistant.Period
import SpokenSales.Proofs.Command.Heard
import SpokenSales.Proofs.Command.Continued
import SpokenSales.Proofs.Command.Layout
import SpokenSales.Proofs.Session
import SpokenSales.Proofs.Log.Setup
import SpokenSales.Proofs.Conversation
import SpokenSales.Proofs.Text.Lines
import SpokenSales.Proofs.Cli.Input
import SpokenSales.Proofs.Json.Entries
import SpokenSales.Proofs.Query.Written
import SpokenSales.Proofs.Cli.Printed
import SpokenSales.Proofs.Cli.JsonLines
import SpokenSales.Proofs.Cli.Arguments
import SpokenSales.Proofs.FrontEnds
import SpokenSales.Proofs.Text.Occurrence
import SpokenSales.Proofs.Command.Filters
import SpokenSales.Proofs.Command.Ranked
import SpokenSales.Proofs.Command.MonthYear
import SpokenSales.Proofs.Command.Unlimited
import SpokenSales.Proofs.Command.WholeWords
import SpokenSales.Proofs.Command.NumberPattern
import SpokenSales.Proofs.Command.NormalForm
import SpokenSales.Proofs.Log.OneLine
import SpokenSales.Proofs.Panel
import SpokenSales.Proofs.Query.Narrowing
import SpokenSales.Proofs.Catalog.Offence
import SpokenSales.Proofs.Catalog.Layout
import SpokenSales.Proofs.Catalog.Identity
import SpokenSales.Proofs.Json.Integer
import SpokenSales.Proofs.Json.Fields
import SpokenSales.Proofs.Query.Wording
import SpokenSales.Proofs.Query.Numbers
import SpokenSales.Proofs.Numbers
import SpokenSales.Proofs.Dates
import SpokenSales.Proofs.Cli.Rows
import SpokenSales.Proofs.Cli.Ending
