import Typeahead.Backend.Cached
import Typeahead.Backend.Scripted
import Typeahead.Cache
import Typeahead.Command.Options
import Typeahead.Command.Report
import Typeahead.Config.Basic
import Typeahead.Config.Read
import Typeahead.Config.Sample
import Typeahead.Dictionary.Answer
import Typeahead.Domain.Ascii
import Typeahead.Domain.Mapping
import Typeahead.Domain.Punycode
import Typeahead.Error
import Typeahead.Files
import Typeahead.Json.Cursor
import Typeahead.Json.Decode
import Typeahead.Json.Scalar
import Typeahead.Json.Skip
import Typeahead.Lexicon.Generate
import Typeahead.Lexicon.Model
import Typeahead.Log.Filter
import Typeahead.Log.Level
import Typeahead.Log.Pattern
import Typeahead.Log.Record
import Typeahead.Lookup.Item
import Typeahead.Lookup.Outcome
import Typeahead.Main
import Typeahead.Number.Binary64
import Typeahead.Opener
import Typeahead.Pipeline
import Typeahead.Program.Console
import Typeahead.Program.Run
import Typeahead.Program.World
import Typeahead.Query.Backend
import Typeahead.Query.Controller
import Typeahead.Query.Interleaving
import Typeahead.Query.Run
import Typeahead.Query.Session
import Typeahead.Query.Settings
import Typeahead.Remote.Dictionary
import Typeahead.Setup
import Typeahead.Terminal.Render
import Typeahead.Terminal.Style
import Typeahead.Terminal.Theme
import Typeahead.Text.Bidi
import Typeahead.Text.Blank
import Typeahead.Text.Canonical
import Typeahead.Text.Case
import Typeahead.Text.Classes
import Typeahead.Text.Joining
import Typeahead.Text.Lines
import Typeahead.Text.Markup
import Typeahead.Text.Normal
import Typeahead.Text.Percent
import Typeahead.Text.Quote
import Typeahead.Text.Replace
import Typeahead.Text.Utf8
import Typeahead.Toml.Cursor
import Typeahead.Toml.Decode
import Typeahead.Toml.Document
import Typeahead.Toml.Number
import Typeahead.Toml.Quoted
import Typeahead.Toml.Report
import Typeahead.Toml.Tree
import Typeahead.Toml.Value
import Typeahead.Url.Host
import Typeahead.Url.Parse
import Typeahead.Proofs.Query.Actions
import Typeahead.Proofs.Query.Invariant
import Typeahead.Proofs.Query.Generations
import Typeahead.Proofs.Query.Settling
import Typeahead.Proofs.Query.Closing
import Typeahead.Proofs.Query.Pause
import Typeahead.Proofs.Query.Timeline
import Typeahead.Proofs.Query.Debounce
import Typeahead.Proofs.Query.Tokens
import Typeahead.Proofs.Query.Mirror
import Typeahead.Proofs.Lexicon.Greedy
import Typeahead.Proofs.Lexicon.Steps
import Typeahead.Proofs.Pipeline.Cancellation
import Typeahead.Proofs.Pipeline.Blank
import Typeahead.Proofs.Backend.Cache
import Typeahead.Proofs.Remote.Reply
import Typeahead.Proofs.Backend.Memory
import Typeahead.Proofs.Lexicon.Table
import Typeahead.Proofs.Text.Markup
import Typeahead.Proofs.Text.Percent
