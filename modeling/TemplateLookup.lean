import TemplateLookup.Candidate
import TemplateLookup.Codec.Basic
import TemplateLookup.Codec.Utf16
import TemplateLookup.Codec.Utf8
import TemplateLookup.Command.Arguments
import TemplateLookup.Command.Line
import TemplateLookup.Command.Performance
import TemplateLookup.Command.Request
import TemplateLookup.Command.Variables
import TemplateLookup.Data.Basic
import TemplateLookup.Data.Display
import TemplateLookup.Encodings
import TemplateLookup.Environment
import TemplateLookup.Json.Printer
import TemplateLookup.Json.Reader
import TemplateLookup.Locator.Basic
import TemplateLookup.Locator.Listing
import TemplateLookup.Locator.Search
import TemplateLookup.Locator.Staleness
import TemplateLookup.Log.Channel
import TemplateLookup.Log.Event
import TemplateLookup.Log.Filling
import TemplateLookup.Log.Level
import TemplateLookup.Log.Moment
import TemplateLookup.Log.Pattern
import TemplateLookup.Log.Record
import TemplateLookup.LookupError
import TemplateLookup.Main
import TemplateLookup.Name.Accept
import TemplateLookup.Name.Normal
import TemplateLookup.Name.Stack
import TemplateLookup.Number.Binary64
import TemplateLookup.Number.Layout
import TemplateLookup.Number.Reading
import TemplateLookup.Number.Rounded
import TemplateLookup.Number.Shortest
import TemplateLookup.Pairs
import TemplateLookup.Path
import TemplateLookup.Provenance
import TemplateLookup.Registry
import TemplateLookup.Renderer.Basic
import TemplateLookup.Renderer.Cache
import TemplateLookup.Renderer.Source
import TemplateLookup.Roots
import TemplateLookup.Session.Basic
import TemplateLookup.Session.Run
import TemplateLookup.Session.Step
import TemplateLookup.Settings
import TemplateLookup.Settings.Discovery
import TemplateLookup.Settings.Initial
import TemplateLookup.Standard
import TemplateLookup.Supplier
import TemplateLookup.Template.Body
import TemplateLookup.Template.Engine
import TemplateLookup.Template.Escape
import TemplateLookup.Template.Failure
import TemplateLookup.Template.Flaw
import TemplateLookup.Template.Lexer
import TemplateLookup.Template.Parser
import TemplateLookup.Template.Run
import TemplateLookup.Template.Token
import TemplateLookup.Template.Value
import TemplateLookup.Text.Blank
import TemplateLookup.Text.Digit
import TemplateLookup.Text.Ordered
import TemplateLookup.Text.Pieces
import TemplateLookup.Text.Printable
import TemplateLookup.Text.Quoted
import TemplateLookup.Text.Wide
import TemplateLookup.World.Basic
import TemplateLookup.World.Edit
import TemplateLookup.World.FileTime
import TemplateLookup.World.Files
import TemplateLookup.World.Listing
import TemplateLookup.World.Resolve
import TemplateLookup.World.SystemError
import TemplateLookup.Yaml.Basic
import TemplateLookup.Yaml.Cursor
import TemplateLookup.Yaml.Plain
import TemplateLookup.Yaml.Reader
import TemplateLookup.Yaml.Scalar
import TemplateLookup.Proofs.Pairs
import TemplateLookup.Proofs.Provenance
import TemplateLookup.Proofs.Text.Pieces
import TemplateLookup.Proofs.Codec.Utf8
import TemplateLookup.Proofs.Number.Rounding
import TemplateLookup.Proofs.World.FileTime
import TemplateLookup.Proofs.Name.Walk
import TemplateLookup.Proofs.Name.Loops
import TemplateLookup.Proofs.Name.Shortening
import TemplateLookup.Proofs.Name.NormalForm
import TemplateLookup.Proofs.Candidate
import TemplateLookup.Proofs.Environment
import TemplateLookup.Proofs.Settings
import TemplateLookup.Proofs.Settings.Initial
import TemplateLookup.Proofs.Registry
import TemplateLookup.Proofs.Locator.Inquiry
import TemplateLookup.Proofs.Locator.Search
import TemplateLookup.Proofs.Locator.Staleness
import TemplateLookup.Proofs.Locator.Usable
import TemplateLookup.Proofs.Locator.Lookup
import TemplateLookup.Proofs.Locator.Verdict
import TemplateLookup.Proofs.Locator.Agreement
import TemplateLookup.Proofs.Locator.Spelling
import TemplateLookup.Proofs.World.Walk
import TemplateLookup.Proofs.World.Tree
import TemplateLookup.Proofs.World.Absolute
import TemplateLookup.Proofs.World.Rewritten
import TemplateLookup.Proofs.World.Retimed
import TemplateLookup.Proofs.World.Edit
import TemplateLookup.Proofs.World.Listing
import TemplateLookup.Proofs.Settings.Discovery
import TemplateLookup.Proofs.Locator.Listing
import TemplateLookup.Proofs.Locator.Listed
import TemplateLookup.Proofs.Locator.Retimed
import TemplateLookup.Proofs.Template.Script
import TemplateLookup.Proofs.Template.Run
import TemplateLookup.Proofs.Renderer.Work
import TemplateLookup.Proofs.Renderer.Attempts
import TemplateLookup.Proofs.Session.Effect
import TemplateLookup.Proofs.Session.History
import TemplateLookup.Proofs.Containment
import TemplateLookup.Proofs.Renderer.Offered
import TemplateLookup.Proofs.Renderer.Afresh
import TemplateLookup.Proofs.Renderer.Transparency
import TemplateLookup.Proofs.Renderer.Repeated
import TemplateLookup.Proofs.Renderer.Spelling
import TemplateLookup.Proofs.Session.Transparency
import TemplateLookup.Proofs.Session.Ledger
import TemplateLookup.Proofs.Session.Refusal
import TemplateLookup.Proofs.Session.Reload
import TemplateLookup.Proofs.Session.Boundary
import TemplateLookup.Proofs.Session.Dating
import TemplateLookup.Proofs.Session.Tree
import TemplateLookup.Proofs.Session.Listed
import TemplateLookup.Proofs.Session.Shadowing
import TemplateLookup.Proofs.Session.Repeated
import TemplateLookup.Proofs.Renderer.Outcome
import TemplateLookup.Proofs.Session.Rendering
import TemplateLookup.Proofs.Command.Asking
import TemplateLookup.Proofs.Command.Agreement
import TemplateLookup.Proofs.Command.Repair
import TemplateLookup.Proofs.World.Placing
import TemplateLookup.Proofs.Renderer.Filing
import TemplateLookup.Proofs.Text.Digit
import TemplateLookup.Proofs.Text.Blank
import TemplateLookup.Proofs.Json.RoundTrip
import TemplateLookup.Proofs.Log.Lines
import TemplateLookup.Proofs.Roots
import TemplateLookup.Proofs.Command.Variables
import TemplateLookup.Proofs.Path
import TemplateLookup.Proofs.Name.Stages
import TemplateLookup.Proofs.Locator.Comparison
import TemplateLookup.Proofs.Registry.Calls
