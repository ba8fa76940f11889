import PhoneAccounts.Account
import PhoneAccounts.Calendar
import PhoneAccounts.Capability
import PhoneAccounts.Catalog
import PhoneAccounts.Catalog.Edit
import PhoneAccounts.Command.Arguments
import PhoneAccounts.Command.Help
import PhoneAccounts.Command.Inspection
import PhoneAccounts.Command.Request
import PhoneAccounts.Command.Run
import PhoneAccounts.Component
import PhoneAccounts.Console.Line
import PhoneAccounts.Console.Markup
import PhoneAccounts.Console.Panel
import PhoneAccounts.Console.Table
import PhoneAccounts.Device
import PhoneAccounts.Device.FilePath
import PhoneAccounts.Device.FileTree
import PhoneAccounts.Device.Installs
import PhoneAccounts.Device.Replacement
import PhoneAccounts.Device.ScopeDirectory
import PhoneAccounts.Device.Settings
import PhoneAccounts.Device.Subscriptions
import PhoneAccounts.Handle
import PhoneAccounts.Keyed
import PhoneAccounts.Listener.Bus
import PhoneAccounts.Listener.Event
import PhoneAccounts.Listener.Script
import PhoneAccounts.Main
import PhoneAccounts.Mask
import PhoneAccounts.Number.Binary64
import PhoneAccounts.Number.Reading
import PhoneAccounts.Number.Shortest
import PhoneAccounts.Proofs.Catalog.Duplicates
import PhoneAccounts.Proofs.Catalog.Entries
import PhoneAccounts.Proofs.Catalog.Owners
import PhoneAccounts.Proofs.Command.Migration
import PhoneAccounts.Proofs.Component
import PhoneAccounts.Proofs.Component.WrittenForms
import PhoneAccounts.Proofs.Console.Markup
import PhoneAccounts.Proofs.Device.FileTree
import PhoneAccounts.Proofs.Device.InstallHistory
import PhoneAccounts.Proofs.Device.Replacement
import PhoneAccounts.Proofs.Device.ScopeDirectory
import PhoneAccounts.Proofs.Device.ScopeHistory
import PhoneAccounts.Proofs.Device.Settings
import PhoneAccounts.Proofs.Keyed
import PhoneAccounts.Proofs.Keyed.History
import PhoneAccounts.Proofs.Listener.Dispatch
import PhoneAccounts.Proofs.Listener.Recording
import PhoneAccounts.Proofs.Mask
import PhoneAccounts.Proofs.Registry.Choices
import PhoneAccounts.Proofs.Registry.Convergence
import PhoneAccounts.Proofs.Registry.Effect
import PhoneAccounts.Proofs.Registry.Query
import PhoneAccounts.Proofs.Registry.Startup
import PhoneAccounts.Proofs.Registry.Unstartable
import PhoneAccounts.Proofs.Registry.View
import PhoneAccounts.Proofs.Session.Announcement
import PhoneAccounts.Proofs.Session.CallManager
import PhoneAccounts.Proofs.Session.FailingSaves
import PhoneAccounts.Proofs.Session.Interleaving
import PhoneAccounts.Proofs.Session.Listing
import PhoneAccounts.Proofs.Session.Manager
import PhoneAccounts.Proofs.Session.Moves
import PhoneAccounts.Proofs.Session.Noninterference
import PhoneAccounts.Proofs.Session.OrderedMap
import PhoneAccounts.Proofs.Session.OutgoingDefault
import PhoneAccounts.Proofs.Session.Readability
import PhoneAccounts.Proofs.Session.Reordering
import PhoneAccounts.Proofs.Session.Restart
import PhoneAccounts.Proofs.Session.Revocation
import PhoneAccounts.Proofs.Session.SimAccounts
import PhoneAccounts.Proofs.Session.Stored
import PhoneAccounts.Proofs.Session.Subscriptions
import PhoneAccounts.Proofs.Session.Switching
import PhoneAccounts.Proofs.StateFile.Decoded
import PhoneAccounts.Proofs.StateFile.Fields
import PhoneAccounts.Proofs.StateFile.Grammar
import PhoneAccounts.Proofs.StateFile.Readers
import PhoneAccounts.Proofs.StateFile.Reread
import PhoneAccounts.Proofs.StateFile.Resaving
import PhoneAccounts.Proofs.StateFile.RoundTrip
import PhoneAccounts.Proofs.StateFile.Saving
import PhoneAccounts.Proofs.StateFile.Storable
import PhoneAccounts.Proofs.StateFile.Text
import PhoneAccounts.Proofs.StateFile.UnknownKeys
import PhoneAccounts.Proofs.StateFile.Upgrade
import PhoneAccounts.Proofs.StateFile.Wording
import PhoneAccounts.Proofs.Steps
import PhoneAccounts.Proofs.Text.Alphabet
import PhoneAccounts.Proofs.Text.Base64
import PhoneAccounts.Proofs.Text.Numeral
import PhoneAccounts.Proofs.Text.Utf8
import PhoneAccounts.Proofs.Tree
import PhoneAccounts.Proofs.Yaml.Charset
import PhoneAccounts.Proofs.Yaml.Cursor
import PhoneAccounts.Proofs.Yaml.Grammar
import PhoneAccounts.Proofs.Yaml.Impossible
import PhoneAccounts.Proofs.Yaml.Layout.DoubleQuoted
import PhoneAccounts.Proofs.Yaml.Layout.LineEnd
import PhoneAccounts.Proofs.Yaml.Layout.Outline
import PhoneAccounts.Proofs.Yaml.Layout.Runs
import PhoneAccounts.Proofs.Yaml.Layout.Scalar
import PhoneAccounts.Proofs.Yaml.Layout.SingleQuoted
import PhoneAccounts.Proofs.Yaml.Line
import PhoneAccounts.Proofs.Yaml.Meaning
import PhoneAccounts.Proofs.Yaml.Node
import PhoneAccounts.Proofs.Yaml.Number
import PhoneAccounts.Proofs.Yaml.Outline
import PhoneAccounts.Proofs.Yaml.Reread
import PhoneAccounts.Proofs.Yaml.Token.Ahead
import PhoneAccounts.Proofs.Yaml.Token.Forward
import PhoneAccounts.Proofs.Yaml.Token.Lexer
import PhoneAccounts.Proofs.Yaml.Token.PlainScalar
import PhoneAccounts.Proofs.Yaml.Token.QuotedScalar
import PhoneAccounts.Proofs.Yaml.Token.Scanning
import PhoneAccounts.Proofs.Yaml.Token.Stopping
import PhoneAccounts.Registry.Basic
import PhoneAccounts.Registry.Change
import PhoneAccounts.Registry.Outcome
import PhoneAccounts.Registry.Query
import PhoneAccounts.Registry.Session
import PhoneAccounts.Registry.Startup
import PhoneAccounts.Registry.Step
import PhoneAccounts.Scope
import PhoneAccounts.StateFile.Keys
import PhoneAccounts.StateFile.Reading
import PhoneAccounts.StateFile.Store
import PhoneAccounts.StateFile.Upgrade
import PhoneAccounts.StateFile.Writing
import PhoneAccounts.Text.Base64
import PhoneAccounts.Text.Blank
import PhoneAccounts.Text.Digit
import PhoneAccounts.Text.Numeral
import PhoneAccounts.Text.Printable
import PhoneAccounts.Text.Quoted
import PhoneAccounts.Text.Utf16
import PhoneAccounts.Text.Utf8
import PhoneAccounts.Tree.Basic
import PhoneAccounts.Tree.Display
import PhoneAccounts.Visibility
import PhoneAccounts.Yaml.Charset
import PhoneAccounts.Yaml.Cursor
import PhoneAccounts.Yaml.Fault
import PhoneAccounts.Yaml.Layout.Outline
import PhoneAccounts.Yaml.Layout.Scalar
import PhoneAccounts.Yaml.Layout.Style
import PhoneAccounts.Yaml.Meaning
import PhoneAccounts.Yaml.Node
import PhoneAccounts.Yaml.Scalar
import PhoneAccounts.Yaml.Tag
import PhoneAccounts.Yaml.Token
import PhoneAccounts.Yaml.Token.BlockScalar
import PhoneAccounts.Yaml.Token.Lexer
import PhoneAccounts.Yaml.Token.Mark
import PhoneAccounts.Yaml.Token.PlainScalar
import PhoneAccounts.Yaml.Token.QuotedScalar
