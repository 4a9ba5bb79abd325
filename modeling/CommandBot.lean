import CommandBot.Board.Client
import CommandBot.Board.Response
import CommandBot.Bot.Commands
import CommandBot.Bot.Context
import CommandBot.Bot.Help
import CommandBot.Bot.Host
import CommandBot.Bot.Perform
import CommandBot.Bot.Request
import CommandBot.Bot.Respond
import CommandBot.Bot.Search
import CommandBot.Failure
import CommandBot.FileTree
import CommandBot.Gateway.Handle
import CommandBot.Gateway.Request
import CommandBot.Gateway.Roles
import CommandBot.Invocation
import CommandBot.Json.Document
import CommandBot.Json.Grammar
import CommandBot.Json.Token
import CommandBot.Program
import CommandBot.Proofs.Program.Exchanges
import CommandBot.Proofs.Program.Interleaving
import CommandBot.Proofs.Text.Decimal
import CommandBot.Proofs.Users.Fields
import CommandBot.Redis.Command
import CommandBot.Redis.Connection
import CommandBot.Redis.Ipv6
import CommandBot.Redis.Url
import CommandBot.Registry
import CommandBot.Rehearsal.ChatService
import CommandBot.Rehearsal.FaultyStore
import CommandBot.Rehearsal.HostFiles
import CommandBot.Rehearsal.RedisServer
import CommandBot.Rehearsal.Session
import CommandBot.Rehearsal.World
import CommandBot.Reply.Basic
import CommandBot.Reply.Payload
import CommandBot.Routing
import CommandBot.Settings.Basic
import CommandBot.Settings.File
import CommandBot.Settings.Lines
import CommandBot.Shell.Arithmetic
import CommandBot.Shell.Binary64
import CommandBot.Shell.Builtin.Basic
import CommandBot.Shell.Builtin.Control
import CommandBot.Shell.Builtin.Files
import CommandBot.Shell.Builtin.Naming
import CommandBot.Shell.Builtin.Printing
import CommandBot.Shell.Command
import CommandBot.Shell.Condition
import CommandBot.Shell.Expand
import CommandBot.Shell.Field
import CommandBot.Shell.Format
import CommandBot.Shell.Launch
import CommandBot.Shell.Lexeme
import CommandBot.Shell.Machine
import CommandBot.Shell.Numeral
import CommandBot.Shell.Parameter
import CommandBot.Shell.Pathname
import CommandBot.Shell.Pattern
import CommandBot.Shell.Process
import CommandBot.Shell.Redirect
import CommandBot.Shell.Run
import CommandBot.Shell.Script
import CommandBot.Shell.Signal
import CommandBot.Shell.Source
import CommandBot.Shell.Stream
import CommandBot.Shell.Switch
import CommandBot.Shell.Syntax
import CommandBot.Shell.Word
import CommandBot.Store.Record
import CommandBot.Store.Request
import CommandBot.Store.Users
import CommandBot.Table
import CommandBot.Text.Blank
import CommandBot.Text.Cut
import CommandBot.Text.Decimal
import CommandBot.Text.Hex
import CommandBot.Text.Hidden
import CommandBot.Text.Octets
import CommandBot.Text.Percent
import CommandBot.Text.Quoted
import CommandBot.Text.Utf8
import CommandBot.Time.Date
import CommandBot.Time.Rfc3339
import CommandBot.Time.Timestamp
import CommandBot.Proofs.Users.Posts
import CommandBot.Proofs.Bot.Conversation
import CommandBot.Proofs.Bot.Requests
import CommandBot.Proofs.Bot.PostCount
import CommandBot.Proofs.Users.Race
import CommandBot.Proofs.Gateway.Handling
import CommandBot.Proofs.Routing
import CommandBot.Proofs.Text.Blank
import CommandBot.Proofs.Gateway.ShellAccess
import CommandBot.Proofs.Bot.CountGrowth
import CommandBot.Proofs.Program.Separation
import CommandBot.Proofs.Users.Independence
import CommandBot.Proofs.Registry
import CommandBot.Proofs.Json.Scanning
import CommandBot.Proofs.Json.Reading
import CommandBot.Proofs.Board.Response
import CommandBot.Proofs.Program.Results
import CommandBot.Proofs.Bot.Answering
import CommandBot.Proofs.Bot.Silence
import CommandBot.Proofs.Bot.Backends
import CommandBot.Proofs.Gateway.ChannelLookup
import CommandBot.Proofs.Users.Faults
import CommandBot.Proofs.Users.WholeRecords
import CommandBot.Proofs.Bot.WholeRecords
import CommandBot.Proofs.Program.Bounds
import CommandBot.Proofs.Bot.Confinement
import CommandBot.Proofs.Bot.Fences
import CommandBot.Proofs.Bot.SafeSearch
import CommandBot.Proofs.Bot.Searching
import CommandBot.Proofs.Bot.ShellReplies
import CommandBot.Proofs.Settings.Lines
import CommandBot.Proofs.Settings.Writing
import CommandBot.Proofs.Settings.Values
import CommandBot.Proofs.Settings.Loading
import CommandBot.Proofs.Settings.Acceptance
import CommandBot.Proofs.Settings.Stopping
import CommandBot.Proofs.Time.Calendar
import CommandBot.Proofs.Time.Rfc3339
import CommandBot.Proofs.Users.Writes
import CommandBot.Proofs.Users.CountOnce
import CommandBot.Proofs.Users.Updates
import CommandBot.Proofs.Users.Lookups
import CommandBot.Proofs.Json.Ending
import CommandBot.Proofs.Json.Nesting
import CommandBot.Proofs.Board.Wholeness
import CommandBot.Proofs.Text.Utf8
import CommandBot.Proofs.Text.Form
import CommandBot.Proofs.Board.Client
import CommandBot.Proofs.Bot.ShownCount
import CommandBot.Proofs.Reply.Payload
import CommandBot.Proofs.Bot.Help
import CommandBot.Proofs.Redis.Connection
import CommandBot.Proofs.Description
import CommandBot.Proofs.Rehearsal.FaultyStore
import CommandBot.Proofs.Rehearsal.RedisServer
import CommandBot.Proofs.Shell.Launch
import CommandBot.Proofs.Rehearsal.Session
import CommandBot.Proofs.Rehearsal.ChatService
import CommandBot.Proofs.FileTree
import CommandBot.Proofs.Shell.Pattern
import CommandBot.Proofs.Shell.Arithmetic
import CommandBot.Proofs.Shell.CommandLine
import CommandBot.Proofs.Shell.Stream
import CommandBot.Proofs.Shell.Field
