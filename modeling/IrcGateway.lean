import IrcGateway.Activity.Archive
import IrcGateway.Activity.Latest
import IrcGateway.Activity.Saver
import IrcGateway.Activity.Tracker
import IrcGateway.Chat.Rendering
import IrcGateway.Chat.Roster
import IrcGateway.Decimal.Shortest
import IrcGateway.Gateway
import IrcGateway.Json
import IrcGateway.Map.Provider
import IrcGateway.Media.ContentType
import IrcGateway.Media.Folder
import IrcGateway.Media.Kind
import IrcGateway.Media.Store
import IrcGateway.Media.Web
import IrcGateway.Proofs.Activity.Archive
import IrcGateway.Proofs.Activity.Ending
import IrcGateway.Proofs.Activity.Kept
import IrcGateway.Proofs.Activity.Run
import IrcGateway.Proofs.Activity.Saving
import IrcGateway.Proofs.Activity.Times
import IrcGateway.Proofs.Chat.FreeName
import IrcGateway.Proofs.Chat.Identifiers
import IrcGateway.Proofs.Chat.Lines
import IrcGateway.Proofs.Chat.Mentions
import IrcGateway.Proofs.Chat.Naming
import IrcGateway.Proofs.Chat.OneLine
import IrcGateway.Proofs.Chat.Registration
import IrcGateway.Proofs.Chat.Replacing
import IrcGateway.Proofs.Chat.Roster
import IrcGateway.Proofs.Gateway.Login
import IrcGateway.Proofs.Gateway.PrivateMessages
import IrcGateway.Proofs.Gateway.Run
import IrcGateway.Proofs.Gateway.Sending
import IrcGateway.Proofs.Gateway.Turns
import IrcGateway.Proofs.Loop
import IrcGateway.Proofs.Media.Adding
import IrcGateway.Proofs.Media.Hashes
import IrcGateway.Proofs.Media.Naming
import IrcGateway.Proofs.Media.Reopening
import IrcGateway.Proofs.Protocol.Capabilities
import IrcGateway.Proofs.Protocol.Derivations
import IrcGateway.Proofs.Protocol.Grammar
import IrcGateway.Proofs.Protocol.Hearing
import IrcGateway.Proofs.Protocol.Nicks
import IrcGateway.Proofs.Protocol.Reading
import IrcGateway.Proofs.Protocol.RoundTrip
import IrcGateway.Proofs.Protocol.Tagging
import IrcGateway.Proofs.Relay.Addressees
import IrcGateway.Proofs.Relay.ChatTimes
import IrcGateway.Proofs.Relay.Commuting
import IrcGateway.Proofs.Relay.Drafts
import IrcGateway.Proofs.Relay.Effects
import IrcGateway.Proofs.Relay.Files
import IrcGateway.Proofs.Relay.Handling
import IrcGateway.Proofs.Relay.JoinBurst
import IrcGateway.Proofs.Relay.Names
import IrcGateway.Proofs.Relay.Notes
import IrcGateway.Proofs.Relay.Notifications
import IrcGateway.Proofs.Relay.Once
import IrcGateway.Proofs.Relay.OneLine
import IrcGateway.Proofs.Relay.Presence
import IrcGateway.Proofs.Relay.Redelivery
import IrcGateway.Proofs.Relay.Replies
import IrcGateway.Proofs.Relay.Run
import IrcGateway.Proofs.Relay.Speech
import IrcGateway.Proofs.Relay.Times
import IrcGateway.Proofs.Service.Leniency
import IrcGateway.Proofs.Service.Name
import IrcGateway.Proofs.Service.RoundTrip
import IrcGateway.Proofs.Session.Answers
import IrcGateway.Proofs.Session.Capabilities
import IrcGateway.Proofs.Session.Delivery
import IrcGateway.Proofs.Session.Inbound
import IrcGateway.Proofs.Session.Nick
import IrcGateway.Proofs.Session.Outbound
import IrcGateway.Proofs.Session.Registration
import IrcGateway.Proofs.Session.Renaming
import IrcGateway.Proofs.Session.Requests
import IrcGateway.Proofs.Session.Run
import IrcGateway.Proofs.Session.Socket
import IrcGateway.Proofs.Session.Writing
import IrcGateway.Proofs.Text.OneLine
import IrcGateway.Proofs.Text.Utf8
import IrcGateway.Protocol.Capabilities
import IrcGateway.Protocol.Line
import IrcGateway.Protocol.Message
import IrcGateway.Protocol.Parser
import IrcGateway.Relay.Lines
import IrcGateway.Relay.State
import IrcGateway.Service.Client
import IrcGateway.Service.Codec
import IrcGateway.Service.Contact
import IrcGateway.Service.Event
import IrcGateway.Service.Notification
import IrcGateway.Session
import IrcGateway.Session.Reader
import IrcGateway.Settings
import IrcGateway.Text.Blank
import IrcGateway.Text.Case
import IrcGateway.Text.Digits
import IrcGateway.Text.Letter
import IrcGateway.Text.Lines
import IrcGateway.Text.Quoted
import IrcGateway.Text.Utf8
import IrcGateway.Time.Stamp
import IrcGateway.Toml.Document
import IrcGateway.Toml.Moment
import IrcGateway.Toml.Number
import IrcGateway.Toml.Strings
import IrcGateway.Toml.Table
