import IrcGateway.Protocol.Message

/-!
# Lines the gateway sends

Each kind of line is a constructor that names what the line is about; `Line.text` writes it. All but
two are messages in the form that `Message.format` gives them. The answers to PING and CAP always
mark their last parameter, so that a client finds it in the same place however many words it holds.
-/

namespace IrcGateway.Protocol

/-- The name the gateway goes by. -/
def serverName : String := "whapp-irc"

/-- The version it announces. -/
def serverVersion : String := "0.1.0"

/-- A line for the client. -/
inductive Line where
  | welcome (nick : String)
  | yourHost (nick : String)
  | created (nick : String)
  | myInfo (nick : String)
  | noMotd (nick : String)
  | join (nick channel : String)
  | part (nick channel : String)
  | kick (author channel nick : String)
  | privmsg (sender target text : String)
  | topic (nick channel text : String)
  | names (nick channel : String) (members : List String)
  | endOfNames (nick channel : String)
  | noSuchNick (nick target : String)
  | needMoreParams (nick command : String)
  | pong (token : String)
  | capabilities (subcommand : String) (tokens : List String)
  deriving DecidableEq, Repr

namespace Line

/-- A message of the gateway itself with a numeric command. -/
def numeric (code : String) (params : List String) : Message :=
  { source := some serverName, command := code, params }

/-- A message of a person. -/
def spoken (person command : String) (params : List String) : Message :=
  { source := some person, command, params }

/-- The line as it is sent, without the line end. -/
def text : Line → String
  | welcome nick =>
    (numeric "001" [nick, "Welcome to " ++ serverName ++ ", " ++ nick ++ "!"]).format
  | yourHost nick =>
    (numeric "002"
      [nick, "Your host is " ++ serverName ++ ", running version " ++ serverVersion]).format
  | created nick => (numeric "003" [nick, "This server was created today"]).format
  | myInfo nick => (numeric "004" [nick, serverName, serverVersion, "o", "o"]).format
  | noMotd nick => (numeric "422" [nick, "MOTD File is missing"]).format
  | join nick channel => (spoken nick "JOIN" [channel]).format
  | part nick channel => (spoken nick "PART" [channel]).format
  | kick author channel nick => (spoken author "KICK" [channel, nick]).format
  | privmsg sender target body => (spoken sender "PRIVMSG" [target, body]).format
  | topic nick channel title => (numeric "332" [nick, channel, title]).format
  | names nick channel members =>
    (numeric "353" [nick, "=", channel, " ".intercalate members]).format
  | endOfNames nick channel => (numeric "366" [nick, channel, "End of /NAMES list"]).format
  | noSuchNick nick target => (numeric "401" [nick, target, "No such nick/channel"]).format
  | needMoreParams nick command =>
    (numeric "461" [nick, command, "Not enough parameters"]).format
  | pong token => ":" ++ serverName ++ " PONG " ++ serverName ++ " :" ++ token
  | capabilities subcommand tokens =>
    ":" ++ serverName ++ " CAP * " ++ subcommand ++ " :" ++ " ".intercalate tokens

end Line

end IrcGateway.Protocol
