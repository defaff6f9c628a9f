import IrcGateway.Map.Provider
import IrcGateway.Service.Event
import IrcGateway.Text.Letter
import IrcGateway.Text.Lines

/-!
# What a client is shown of an event

An event becomes one text: a link to a map for a location, the address of the stored file and its
caption for media, otherwise the body with its mentions resolved. The text is then relayed line by
line.

A text mentions people as `@` and the user part of their identifier. For the reader each mention is
replaced by the name of the person, unless it is only the beginning of a longer token.
-/

namespace IrcGateway.Chat

open IrcGateway.Text IrcGateway.Service

/-! ### Mentions -/

/-- A character that continues a token. -/
def continuesToken (c : Char) : Bool :=
  isLetterOrDigit c || c == '_'

/-- The text with every mention of `user` replaced by `name`. Mentions are found from left to right;
one that continues into a longer token is kept, and the search goes on behind it. -/
def replaceMention (user name : List Char) : List Char → List Char
  | [] => []
  | c :: cs =>
    if ('@' :: user).isPrefixOf (c :: cs) then
      let after := cs.drop user.length
      if after.head?.any continuesToken then '@' :: (user ++ replaceMention user name after)
      else '@' :: (name ++ replaceMention user name after)
    else c :: replaceMention user name cs
termination_by cs => cs.length
decreasing_by
  all_goals simp only [List.length_drop, List.length_cons]
  all_goals omega

/-- The name that a mention of `id` is replaced by: the account's own name, or that of the member of
the chat. An unknown person, or one without a name, has none. -/
def mentionName? (account : Account) (members : List Participant) (id : ContactId) :
    Option String :=
  let name? :=
    if id = account.id then some account.pushName
    else (members.find? (fun p => p.id == id)).map Participant.safeName
  name?.filter (· != "")

/-- The text with the mentions of all listed people replaced, one after the other. -/
def resolveMentions (account : Account) (members : List Participant) (mentioned : List ContactId)
    (text : String) : String :=
  mentioned.foldl
    (fun text id =>
      match mentionName? account members id with
      | some name => String.ofList (replaceMention id.user.toList name.toList text.toList)
      | none => text)
    text

/-! ### Texts and their lines -/

/-- Stands for a file that is not stored. -/
def missingFile : String := "--file--"

/-- The text of an event, where `fileUrl` finds the address of a stored file by its hash. -/
def render (provider : Map.Provider) (account : Account) (members : List Participant)
    (fileUrl : String → Option String) (e : Event) : String :=
  match e.location, e.media with
  | some place, _ => provider.link place.latitude place.longitude
  | none, some media =>
    let file := (fileUrl media.fileHash).getD missingFile
    if media.caption = "" then file
    else file ++ " " ++ resolveMentions account members e.mentionedIds media.caption
  | none, none => resolveMentions account members e.mentionedIds e.body

/-- The lines of a text that hold more than white space; a text without any is one empty line. -/
def textLines (text : String) : List String :=
  match (bodyLines text.toList).filter (fun line => !(trim line).isEmpty) with
  | [] => [""]
  | lines => lines.map String.ofList

end IrcGateway.Chat
