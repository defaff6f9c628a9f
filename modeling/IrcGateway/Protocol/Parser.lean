import IrcGateway.Protocol.Message
import IrcGateway.Text.Blank
import IrcGateway.Text.Case
import IrcGateway.Text.Lines
import IrcGateway.Text.Quoted

/-!
# Reading a line

A line is read from left to right: tags after an at sign, a source after a colon, the command word,
and parameters up to the first that a colon marks, which takes all that is left. Words are separated
by spaces alone; white space of other kinds is only skipped at the start of the line.

* `nextWord_length_lt`: taking a word off a text makes it shorter, which is why the reader ends.
-/

namespace IrcGateway.Protocol

open IrcGateway.Text

/-- Why a line is no message. -/
inductive ParseError where
  /-- There is nothing but white space. -/
  | empty
  /-- Nothing follows the tags and the source. -/
  | missingCommand
  /-- The command word holds a character other than an ASCII letter or digit. -/
  | invalidCommand (word : String)
  deriving DecidableEq, Repr

def ParseError.message : ParseError → String
  | .empty => "empty message"
  | .missingCommand => "missing command"
  | .invalidCommand word => "invalid command " ++ quoted word

/-- The first word of a text and what follows the spaces after it. -/
def nextWord (cs : List Char) : List Char × List Char :=
  match splitAtFirst ' ' cs with
  | some (word, rest) => (word, rest.dropWhile (· == ' '))
  | none => (cs, [])

private theorem length_dropWhile_le_length (p : Char → Bool) (cs : List Char) :
    (cs.dropWhile p).length ≤ cs.length := by
  induction cs with
  | nil => simp
  | cons c cs ih =>
    rw [List.dropWhile_cons]
    split
    · exact Nat.le_succ_of_le ih
    · exact Nat.le_refl _

theorem nextWord_length_lt {cs : List Char} (h : cs ≠ []) :
    (nextWord cs).2.length < cs.length := by
  unfold nextWord
  split
  · rename_i word rest hs
    obtain ⟨rfl, -⟩ := splitAtFirst_eq_some_iff.mp hs
    have := length_dropWhile_le_length (· == ' ') rest
    simp only [List.length_append, List.length_cons]
    omega
  · exact List.length_pos_iff.mpr h

/-- The tags written in one word: its non-empty pieces between semicolons, each cut at its first
equals sign. -/
def readTags (word : List Char) : List Tag :=
  ((pieces (· == ';') word).filter (fun p => !p.isEmpty)).map fun p =>
    match splitAtFirst '=' p with
    | some (key, value) => ⟨String.ofList key, some (String.ofList value)⟩
    | none => ⟨String.ofList p, none⟩

/-- The parameters of a message, from the text after its command. -/
def readParams : List Char → List String
  | [] => []
  | ':' :: trailing => [String.ofList trailing]
  | c :: cs =>
    String.ofList (nextWord (c :: cs)).1 :: readParams (nextWord (c :: cs)).2
termination_by cs => cs.length
decreasing_by exact nextWord_length_lt (List.cons_ne_nil _ _)

/-- The text without the carriage returns and line feeds at its end. -/
def dropLineEnd (cs : List Char) : List Char :=
  (cs.reverse.dropWhile (fun c => c == '\r' || c == '\n')).reverse

/-- Reads command and parameters; tags and source have been read already. -/
def readCommand (tags : List Tag) (source : Option String) (cs : List Char) :
    Except ParseError Message :=
  let (word, rest) := nextWord cs
  if word = [] then .error .missingCommand
  else if word.all Char.isAlphanum then
    .ok { tags, source, command := upper (String.ofList word), params := readParams rest }
  else .error (.invalidCommand (String.ofList word))

/-- Reads a source if there is one, then the command. -/
def readSource (tags : List Tag) (cs : List Char) : Except ParseError Message :=
  match cs with
  | ':' :: named =>
    let (name, rest) := nextWord named
    readCommand tags (some (String.ofList name)) rest
  | _ => readCommand tags none cs

/-- Reads a line from its first character that is not blank. -/
def readLine (cs : List Char) : Except ParseError Message :=
  match cs with
  | [] => .error .empty
  | '@' :: tagged =>
    let (word, rest) := nextWord tagged
    readSource (readTags word) rest
  | _ => readSource [] cs

/-- Reads one line; carriage returns and line feeds at its end do not count. -/
def Message.parse (line : String) : Except ParseError Message :=
  readLine (trimStart (dropLineEnd line.toList))

end IrcGateway.Protocol
