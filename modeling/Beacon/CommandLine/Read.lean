import Beacon.CommandLine.Page
import Beacon.Text.Similarity
import Beacon.Text.Utf8

/-!
# Reading the command line

The arguments are read one by one. Flags stand before or after the command; the first request for
help or the version is granted at once, and the first argument that fits nowhere ends the reading.
After two dashes every argument is a word.
-/

namespace Beacon.CommandLine

inductive Request where
  | run (command : Command) (verbosity : Nat)
  | help (page : Page)
  | version
  deriving DecidableEq, Repr

/-! ## Faults -/

/-- Why a command line cannot be read, and the page on which it fails. -/
inductive Fault where
  /-- A word is no command; some commands are similar to it. -/
  | unknownCommand (page : Page) (word : String) (similar : List String)
  /-- An argument is unknown; a flag may be similar to it. -/
  | unknownArgument (page : Page) (argument : String) (similar : Option Flag)
      (mentions : List Mention)
  /-- A command stands after two dashes. -/
  | commandAfterDashes (page : Page) (word : String)
  /-- A flag is given a value, though it takes none. -/
  | needlessValue (page : Page) (flag : Flag) (value : String) (mentions : List Mention)
  deriving DecidableEq, Repr

namespace Fault

def page : Fault → Page
  | .unknownCommand page _ _ => page
  | .unknownArgument page _ _ _ => page
  | .commandAfterDashes page _ => page
  | .needlessValue page _ _ _ => page

def mentions : Fault → List Mention
  | .unknownArgument _ _ _ mentions => mentions
  | .needlessValue _ _ _ mentions => mentions
  | _ => []

def mark (word : String) : String :=
  "'" ++ word ++ "'"

def message : Fault → String
  | .unknownCommand _ word _ => "unrecognized subcommand " ++ mark word
  | .unknownArgument _ argument _ _ => "unexpected argument " ++ mark argument ++ " found"
  | .commandAfterDashes _ word => "unexpected argument " ++ mark word ++ " found"
  | .needlessValue _ flag value _ =>
      "unexpected value " ++ mark value ++ " for " ++ mark flag.shown ++
        " found; no more were expected"

def tip? : Fault → Option String
  | .unknownCommand _ _ [] => none
  | .unknownCommand _ _ [word] => some ("a similar subcommand exists: " ++ mark word)
  | .unknownCommand _ _ words =>
      some ("some similar subcommands exist: " ++ ", ".intercalate (words.map mark))
  | .unknownArgument _ _ similar _ =>
      similar.map fun flag => "a similar argument exists: " ++ mark ("--" ++ flag.word)
  | .commandAfterDashes _ word =>
      some ("subcommand " ++ mark word ++ " exists; to use it, remove the '--' before it")
  | .needlessValue _ _ _ _ => none

def lines (fault : Fault) (program : String) : List String :=
  let tip :=
    match fault.tip? with
    | some text => ["", "  tip: " ++ text]
    | none => []
  let hint :=
    if Flag.help ∈ fault.page.flags then ["", "For more information, try '--help'."] else []
  ["error: " ++ fault.message] ++ tip ++ ["", fault.page.usage program fault.mentions] ++ hint

end Fault

/-! ## Reading -/

structure Reading where
  page : Page
  /-- The flags used on this page, in the order of their first use. -/
  used : List Flag
  /-- How often this page was asked to be verbose. -/
  count : Nat
  /-- How often the program's own page was, when this is the page of a command. -/
  above : Nat
  /-- Whether two dashes have been read. -/
  dashes : Bool

inductive Next where
  | on (reading : Reading)
  | done (request : Request)

namespace Reading

def start : Reading :=
  ⟨.program, [], 0, 0, false⟩

/-- What is asked for if no argument follows. A command's own verbosity counts, if it has any. -/
def request (reading : Reading) : Request :=
  let verbosity := if reading.count = 0 then reading.above else reading.count
  match reading.page with
  | .check => .run .check verbosity
  | _ => .run .serve verbosity

def usedWith (reading : Reading) (flag : Flag) : List Flag :=
  if flag ∈ reading.used then reading.used else reading.used ++ [flag]

def usedAnd (reading : Reading) (more : Option Flag) : List Flag :=
  (more.map reading.usedWith).getD reading.used

/-- What a usage line mentions when a flag has a needless value: the flags used so far, and that
one. The program's own flags form a group once one of them has been used, and the group comes after
the flags that are not in it. -/
def mentionsWith (reading : Reading) (flag : Flag) : List Mention :=
  match reading.page with
  | .program =>
      (if flag ∈ reading.used then [] else [.alone flag]) ++ reading.used.map Mention.grouped
  | _ => (reading.usedWith flag).map Mention.alone

def take (reading : Reading) : Flag → Next
  | .verbose => .on { reading with used := reading.usedWith .verbose, count := reading.count + 1 }
  | .help => .done (.help reading.page)
  | .version => .done .version

def command? (page : Page) (word : Octets) : Option Page :=
  page.following.find? fun command => Utf8.octets command.word == word

def wordFault (reading : Reading) (word : Octets) : Fault :=
  let shown := Utf8.display word
  if reading.page.following = [] then .unknownArgument reading.page shown none []
  else if reading.dashes ∧ (command? reading.page word).isSome then
    .commandAfterDashes reading.page shown
  else
    .unknownCommand reading.page shown
      (Similarity.suggestions shown (reading.page.following.map Page.word))

def readWord (reading : Reading) (word : Octets) : Except Fault Next :=
  match command? reading.page word with
  | some page =>
      if reading.dashes then .error (reading.wordFault word)
      else .ok (.on ⟨page, [], 0, reading.count, false⟩)
  | none => .error (reading.wordFault word)

/-- Reads an argument that is a flag's word, without its two dashes. -/
def readFlagWord (reading : Reading) (argument : Octets) : Except Fault Next :=
  let name := argument.takeWhile (· != 0x3D)
  match reading.page.flags.find? fun flag => Utf8.octets flag.word == name with
  | some flag =>
      match argument.drop name.length with
      | _ :: value =>
          .error (.needlessValue reading.page flag (Utf8.display value)
            (reading.mentionsWith flag))
      | [] => .ok (reading.take flag)
  | none =>
      let shown := Utf8.display name
      let closest := (Similarity.suggestions shown (reading.page.flags.map Flag.word)).getLast?
      let similar := closest.bind fun word => reading.page.flags.find? fun flag => flag.word == word
      .error (.unknownArgument reading.page ("--" ++ shown) similar
        ((reading.usedAnd similar).map Mention.alone))

/-- Reads the letters of flags; `broken` are the octets after them that are no text. -/
def readLetters (reading : Reading) (broken : Octets) : List Char → Except Fault Next
  | [] =>
      if broken = [] then .ok (.on reading)
      else .error (.unknownArgument reading.page ("-" ++ Utf8.display broken) none [])
  | letter :: rest =>
      match reading.page.flags.find? fun flag => flag.letter == letter with
      | some flag =>
          match reading.take flag with
          | .on reading' => readLetters reading' broken rest
          | .done request => .ok (.done request)
      | none => .error (.unknownArgument reading.page ("-" ++ letter.toString) none [])

def readArgument (reading : Reading) (argument : Octets) : Except Fault Next :=
  if reading.dashes then reading.readWord argument
  else
    match argument with
    | [0x2D, 0x2D] => .ok (.on { reading with dashes := true })
    | 0x2D :: 0x2D :: word => reading.readFlagWord word
    | 0x2D :: first :: rest =>
        let letters := Utf8.scan (first :: rest)
        reading.readLetters letters.2 letters.1
    | word => reading.readWord word

end Reading

/-- Reads the words after the command `help`, which lead to a page. -/
def readHelp (page : Page) : List Octets → Except Fault Request
  | [] => .ok (.help page)
  | word :: rest =>
      match Reading.command? page word with
      | some next => readHelp next rest
      | none => .error (.unknownCommand page (Utf8.display word) [])

def readFrom (reading : Reading) : List Octets → Except Fault Request
  | [] => .ok reading.request
  | argument :: rest =>
      match reading.readArgument argument with
      | .error fault => .error fault
      | .ok (.done request) => .ok request
      | .ok (.on reading') =>
          if reading'.page = .help then readHelp .program rest else readFrom reading' rest

def read (arguments : List Octets) : Except Fault Request :=
  readFrom .start arguments

end Beacon.CommandLine
