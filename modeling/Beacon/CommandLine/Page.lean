/-!
# Pages of the command line

The program and each of its commands has a page: what it is for, which flags it takes, how it is
used, and the help that is printed for it.
-/

namespace Beacon

inductive Command where
  | serve
  | check
  deriving DecidableEq, Repr

namespace CommandLine

/-! ## Flags -/

inductive Flag where
  | verbose
  | help
  | version
  deriving DecidableEq, Repr

namespace Flag

def word : Flag → String
  | .verbose => "verbose"
  | .help => "help"
  | .version => "version"

def letter : Flag → Char
  | .verbose => 'v'
  | .help => 'h'
  | .version => 'V'

/-- A flag as a usage line shows it; one that may be repeated has dots. -/
def shown : Flag → String
  | .verbose => "--verbose..."
  | flag => "--" ++ flag.word

def about : Flag → String
  | .verbose => "Increase log verbosity (-v, -vv)"
  | .help => "Print help"
  | .version => "Print version"

def forms (flag : Flag) : String :=
  "-" ++ flag.letter.toString ++ ", " ++ flag.shown

end Flag

inductive Mention where
  | alone (flag : Flag)
  /-- As the member of a group of which it has been used. -/
  | grouped (flag : Flag)
  deriving DecidableEq, Repr

def Mention.text : Mention → String
  | .alone flag => flag.shown
  | .grouped flag => "<" ++ flag.shown ++ ">"

/-! ## Pages -/

/-- The pages: that of the program itself, and those of its commands. -/
inductive Page where
  | program
  | serve
  | check
  | help
  deriving DecidableEq, Repr

namespace Page

/-- The pages of the commands, in the order they are listed. -/
def commands : List Page :=
  [.serve, .check, .help]

def word : Page → String
  | .program => ""
  | .serve => "serve"
  | .check => "check"
  | .help => "help"

def about : Page → String
  | .program => "Example sockserve services answering over TCP or a Unix socket"
  | .serve => "Bind the configured transport and serve until interrupted (default)"
  | .check => "Probe /health on the configured transport; exit non-zero if unhealthy"
  | .help => "Print this message or the help of the given subcommand(s)"

/-- The flags that a page takes, in the order they are listed. -/
def flags : Page → List Flag
  | .program => [.verbose, .help, .version]
  | .serve => [.verbose, .help]
  | .check => [.verbose, .help]
  | .help => []

def following : Page → List Page
  | .program => commands
  | _ => []

def path (page : Page) (program : String) : String :=
  match page with
  | .program => program
  | _ => program ++ " " ++ page.word

def operands : Page → String
  | .program => "[OPTIONS] [COMMAND]"
  | .serve => "[OPTIONS]"
  | .check => "[OPTIONS]"
  | .help => "[COMMAND]..."

/-- The usage line of a page that mentions some flags, and in general when it mentions none. -/
def usage (page : Page) (program : String) (mentions : List Mention) : String :=
  let operands :=
    if mentions = [] then page.operands else " ".intercalate (mentions.map Mention.text)
  "Usage: " ++ page.path program ++ " " ++ operands

/-! ### Help -/

/-- A list with a title: the names stand in a column that is as wide as the longest one. -/
def listing (title : String) (items : List (String × String)) : List String :=
  let width := (items.map fun item => item.1.length).foldl max 0
  let line (item : String × String) : String :=
    "  " ++ item.1 ++ String.ofList (List.replicate (width - item.1.length) ' ') ++ "  " ++ item.2
  if items = [] then [] else ["", title ++ ":"] ++ items.map line

def text (page : Page) (program : String) : List String :=
  [page.about, "", page.usage program []] ++
    listing "Arguments"
      (if page = .help then [("[COMMAND]...", "Print help for the subcommand(s)")] else []) ++
    listing "Commands" (page.following.map fun command => (command.word, command.about)) ++
    listing "Options" (page.flags.map fun flag => (flag.forms, flag.about))

end Page

end CommandLine

end Beacon
