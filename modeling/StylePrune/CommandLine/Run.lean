import StylePrune.CommandLine.Arguments
import StylePrune.CommandLine.Directory
import StylePrune.Html.Page
import StylePrune.Json.Reader
import StylePrune.Pruning

/-!
# Runs of the program

The program as a function of its arguments and of the files that it can see.
-/

namespace StylePrune

namespace CommandLine

/-- What a run does: its exit code, its output, and the files after it. -/
structure Run where
  exit : Nat
  output : String
  /-- What is said about an error. -/
  complaint : String
  files : Directory
  deriving BEq, DecidableEq, Repr

/-- The text before a result that goes to a file. -/
def banner : String :=
  String.intercalate "\n" [
    "",
    "        ____       __    __            __",
    "       / __ \\___  / /_  / /___  ____ _/ /_",
    "      / / / / _ \\/ __ \\/ / __ \\/ __ \x60/ __/",
    "     / /_/ /  __/ /_/ / / /_/ / /_/ / /_",
    "    /_____/\\___/_.___/_/\\____/\\__,_/\\__/",
    "",
    "    Debloat - strips the CSS rules a page never uses.",
    "",
    ""]

inductive Failure
  | unreadable (what path : String)
  | invalidAllowList (path : String)
  | unwritable (path : String)
  deriving BEq, DecidableEq, Repr

namespace Failure

def message : Failure → String
  | unreadable what path => "Error reading " ++ what ++ " file " ++ path
  | invalidAllowList path => "Error parsing allow-list " ++ path
  | unwritable path => "Error writing " ++ path

end Failure

namespace Directory

def readOrFail (d : Directory) (what path : String) : Except Failure String :=
  match d.read? path with
  | some content => .ok content
  | none => .error (.unreadable what path)

def profileOf (d : Directory) (pages : List String) : Except Failure Profile :=
  pages.foldlM (fun profile path => do
    return profile.merge (Html.usedMarkup (← d.readOrFail "HTML" path))) Profile.empty

def allowListOf (d : Directory) : Option String → Except Failure (List Allow.Entry)
  | none => .ok []
  | some path => do
      match (Json.read? (← d.readOrFail "allow-list" path)).bind Allow.Entry.listOfValue? with
      | some entries => .ok entries
      | none => .error (.invalidAllowList path)

end Directory

namespace Arguments

def settings (args : Arguments) : Settings where
  catalog := if args.minimalCatalog then .minimal else .full
  preserveCritical := args.preserveCritical

def result (engine : Allow.Engine) (args : Arguments) (d : Directory) :
    Except Failure Pruned := do
  let profile ← d.profileOf args.pages
  let allow ← d.allowListOf args.allow
  let content ← d.readOrFail "CSS" args.css
  let sheet := Sheet.new args.id args.url content
  return (sheet.prune engine args.settings ⟨profile, allow⟩).1

/-- What is said about a result that goes to a file. -/
def summary (args : Arguments) (path : String) (r : Report) : String :=
  if r.fellBack then "Could not sanitize " ++ args.id ++ ", wrote it unchanged.\n"
  else
    "Wrote " ++ path ++ " (" ++ toString r.originalSize ++ " -> " ++ toString r.outputSize ++
      " bytes, " ++ toString r.kept ++ " rules kept, " ++ toString r.dropped ++ " removed).\n"

/-- Puts a result where the arguments say, with what is printed and the files after it. -/
def deliver (args : Arguments) (d : Directory) (p : Pruned) : Except Failure (String × Directory) :=
  match args.output with
  | none => .ok (p.css, d)
  | some path =>
      match d.write? path p.css with
      | none => .error (.unwritable path)
      | some files => .ok (args.summary path p.report, files)

def run (engine : Allow.Engine) (args : Arguments) (d : Directory) : Run :=
  let lead := if args.output.isSome then banner else ""
  match (args.result engine d).bind (args.deliver d) with
  | .ok (text, files) => ⟨0, lead ++ text, "", files⟩
  | .error e => ⟨1, lead, e.message ++ "\n", d⟩

end Arguments

def usage : String :=
  "Usage: debloat [OPTIONS] --html <HTML> <CSS>\n"

def helpText : String :=
  "Remove unused rules from a stylesheet\n\n" ++ usage ++ String.intercalate "\n" [
    "",
    "Arguments:",
    "  <CSS>  Stylesheet to reduce",
    "",
    "Options:",
    "      --html <HTML>           HTML page(s) whose markup decides which rules survive",
    "      --url <URL>             URL the stylesheet was loaded from; relative url()s resolve " ++
      "against it [default: ]",
    "      --id <ID>               Stylesheet handle used to scope allow-list entries " ++
      "[default: stylesheet]",
    "      --allow <ALLOW>         JSON file with a list of allow-list entries",
    "      --no-preserve-critical  Do not force-keep the common layout selectors (containers, " ++
      "header, nav, ...)",
    "      --minimal-catalog       Only keep structural selectors, not the built-in WordPress " ++
      "classes and tags",
    "  -o, --output <OUTPUT>       Write the result here instead of stdout",
    "  -v, --verbose               Debug logging",
    "  -h, --help                  Print help",
    ""]

def run (engine : Allow.Engine) (words : List String) (d : Directory) : Run :=
  match Request.ofList? words with
  | none => ⟨2, "", usage, d⟩
  | some .help => ⟨0, helpText, "", d⟩
  | some (.prune args) => args.run engine d

end CommandLine

end StylePrune
