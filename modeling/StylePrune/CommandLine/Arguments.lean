/-!
# Arguments

The arguments of the command line: the stylesheet, options with values, and switches.  They are
read from left to right, up to one that asks for help.
-/

namespace StylePrune

namespace CommandLine

/-- An option with a value. -/
inductive Setting
  | html
  | url
  | id
  | allow
  | output
  deriving BEq, DecidableEq, Repr

/-- An option without a value. -/
inductive Switch
  | noPreserveCritical
  | minimalCatalog
  | verbose
  deriving BEq, DecidableEq, Repr

inductive Given
  | setting (key : Setting) (value : String)
  | switch (key : Switch)
  | operand (value : String)
  | help
  deriving DecidableEq, Repr

inductive Key
  | setting (key : Setting)
  | switch (key : Switch)
  | help

def longKey? (name : String) : Option Key :=
  match name with
  | "html" => some (.setting .html)
  | "url" => some (.setting .url)
  | "id" => some (.setting .id)
  | "allow" => some (.setting .allow)
  | "output" => some (.setting .output)
  | "no-preserve-critical" => some (.switch .noPreserveCritical)
  | "minimal-catalog" => some (.switch .minimalCatalog)
  | "verbose" => some (.switch .verbose)
  | "help" => some .help
  | _ => none

def shortKey? (c : Char) : Option Key :=
  match c with
  | 'o' => some (.setting .output)
  | 'v' => some (.switch .verbose)
  | 'h' => some .help
  | _ => none

/-- What one argument says, or the option whose value comes next. -/
structure Reading where
  given : List Given
  waiting : Option Setting

def readLong (arg : List Char) : Option Reading :=
  let name := String.ofList (arg.takeWhile (· != '='))
  let value : Option String :=
    match arg.dropWhile (· != '=') with
    | [] => none
    | _ :: value => some (String.ofList value)
  match longKey? name, value with
  | some (.setting key), some value => some ⟨[.setting key value], none⟩
  | some (.setting key), none => some ⟨[], some key⟩
  | some (.switch key), none => some ⟨[.switch key], none⟩
  | some .help, none => some ⟨[.help], none⟩
  | some (.switch _), some _ => none
  | some .help, some _ => none
  | none, _ => none

/--
Options of one letter, where the value of one may follow it at once or after `=`.  What follows
a call for help is not read.
-/
def readShort : List Char → Option Reading
  | [] => some ⟨[], none⟩
  | c :: rest =>
      match shortKey? c with
      | none => none
      | some .help => some ⟨[.help], none⟩
      | some (.switch key) =>
          (readShort rest).map fun r => { r with given := .switch key :: r.given }
      | some (.setting key) =>
          match rest with
          | [] => some ⟨[], some key⟩
          | '=' :: value => some ⟨[.setting key (String.ofList value)], none⟩
          | value => some ⟨[.setting key (String.ofList value)], none⟩

/-- What an argument says in front of others; after a call for help nothing counts. -/
def Reading.before (r : Reading) (more : Option (List Given)) : Option (List Given) :=
  if r.given.contains .help then some r.given else more.map (r.given ++ ·)

inductive Shape
  /-- `--`, after which everything is an operand. -/
  | marker
  | long (rest : List Char)
  | short (rest : List Char)
  | operand

def shapeOf (arg : List Char) : Shape :=
  match arg with
  | ['-', '-'] => .marker
  | '-' :: '-' :: rest => .long rest
  | ['-'] => .operand
  | '-' :: rest => .short rest
  | _ => .operand

/-- The meaning of arguments, where `waiting` is an option without its value yet. -/
def readAll (waiting : Option Setting) : List String → Option (List Given)
  | [] => if waiting.isSome then none else some []
  | arg :: rest =>
      match shapeOf arg.toList, waiting with
      | .operand, some key => (readAll none rest).map (Given.setting key arg :: ·)
      | _, some _ => none
      | .operand, none => (readAll none rest).map (Given.operand arg :: ·)
      | .marker, none => some (rest.map Given.operand)
      | .long chars, none => (readLong chars).bind fun r => r.before (readAll r.waiting rest)
      | .short chars, none => (readShort chars).bind fun r => r.before (readAll r.waiting rest)

structure Arguments where
  css : String
  pages : List String
  url : String
  id : String
  allow : Option String
  preserveCritical : Bool
  minimalCatalog : Bool
  output : Option String
  deriving BEq, DecidableEq, Repr

namespace Arguments

def valuesOf (key : Setting) (given : List Given) : List String :=
  given.filterMap fun
    | .setting k value => if k = key then some value else none
    | _ => none

def operandsOf (given : List Given) : List String :=
  given.filterMap fun
    | .operand value => some value
    | _ => none

def pathsOf (given : List Given) : List String :=
  operandsOf given ++ valuesOf .html given ++ valuesOf .allow given ++ valuesOf .output given

/-- Nothing but pages is there twice, and no file has an empty name. -/
def isSound (given : List Given) : Bool :=
  (operandsOf given).length ≤ 1 &&
    [Setting.url, .id, .allow, .output].all (fun key => (valuesOf key given).length ≤ 1) &&
    [Switch.noPreserveCritical, .minimalCatalog, .verbose].all
      (fun key => given.count (.switch key) ≤ 1) &&
    (pathsOf given).all (· != "")

/-- Puts the arguments together: a stylesheet, and one page at least. -/
def ofGiven? (given : List Given) : Option Arguments :=
  match operandsOf given with
  | [] => none
  | css :: _ =>
      let pages := valuesOf .html given
      let value? (key : Setting) := (valuesOf key given).head?
      if pages.isEmpty || !isSound given then none
      else some {
        css, pages
        url := (value? .url).getD ""
        id := (value? .id).getD "stylesheet"
        allow := value? .allow
        preserveCritical := !given.contains (.switch .noPreserveCritical)
        minimalCatalog := given.contains (.switch .minimalCatalog)
        output := value? .output }

end Arguments

inductive Request
  | help
  | prune (args : Arguments)
  deriving BEq, DecidableEq, Repr

namespace Request

/-- What is asked for by some arguments; help needs no stylesheet and no pages. -/
def ofGiven? (given : List Given) : Option Request :=
  if given.contains .help then
    if Arguments.isSound given then some .help else none
  else (Arguments.ofGiven? given).map .prune

def ofList? (words : List String) : Option Request :=
  (readAll none words).bind ofGiven?

end Request

end CommandLine

end StylePrune
