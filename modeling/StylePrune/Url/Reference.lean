import StylePrune.Text.Blank
import StylePrune.Text.Scalar

/-!
# References to resources

Which references are relative to the directory of a stylesheet, and the reference that
names the same resource from elsewhere.
-/

namespace StylePrune

namespace Url

open Text

/-- The text before the first `?` or `#`. -/
def pathPart (url : List Char) : List Char :=
  url.takeWhile fun c => c != '?' && c != '#'

/-- The text up to its last `/`, this one included. -/
def directoryPart (path : List Char) : List Char :=
  (path.reverse.dropWhile (· != '/')).reverse

/-- The directory of a stylesheet: its URL without query, fragment and file name. -/
def baseOf (sheet : List Char) : List Char :=
  directoryPart (pathPart sheet)

/-- Letters, digits, `+`, `-` and `.` may follow the first letter of a scheme. -/
def isSchemeChar (c : Char) : Bool :=
  isAsciiAlphanumeric c || c == '+' || c == '-' || c == '.'

/-- The text names a scheme before a colon. -/
def isScheme : List Char → Bool
  | [] => false
  | c :: rest => isAsciiLetter c && rest.all isSchemeChar

def hasScheme (url : List Char) : Bool :=
  url.contains ':' && isScheme (url.takeWhile (· != ':'))

def startsWith (start s : List Char) : Bool :=
  start.isPrefixOf s

/-- The reference depends on the directory of its stylesheet. -/
def isRelative (url : List Char) : Bool :=
  let url := trim url
  !hasScheme url && !startsWith ['/', '/'] url && !(pathPart url).isEmpty &&
    !startsWith ['/'] (pathPart url)

/-- The reference with `base` in front, if it is relative and there is a base. -/
def rebase? (base url : List Char) : Option (List Char) :=
  if base.isEmpty || !isRelative url then none else some (base ++ trim url)

def rebase (base url : List Char) : List Char :=
  (rebase? base url).getD url

end Url

end StylePrune
