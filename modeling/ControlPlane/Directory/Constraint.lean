import ControlPlane.Pattern.Basic
import ControlPlane.Text.Ascii
import ControlPlane.Text.WhiteSpace
import ControlPlane.Validation.Rule

/-!
The constraints of the directory service. Two of the documented patterns look ahead; what they
accept is stated directly, as a property of the characters of the value.
-/

namespace ControlPlane.DirectoryConstraint

open Regex Pattern

def sizes : List String := ["Small", "Large"]

def editions : List String := ["Enterprise", "Standard"]

def isSymbol (c : Char) : Bool := !c.isAlphanum && !Text.isWhiteSpace c

def kinds (cs : List Char) : Nat :=
  [cs.any Char.isDigit, cs.any Char.isUpper, cs.any Char.isLower, cs.any isSymbol].countP id

/-- Eight to sixty-four characters, none a line feed, of at least three kinds. -/
def isAllowedPassword (value : String) : Bool :=
  let cs := value.toList
  8 ≤ cs.length && cs.length ≤ 64 && !cs.contains '\n' && 3 ≤ kinds cs

def isAliasChar (c : Char) : Bool := c.isAlphanum || c == '-'

/-- Letters, digits and hyphens, a letter or digit at either end, and not of the form of a
directory's id. -/
def isAllowedAlias (value : String) : Bool :=
  let cs := value.toList
  !Text.startsWith "d-" value && !Text.startsWith "D-" value &&
    cs.head?.any Char.isAlphanum && cs.getLast?.any Char.isAlphanum && cs.all isAliasChar

def passwordPattern : Pattern where
  source :=
    "(?=^.\x7b8,64\x7d$)((?=.*\\d)(?=.*[A-Z])(?=.*[a-z])|(?=.*\\d)(?=.*[^A-Za-z0-9\\s])(?=.*[a-z])"
      ++ "|(?=.*[^A-Za-z0-9\\s])(?=.*[A-Z])(?=.*[a-z])"
      ++ "|(?=.*\\d)(?=.*[A-Z])(?=.*[^A-Za-z0-9\\s]))^.*"
  accepts := isAllowedPassword

def aliasPattern : Pattern where
  source := "^(?!D-|d-)([\\da-zA-Z]+)([-]*[\\da-zA-Z])*$"
  accepts := isAllowedAlias

def nameRegex : Regex :=
  .seq (plus (.seq (plus alphanumeric) (.chars fun c => c == '.' || c == '-')))
    (plus alphanumeric)

def namePattern : Pattern :=
  .ofRegex "^([a-zA-Z0-9]+[\\.-])+([a-zA-Z0-9])+$" nameRegex

/-- What follows the first character may be of either kind, so one of the first kind is enough. -/
def shortNameRegex : Regex :=
  .seq (noneOf "/:*?\"<>|.") (.star (noneOf "/:*?\"<>|"))

def shortNamePattern : Pattern :=
  .ofRegex "^[^\\/:*?\"<>|.]+[^\\/:*?\"<>|]*$" shortNameRegex

def subnetIdPattern : Pattern :=
  .ofRegex "^(subnet-[0-9a-f]\x7b8\x7d|subnet-[0-9a-f]\x7b17\x7d)$"
    (.alt (.seq (literal "subnet-") (hexDigit.times 8))
      (.seq (literal "subnet-") (hexDigit.times 17)))

def directoryIdPattern : Pattern :=
  .ofRegex "^d-[0-9a-f]\x7b10\x7d$" (.seq (literal "d-") (hexDigit.times 10))

def userNamePattern : Pattern :=
  .ofRegex "^[a-zA-Z0-9._-]+$" (plus (alphanumericOr "._-"))

def between (least greatest : Char) : Regex := .chars fun c => least ≤ c && c ≤ greatest

def octetRegex : Regex :=
  .alt (.seq (literal "25") (between '0' '5'))
    (.alt (.seq (char '2') (.seq (between '0' '4') digit))
      (.seq (.optional (between '0' '1')) (.seq digit (.optional digit))))

def addressRegex : Regex :=
  .seq ((Regex.seq octetRegex (char '.')).times 3) octetRegex

def addressPattern : Pattern :=
  .ofRegex ("^(?:(?:25[0-5]|2[0-4][0-9]|[01]?[0-9][0-9]?)\\.)\x7b3\x7d"
    ++ "(?:25[0-5]|2[0-4][0-9]|[01]?[0-9][0-9]?)$") addressRegex

def directoryIdCheck (id : String) : Check := .of "directoryId" id (.satisfies directoryIdPattern)

def aliasChecks (value : String) : List Check :=
  [.of "alias" value (.lengthAtMost 62), .of "alias" value (.lengthAtLeast 1),
    .of "alias" value (.satisfies aliasPattern)]

def limitChecks (limit : Option Nat) : List Check :=
  Check.ofOption "limit" limit (.valueAtLeast 1) ++ Check.ofOption "limit" limit (.valueAtMost 100)

end ControlPlane.DirectoryConstraint
