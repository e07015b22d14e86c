import Intercom.Url
import Intercom.Url.Domain

/-!
# Reading URLs

`Url.parse` reads an absolute URL from left to right: scheme, user and password, host, port, path,
query, fragment. Blank and control characters at both ends and tabs and line ends anywhere are
passed over. Each reader takes the text that is left and gives back what it leaves.
-/

namespace Intercom.Url

/-- A text without the control characters and spaces at its ends and without ignored characters. -/
def tidy (text : List Char) : List Char :=
  let isEdge := fun c : Char => c.toNat ≤ 0x20
  let inner := ((text.dropWhile isEdge).reverse.dropWhile isEdge).reverse
  inner.filter fun c => !isIgnored c

/-- Whether a character may stand in a scheme after its first letter. -/
def inScheme (c : Char) : Bool :=
  c.isAlphanum || c = '+' || c = '-' || c = '.'

/-- The scheme of a text, in lower case, and the text after its colon. -/
def readScheme? (text : List Char) : Option (String × List Char) :=
  match text with
  | first :: _ =>
      if first.isAlpha then
        match text.span inScheme with
        | (scheme, ':' :: rest) => some (String.ofList (scheme.map Char.toLower), rest)
        | _ => none
      else none
  | [] => none

/-- Whether a character ends the part with host and port. -/
def endsAuthority (special : Bool) (c : Char) : Bool :=
  c = '/' || c = '?' || c = '#' || (special && c = '\\')

/-- The text before and after the last occurrence of a character. -/
def splitLast? (mark : Char) (text : List Char) : Option (List Char × List Char) :=
  match text.reverse.span (· != mark) with
  | (after, _ :: before) => some (before.reverse, after.reverse)
  | (_, []) => none

/-- User name and password of a text before an at sign. -/
def readUserInfo (text : List Char) : String × String :=
  let encoded := fun part => String.ofList (Percent.encode Percent.inUserInfo part)
  (encoded (text.takeWhile (· != ':')), encoded ((text.dropWhile (· != ':')).drop 1))

/-- The text of a host up to a colon outside brackets, and the rest. -/
def spanHost (special : Bool) : Bool → List Char → List Char × List Char
  | _, [] => ([], [])
  | inBrackets, c :: rest =>
      if endsAuthority special c || (c = ':' && !inBrackets) then ([], c :: rest)
      else
        let inBrackets := if c = '[' then true else if c = ']' then false else inBrackets
        let (host, after) := spanHost special inBrackets rest
        (c :: host, after)

/-- The text between brackets, if a text starts with one. -/
def bracketed? (text : List Char) : Option (Except Fault (List Char)) :=
  match text with
  | '[' :: rest =>
      match rest.reverse with
      | ']' :: inner => some (.ok inner.reverse)
      | _ => some (.error .invalidIpv6)
  | _ => none

/-- The address between brackets. -/
def addressOf (inner : Except Fault (List Char)) : Except Fault Host :=
  match inner with
  | .error fault => .error fault
  | .ok text =>
      match Ipv6.parse? text with
      | some pieces => .ok (.ipv6 pieces)
      | none => .error .invalidIpv6

/-- The host of a special URL. -/
def parseHost (text : List Char) : Except Fault Host :=
  match bracketed? text with
  | some inner => addressOf inner
  | none =>
      match (Percent.decode? text).bind Domain.toAscii? with
      | none => .error .invalidDomain
      | some name =>
          if name.isEmpty then .error .emptyHost
          else if Ipv4.endsInNumber name then
            match Ipv4.parse? name with
            | some address => .ok (.ipv4 address)
            | none => .error .invalidIpv4
          else .ok (.domain (String.ofList name))

/-- Whether a character may not stand in the host of a URL that is not special. -/
def isForbidden (c : Char) : Bool :=
  "\x00\t\n\r #/:<>?@[\\]^|".toList.contains c

/-- The host of a URL that is not special. -/
def parseOtherHost (text : List Char) : Except Fault Host :=
  match bracketed? text with
  | some inner => addressOf inner
  | none =>
      if text.any isForbidden then .error .invalidCharacter
      else .ok (.domain (String.ofList (Percent.encode Percent.inRootlessPath text)))

/-- A port and the text after it; digits alone may stand before the end of the authority. -/
def parsePort (scheme : String) (text : List Char) : Except Fault (Option UInt16 × List Char) :=
  let digits := text.takeWhile Char.isDigit
  let rest := text.dropWhile Char.isDigit
  let value := Text.numberOf 10 digits
  if UInt16.size ≤ value then .error .invalidPort
  else
    let ends := match rest with
      | [] => true
      | c :: _ => endsAuthority true c
    if !ends then .error .invalidPort
    else if digits.isEmpty then .ok (none, rest)
    else
      let port := UInt16.ofNat value
      .ok (if defaultPort? scheme = some port then none else some port, rest)

/-- Query and fragment of the text after the path. -/
def withTail (url : Url) (text : List Char) : Url :=
  let (beforeFragment, fragment) := match text.span (· != '#') with
    | (before, _ :: fragment) =>
        (before, some (String.ofList (Percent.encode Percent.inFragment fragment)))
    | (before, []) => (before, none)
  let stands := if isSpecial url.scheme then Percent.inSpecialQuery else Percent.inQuery
  let query := match beforeFragment with
    | '?' :: query => some (String.ofList (Percent.encode stands query))
    | _ => none
  { url with query, fragment }

/-- Whether a character ends the path. -/
def endsPath (c : Char) : Bool :=
  c = '?' || c = '#'

/-- Path, query and fragment of a URL whose other parts are known. A special URL always has a
path, another one may go without. -/
def withPath (url : Url) (text : List Char) : Url :=
  let (path, tail) := text.span fun c => !endsPath c
  let parts :=
    if path.isEmpty && !isSpecial url.scheme then [] else segmentsOf url.scheme path
  withTail { url with path := .segments parts } tail

/-- The text before the last at sign of an authority, and the text from the host on. -/
def splitUserInfo (special : Bool) (text : List Char) : Option (List Char) × List Char :=
  let (authority, tail) := text.span fun c => !endsAuthority special c
  match splitLast? '@' authority with
  | some (userInfo, rest) => (some userInfo, rest ++ tail)
  | none => (none, text)

/-- The host of an authority, which may be absent from some. -/
def readHost (special mayLack : Bool) (text : List Char) : Except Fault Host :=
  if text.isEmpty && !mayLack then .error .emptyHost
  else if special then parseHost text
  else parseOtherHost text

/-- The port after a host, if there is a colon, and the text after it. -/
def readPort (scheme : String) (text : List Char) : Except Fault (Option UInt16 × List Char) :=
  match text with
  | ':' :: rest => parsePort scheme rest
  | _ => .ok (none, text)

/-- The parts after two slashes: user and password, host, port and what follows. A special URL has a
host, and so has one with a user or a port. -/
def parseAuthority (scheme : String) (text : List Char) : Except Fault Url := do
  let special := isSpecial scheme
  let (userInfo, place) := splitUserInfo special text
  let (hostText, rest) := spanHost special false place
  let mayLack := !special && userInfo.isNone && rest.head? != some ':'
  let host ← readHost special mayLack hostText
  let (port, rest) ← readPort scheme rest
  let (username, password) := readUserInfo (userInfo.getD [])
  return withPath { scheme, username, password, host := some host, port } rest

/-- A file's URL: a host only after two slashes, and none of it a drive letter. -/
def parseFile (text : List Char) : Except Fault Url := do
  let isSlash := fun c : Char => c = '/' || c = '\\'
  let base : Url := { scheme := "file", host := some (.domain "") }
  match text with
  | first :: second :: rest =>
      if isSlash first && isSlash second then
        let (hostText, tail) := rest.span fun c => !endsAuthority true c
        let isDrive := match hostText with
          | [letter, mark] => letter.isAlpha && (mark = ':' || mark = '|')
          | _ => false
        if hostText.isEmpty then return withPath base tail
        else if isDrive then return withPath base rest
        else
          let host ← parseHost hostText
          let host := if host = .domain "localhost" then .domain "" else host
          return withPath { base with host := some host } tail
      else return withPath base text
  | _ => return withPath base text

/-- A URL whose scheme asks for no host. -/
def parseOther (scheme : String) (text : List Char) : Except Fault Url :=
  match text with
  | '/' :: '/' :: rest => parseAuthority scheme rest
  | '/' :: _ => .ok (withPath { scheme } text)
  | _ =>
      let (path, tail) := text.span fun c => !endsPath c
      let encoded := String.ofList (Percent.encode Percent.inRootlessPath path)
      .ok (withTail { scheme, path := .rootless encoded } tail)

/-- The URL that a text is. -/
def parse (text : String) : Except Fault Url :=
  match readScheme? (tidy text.toList) with
  | none => .error .relativeWithoutBase
  | some (scheme, rest) =>
      if scheme = "file" then parseFile rest
      else if isSpecial scheme then
        parseAuthority scheme (rest.dropWhile fun c => c = '/' || c = '\\')
      else parseOther scheme rest

end Intercom.Url
