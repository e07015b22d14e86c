import Intercom.Url.Host
import Intercom.Url.Percent

/-!
# URLs

A URL in parts. A setter changes one part and leaves the others alone; the port is held only if it
is not the one that its scheme stands for anyway, and the segments of a path are held in their
encoded form, without the dots that name a segment itself or its parent.

Results: a port that was set is the port in effect (`effectivePort_setPort`).
-/

namespace Intercom

/-- The path of a URL: segments, or a text without structure. -/
inductive Url.Path where
  | segments (parts : List String)
  | rootless (text : String)
deriving DecidableEq, Inhabited

/-- A URL; a part that is empty text may have been absent, a part that is `none` was. -/
structure Url where
  scheme : String
  username : String := ""
  password : String := ""
  host : Option Url.Host := none
  port : Option UInt16 := none
  path : Url.Path := .segments []
  query : Option String := none
  fragment : Option String := none
deriving DecidableEq, Inhabited

namespace Url

/-- The port that a scheme stands for. -/
def defaultPort? : String → Option UInt16
  | "http" => some 80
  | "ws" => some 80
  | "https" => some 443
  | "wss" => some 443
  | "ftp" => some 21
  | _ => none

/-- Whether a scheme has a host, and backslashes that act as slashes. -/
def isSpecial (scheme : String) : Bool :=
  scheme == "file" || (defaultPort? scheme).isSome

/-- The text of a path. -/
def Path.text : Path → String
  | .segments parts => String.join (parts.map ("/" ++ ·))
  | .rootless text => text

/-- User name and password before the host. -/
def credentials (url : Url) : String :=
  if url.username.isEmpty && url.password.isEmpty then ""
  else if url.password.isEmpty then url.username ++ "@"
  else url.username ++ ":" ++ url.password ++ "@"

/-- The part between the scheme and the path. -/
def authority (url : Url) : String :=
  match url.host with
  | some host =>
      let port := match url.port with
        | some port => ":" ++ toString port.toNat
        | none => ""
      "//" ++ url.credentials ++ host.text ++ port
  | none =>
      match url.path with
      | .segments ("" :: _ :: _) => "/."
      | _ => ""

/-- The text of a URL. -/
def text (url : Url) : String :=
  let query := match url.query with
    | some query => "?" ++ query
    | none => ""
  let fragment := match url.fragment with
    | some fragment => "#" ++ fragment
    | none => ""
  url.scheme ++ ":" ++ url.authority ++ url.path.text ++ query ++ fragment

/-- The port in effect. -/
def effectivePort? (url : Url) : Option UInt16 :=
  url.port <|> defaultPort? url.scheme

/-- Whether a URL has a host to which a port can belong. -/
def carriesPort (url : Url) : Bool :=
  match url.host with
  | none => false
  | some (.domain "") => false
  | some _ => url.scheme != "file"

/-- The URL with another port, or with the one that its scheme stands for. -/
def setPort (url : Url) (port : Option UInt16) : Url :=
  { url with port := if port = defaultPort? url.scheme then none else port }

/-- A segment as one of the two names for a place in the path itself. -/
def isSingleDot (segment : String) : Bool :=
  [".", "%2e", "%2E"].contains segment

/-- A segment that names the parent. -/
def isDoubleDot (segment : String) : Bool :=
  ["..", ".%2e", ".%2E", "%2e.", "%2E.", "%2e%2e", "%2e%2E", "%2E%2e", "%2E%2E"].contains segment

/-- A drive letter with its colon. -/
def isDriveLetter (segment : String) : Bool :=
  match segment.toList with
  | [letter, ':'] => letter.isAlpha
  | _ => false

/-- The segments without the last; the drive letter of a file stays. -/
def parent (isFile : Bool) (parts : List String) : List String :=
  match parts with
  | [only] => if isFile && isDriveLetter only then [only] else []
  | parts => parts.dropLast

/-- A path with written segments appended, the dots among them resolved. The last segment is
empty where it was resolved away, so that the path ends in a slash. -/
def resolve (isFile : Bool) (parts : List String) : List String → List String
  | [] => parts
  | [last] =>
      if isDoubleDot last then parent isFile parts ++ [""]
      else if isSingleDot last then parts ++ [""]
      else parts ++ [last]
  | segment :: rest =>
      if isDoubleDot segment then resolve isFile (parent isFile parts) rest
      else if isSingleDot segment then resolve isFile parts rest
      else resolve isFile (parts ++ [segment]) rest

/-- The pieces of a text between the characters that satisfy a test. -/
def cut (isCut : Char → Bool) (text : List Char) : List (List Char) :=
  text.splitOnP isCut

/-- The segments that a text names; in a special URL a backslash ends a segment too. -/
def segmentsOf (scheme : String) (text : List Char) : List String :=
  let isCut := fun c => c = '/' || (isSpecial scheme && c = '\\')
  let text := match text with
    | c :: rest => if isCut c then rest else c :: rest
    | [] => []
  let written := (cut isCut text).map fun segment =>
    String.ofList (Percent.encode Percent.inPath segment)
  resolve (scheme == "file") [] written

/-- The three characters that are passed over wherever they stand in a URL. -/
def isIgnored (c : Char) : Bool :=
  c = '\t' || c = '\n' || c = '\r'

/-- The URL with the path that a text names. -/
def setPath (url : Url) (path : String) : Url :=
  { url with
    path := .segments (segmentsOf url.scheme (path.toList.filter fun c => !isIgnored c)) }

/-- A pair of a form. -/
def pairText (name value : String) : String :=
  String.ofList
    (Percent.encodeForm name.toList ++ '=' :: Percent.encodeForm value.toList)

/-- The URL with one more pair in its query. -/
def appendPair (url : Url) (name value : String) : Url :=
  let pair := pairText name value
  { url with
    query := match url.query with
      | none => some pair
      | some "" => some pair
      | some query => some (query ++ "&" ++ pair) }

/-- The name and the value that a part of a form is; without an equals sign it is a name alone. -/
def formPair (part : List Char) : String × String :=
  (String.ofList (Percent.decodeForm (part.takeWhile (· != '='))),
    String.ofList (Percent.decodeForm ((part.dropWhile (· != '=')).drop 1)))

/-- The pairs of a form. -/
def formPairs (text : List Char) : List (String × String) :=
  ((cut (· == '&') text).filter fun part => !part.isEmpty).map formPair

/-- The pairs that a query holds. -/
def queryPairs (url : Url) : List (String × String) :=
  formPairs (url.query.getD "").toList

theorem effectivePort_setPort (url : Url) (port : UInt16) :
    (url.setPort (some port)).effectivePort? = some port := by
  unfold setPort effectivePort?
  dsimp only
  split
  · next equal => rw [← equal]; rfl
  · rfl

end Url

end Intercom
