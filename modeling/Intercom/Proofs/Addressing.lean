import Mathlib
import Intercom.Proofs.Form
import Intercom.Proofs.HostText

/-!
# The address of a socket

An endpoint is built from a host and settings, of which the last of each kind counts. Its URL is at
the scheme, the port and the path that were set, and tells the device and the token that were set.
The host may be any text. If it says more than a name and a port, then the port and the path in it
are replaced, but a user, a fragment and a query in it are taken over.

Results:
1. `addressed`: what the URL of an endpoint says after any settings.
2. `alone_iff`: when the URL of an endpoint says nothing else.
-/

namespace Intercom

open Url

/-! ## Definitions -/

/-- A setting of an endpoint. -/
inductive Endpoint.Setting where
  | secure (secure : Bool)
  | port (port : UInt16)
  | withoutPort
  | path (path : String)
  | device (device : String)
  | token (token : Option String)
  | tokenFrom (store : Unit → Option String)

namespace Endpoint.Setting

def apply (endpoint : Endpoint) : Setting → Endpoint
  | .secure flag => endpoint.withSecure flag
  | .port number => endpoint.withPort number
  | .withoutPort => endpoint.withoutPort
  | .path text => endpoint.withPath text
  | .device name => endpoint.withDevice name
  | .token text => endpoint.withToken text
  | .tokenFrom store => endpoint.tokenFrom store

/-! What a setting says of a part of the address. -/

def secure? : Setting → Option Bool
  | .secure flag => some flag
  | _ => none

def port? : Setting → Option (Option UInt16)
  | .port number => some (some number)
  | .withoutPort => some none
  | _ => none

def device? : Setting → Option String
  | .device name => some name
  | _ => none

def token? : Setting → Option (Option String)
  | .token text => some text
  | .tokenFrom store => some (store ())
  | _ => none

/-- What the last of the settings says that says anything. -/
def last {α : Type} (read : Setting → Option α) (settings : List Setting) : Option α :=
  (settings.filterMap read).getLast?

end Endpoint.Setting

namespace Endpoint

open Setting

/-- The endpoint that settings make of a host. -/
def build (host : String) (settings : List Setting) : Endpoint :=
  settings.foldl Setting.apply (ofHost host)

/-- `Addressed host settings url`: the URL is where the settings say, and its query holds the pairs
of the host text, the device and the token, in this order. -/
structure Addressed (host : String) (settings : List Setting) (url : Url) : Prop where
  scheme : url.scheme = if (last secure? settings).getD false then "wss" else "ws"
  /-- A port that was set, or the usual one; without a port, the one that the scheme stands for. -/
  port : url.effectivePort? = some (((last port? settings).getD (some 2026)).getD
    (if (last secure? settings).getD false then 443 else 80))
  pairs : url.queryPairs = formPairs ((HostText.ofString host).query.getD []) ++
    ((last device? settings).toList.map fun device => ("device", device)) ++
    ((((last token? settings).getD none).filter (· ≠ "")).toList.map fun token => ("token", token))

/-- The pairs that an endpoint adds to the query. -/
def pairs (endpoint : Endpoint) : List (String × String) :=
  (endpoint.device.toList.map fun device => ("device", device)) ++
    endpoint.token.toList.map fun token => ("token", token)

end Endpoint

/-- A query of nothing but pairs. -/
def Url.queryOf : List (String × String) → Option String
  | [] => none
  | pairs => some (String.intercalate "&" (pairs.map fun pair => pairText pair.1 pair.2))

/-- A query that may be there, and more of it. -/
def Url.joined (there : Option String) (more : String) : String :=
  match there with
  | none => more
  | some "" => more
  | some query => query ++ "&" ++ more

/-- A query that may be there, and pairs that may come after it. -/
def Url.extended (there : Option String) (pairs : List (String × String)) : Option String :=
  match queryOf pairs with
  | none => there
  | some more => some (joined there more)

/-- `endpoint.Alone url`: the URL has no user, no password, no fragment, and no query but the pairs
of the endpoint. -/
structure Endpoint.Alone (endpoint : Endpoint) (url : Url) : Prop where
  username : url.username = ""
  password : url.password = ""
  fragment : url.fragment = none
  query : url.query = queryOf endpoint.pairs

namespace HostText

/-- `parts.TakenOver pairs url`: user, password, fragment and query of the host text stand in the
URL, the query with the pairs after it. -/
structure TakenOver (parts : HostText) (pairs : List (String × String)) (url : Url) : Prop where
  user : (url.username, url.password) = readUserInfo (parts.userInfo.getD [])
  fragment : url.fragment = parts.fragment.map fun fragment =>
    String.ofList (Percent.encode Percent.inFragment fragment)
  query : url.query = extended
    (parts.query.map fun query => String.ofList (Percent.encode Percent.inSpecialQuery query))
    pairs

/-- `parts.Bare pairs`: the host text has no user, password, fragment or query in it, but maybe the
marks of an empty one that leaves no trace. -/
structure Bare (parts : HostText) (pairs : List (String × String)) : Prop where
  user : parts.userInfo.getD [] = [] ∨ parts.userInfo.getD [] = [':']
  fragment : parts.fragment = none
  query : parts.query = none ∨ parts.query = some [] ∧ pairs ≠ []

end HostText

/-! ## Settings -/

namespace Endpoint

open Setting

variable {α : Type}

theorem last_append (read : Setting → Option α) (settings : List Setting) (setting : Setting) :
    last read (settings ++ [setting]) = (read setting).or (last read settings) := by
  cases said : read setting <;> simp [last, said]

theorem build_append (host : String) (settings : List Setting) (setting : Setting) :
    build host (settings ++ [setting]) = setting.apply (build host settings) := by
  simp [build]

theorem filter_filled (token : Option String) :
    (token.filter fun text => !text.isEmpty) = token.filter (· ≠ "") := by
  refine congrArg (Option.filter · token) (funext fun text => ?_)
  rw [Bool.eq_iff_iff]
  simp

/-- What the settings make of a host, part by part. -/
theorem build_eq (host : String) (settings : List Setting) :
    (build host settings).host = host ∧
      (build host settings).secure = (last secure? settings).getD false ∧
      (build host settings).port = (last port? settings).getD (some 2026) ∧
      (build host settings).device = last device? settings ∧
      (build host settings).token = ((last token? settings).getD none).filter (· ≠ "") := by
  induction settings using List.reverseRecOn with
  | nil => exact ⟨rfl, rfl, rfl, rfl, rfl⟩
  | append_singleton settings setting ih =>
      obtain ⟨host, secure, port, device, token⟩ := ih
      simp only [build_append, last_append]
      cases setting with
      | secure => exact ⟨host, rfl, port, device, token⟩
      | port => exact ⟨host, secure, rfl, device, token⟩
      | withoutPort => exact ⟨host, secure, rfl, device, token⟩
      | path => exact ⟨host, secure, port, device, token⟩
      | device => exact ⟨host, secure, port, rfl, token⟩
      | token text => exact ⟨host, secure, port, device, filter_filled text⟩
      | tokenFrom store => exact ⟨host, secure, port, device, filter_filled (store ())⟩

end Endpoint

/-! ## The query -/

namespace Url

theorem pairText_ne_empty (name value : String) : pairText name value ≠ "" := by
  intro blank
  have texts := congrArg String.toList blank
  simp [pairText] at texts

theorem joined_of_ne {query : String} (filled : query ≠ "") (more : String) :
    joined (some query) more = query ++ "&" ++ more := by
  unfold joined
  split
  · next absent => cases absent
  · next blank => exact absurd (Option.some.inj blank) filled
  · next same =>
      cases same
      rfl

theorem joined_joined (there : Option String) {more : String} (filled : more ≠ "")
    (last : String) :
    joined (some (joined there more)) last = joined there (more ++ "&" ++ last) := by
  cases there with
  | none => exact joined_of_ne filled last
  | some query =>
      by_cases blank : query = ""
      · subst blank
        exact joined_of_ne filled last
      · have longer : query ++ "&" ++ more ≠ "" := by
          simp [String.append_eq_empty_iff]
        rw [joined_of_ne blank, joined_of_ne blank, joined_of_ne longer]
        simp only [String.append_assoc]

theorem query_appendPair (url : Url) (name value : String) :
    (url.appendPair name value).query = some (joined url.query (pairText name value)) := by
  unfold appendPair
  dsimp only
  split
  · next absent =>
      rw [absent]
      rfl
  · next blank =>
      rw [blank]
      rfl
  · next filled stands => rw [stands, joined_of_ne filled]

end Url

namespace Endpoint

theorem appendIfSet_frame (url : Url) (name : String) (value : Option String) :
    ∃ query, appendIfSet url name value = { url with query } := by
  cases value <;> exact ⟨_, rfl⟩

theorem queryPairs_appendIfSet (url : Url) (name : String) (value : Option String) :
    (appendIfSet url name value).queryPairs =
      url.queryPairs ++ value.toList.map fun value => (name, value) := by
  cases value with
  | none => simp [appendIfSet]
  | some value => simp [appendIfSet, queryPairs_appendPair]

/-- An endpoint changes nothing but port, path and query. -/
theorem complete_frame (endpoint : Endpoint) (url : Url) :
    ∃ path query, endpoint.complete url = { url.setPort endpoint.port with path, query } := by
  unfold complete
  dsimp only
  obtain ⟨_, device⟩ := appendIfSet_frame ((url.setPort endpoint.port).setPath endpoint.path)
    "device" endpoint.device
  rw [device]
  obtain ⟨_, token⟩ := appendIfSet_frame _ "token" endpoint.token
  rw [token]
  exact ⟨_, _, rfl⟩

theorem queryPairs_complete (endpoint : Endpoint) (url : Url) :
    (endpoint.complete url).queryPairs = url.queryPairs ++ endpoint.pairs := by
  unfold complete
  dsimp only
  rw [queryPairs_appendIfSet, queryPairs_appendIfSet, List.append_assoc]
  rfl

theorem query_complete (endpoint : Endpoint) (url : Url) :
    (endpoint.complete url).query = extended url.query endpoint.pairs := by
  unfold complete pairs
  cases endpoint.device with
  | none =>
      cases endpoint.token with
      | none => rfl
      | some token => exact query_appendPair _ "token" token
  | some device =>
      cases endpoint.token with
      | none => exact query_appendPair _ "device" device
      | some token =>
          have first := query_appendPair ((url.setPort endpoint.port).setPath endpoint.path)
            "device" device
          refine (query_appendPair _ "token" token).trans ?_
          rw [appendIfSet, first, joined_joined _ (pairText_ne_empty "device" device)]
          exact congrArg (fun text => some (joined url.query text)) (by simp)

end Endpoint

theorem HostText.queryPairs_url (parts : HostText) (scheme : String) (address : Host) :
    (parts.url scheme address).queryPairs = formPairs (parts.query.getD []) := by
  unfold queryPairs HostText.url
  dsimp only
  cases parts.query with
  | none => rfl
  | some query =>
      rw [Option.map_some, Option.getD_some, String.toList_ofList, formPairs_encode,
        Option.getD_some]

/-! ## What a URL says -/

namespace Endpoint

open Setting

theorem effectivePort_complete (endpoint : Endpoint) {url : Url}
    (same : url.scheme = endpoint.scheme) :
    (endpoint.complete url).effectivePort? =
      some (endpoint.port.getD (if endpoint.secure then 443 else 80)) := by
  obtain ⟨path, query, framed⟩ := endpoint.complete_frame url
  have kept : (endpoint.complete url).effectivePort? =
      (url.setPort endpoint.port).effectivePort? := by
    rw [framed]
    rfl
  rw [kept]
  cases endpoint.port with
  | some port => exact url.effectivePort_setPort port
  | none =>
      have default : (url.setPort none).effectivePort? = defaultPort? url.scheme := by
        unfold setPort effectivePort?
        cases defaultPort? url.scheme <;> rfl
      rw [default, same, scheme]
      cases endpoint.secure <;> rfl

/-- An endpoint has a URL whenever its host names an address, and fails as its host does if not. -/
theorem url_cases (endpoint : Endpoint) :
    (∀ failure, endpoint.url = .error failure ↔
      HostText.target endpoint.host = .error failure) ∧
    ∀ url, endpoint.url = .ok url ↔ ∃ address, HostText.target endpoint.host = .ok address ∧
      url = endpoint.complete ((HostText.ofString endpoint.host).url endpoint.scheme address) := by
  rw [endpoint.url_eq]
  cases HostText.target endpoint.host with
  | error failure => simp [Except.map]
  | ok address => simp [Except.map, eq_comm]

/-- Whether an endpoint has a URL, and why not, depends on its host alone. If it has one, then the
last settings of each kind decide what it says, and the query of the host text comes before device
and token. -/
theorem addressed (host : String) (settings : List Setting) :
    (∀ failure, (build host settings).url = .error failure ↔
      HostText.target host = .error failure) ∧
    ∀ url, (build host settings).url = .ok url → Addressed host settings url := by
  obtain ⟨same, secure, port, device, token⟩ := build_eq host settings
  obtain ⟨fails, succeeds⟩ := (build host settings).url_cases
  rw [same] at fails succeeds
  refine ⟨fails, fun url made => ?_⟩
  obtain ⟨address, _, rfl⟩ := (succeeds url).mp made
  constructor
  · obtain ⟨_, _, framed⟩ := complete_frame (build host settings)
      ((HostText.ofString host).url (build host settings).scheme address)
    rw [framed, ← secure]
    rfl
  · rw [effectivePort_complete _ rfl, port, secure]
  · rw [queryPairs_complete, HostText.queryPairs_url, pairs, device, token, List.append_assoc]

theorem loopback : parseHost "[::1]".toList = .ok (.ipv6 [0, 0, 0, 0, 0, 0, 0, 1]) := by
  cbv

/-- A host text with a port and a query of its own. -/
def cluttered : String :=
  "[::1]:9?x=%20y"

/-- Settings some of which are made twice, with characters that have a meaning in a URL. -/
def changed : List Setting :=
  [.device "first", .port 8443, .token none, .secure true, .path "/p?q#r", .withoutPort,
    .device "a b&c", .tokenFrom fun _ => some "é=+%"]

theorem addressed_cluttered : ∃ url, (build cluttered changed).url = .ok url ∧
    url.scheme = "wss" ∧ url.effectivePort? = some 443 ∧
    url.queryPairs = [("x", " y"), ("device", "a b&c"), ("token", "é=+%")] := by
  have filled : Text.allBlank cluttered.toList = false := by cbv
  have parts : HostText.ofString cluttered =
      { userInfo := none, name := "[::1]".toList, port := some ['9'],
        query := some "x=%20y".toList, fragment := none } := by
    cbv
  have target : HostText.target cluttered = .ok (.ipv6 [0, 0, 0, 0, 0, 0, 0, 1]) := by
    rw [HostText.target_eq_ok_iff, parts, HostText.address_eq_ok_iff]
    exact ⟨filled, by simp, loopback, rfl⟩
  have own : formPairs "x=%20y".toList = [("x", " y")] := by cbv
  have made := ((build cluttered changed).url_cases.2 _).mpr ⟨_, target, rfl⟩
  obtain ⟨scheme, port, pairs⟩ := (addressed cluttered changed).2 _ made
  refine ⟨_, made, scheme, port, ?_⟩
  rw [pairs, parts, Option.getD_some, own]
  rfl

end Endpoint

/-! ## What else it may say -/

/-- No text but the empty one is encoded to nothing. -/
theorem Url.ofList_encode_eq_empty (stands : Char → Bool) (text : List Char) :
    String.ofList (Percent.encode stands text) = "" ↔ text = [] := by
  rw [← String.toList_eq_nil_iff, String.toList_ofList, Percent.encode_eq_nil]

theorem Url.readUserInfo_eq_iff (text : List Char) :
    readUserInfo text = ("", "") ↔ text = [] ∨ text = [':'] := by
  unfold readUserInfo
  rw [Prod.mk.injEq, ofList_encode_eq_empty, ofList_encode_eq_empty]
  cases text with
  | nil => simp
  | cons c rest =>
      by_cases colon : c = ':'
      · subst colon
        simp
      · simp [colon]

theorem Url.extended_eq_iff (there : Option String) (pairs : List (String × String)) :
    extended there pairs = queryOf pairs ↔ there = none ∨ there = some "" ∧ pairs ≠ [] := by
  cases pairs with
  | nil => simp [extended, queryOf]
  | cons pair rest =>
      unfold extended
      generalize made : queryOf (pair :: rest) = own
      cases own with
      | none => cases made
      | some more =>
          cases there with
          | none => simp [joined]
          | some query =>
              by_cases blank : query = ""
              · subst blank
                simp [joined]
              · have longer : query ++ "&" ++ more ≠ more := by
                  intro same
                  have lengths := congrArg String.length same
                  simp only [String.length_append] at lengths
                  have mark : "&".length = 1 := rfl
                  omega
                show some (joined (some query) more) = some more ↔ _
                rw [joined_of_ne blank]
                simp [longer, blank]

theorem Url.map_encode_eq_empty (stands : Char → Bool) (text : Option (List Char)) :
    (text.map fun text => String.ofList (Percent.encode stands text)) = some "" ↔
      text = some [] := by
  cases text with
  | none => simp
  | some text =>
      rw [Option.map_some, Option.some.injEq, Option.some.injEq, ofList_encode_eq_empty]

namespace Endpoint

theorem takenOver {endpoint : Endpoint} {url : Url} (made : endpoint.url = .ok url) :
    (HostText.ofString endpoint.host).TakenOver endpoint.pairs url := by
  obtain ⟨address, _, rfl⟩ := (endpoint.url_cases.2 url).mp made
  obtain ⟨_, _, framed⟩ := endpoint.complete_frame
    ((HostText.ofString endpoint.host).url endpoint.scheme address)
  constructor
  · rw [framed]
    rfl
  · rw [framed]
    rfl
  · rw [query_complete]
    rfl

/-- What is taken over leaves no trace only if there is nothing to take over. -/
theorem alone_iff_bare {endpoint : Endpoint} {parts : HostText} {url : Url}
    (taken : parts.TakenOver endpoint.pairs url) :
    endpoint.Alone url ↔ parts.Bare endpoint.pairs := by
  have user : url.username = "" ∧ url.password = "" ↔
      parts.userInfo.getD [] = [] ∨ parts.userInfo.getD [] = [':'] := by
    rw [← Prod.mk.injEq, taken.user, readUserInfo_eq_iff]
  have fragment : url.fragment = none ↔ parts.fragment = none := by
    rw [taken.fragment, Option.map_eq_none_iff]
  have query : url.query = queryOf endpoint.pairs ↔
      parts.query = none ∨ parts.query = some [] ∧ endpoint.pairs ≠ [] := by
    rw [taken.query, extended_eq_iff, Option.map_eq_none_iff, map_encode_eq_empty]
  constructor
  · rintro ⟨noName, noPassword, noFragment, ownQuery⟩
    exact ⟨user.mp ⟨noName, noPassword⟩, fragment.mp noFragment, query.mp ownQuery⟩
  · rintro ⟨noUser, noFragment, noQuery⟩
    obtain ⟨noName, noPassword⟩ := user.mpr noUser
    exact ⟨noName, noPassword, fragment.mpr noFragment, query.mpr noQuery⟩

/-- An endpoint has a URL whenever the name and the port in its host text are ones, whatever stands
around them. User, fragment and query of the host text are taken over, so that the URL says nothing
but what it should only if the host text has none of them. -/
theorem alone_iff (endpoint : Endpoint) :
    ((∃ url, endpoint.url = .ok url) ↔ ∃ address, HostText.target endpoint.host = .ok address) ∧
      ∀ url, endpoint.url = .ok url →
        (HostText.ofString endpoint.host).TakenOver endpoint.pairs url ∧
          (endpoint.Alone url ↔ (HostText.ofString endpoint.host).Bare endpoint.pairs) := by
  obtain ⟨_, succeeds⟩ := endpoint.url_cases
  constructor
  · constructor
    · rintro ⟨url, made⟩
      obtain ⟨address, named, _⟩ := (succeeds url).mp made
      exact ⟨address, named⟩
    · rintro ⟨address, named⟩
      exact ⟨_, (succeeds _).mpr ⟨address, named, rfl⟩⟩
  · intro url made
    exact ⟨takenOver made, alone_iff_bare (takenOver made)⟩

/-- An endpoint whose host text has a user, a path, a query and a fragment in it. -/
def crowded : Endpoint :=
  ofHost "user:pw@[::1]/x?q=1#f"

/-- All but the path of that host text is taken over. -/
theorem alone_iff_crowded : ∃ url, crowded.url = .ok url ∧ ¬ crowded.Alone url ∧
    url.username = "user" ∧ url.password = "pw" ∧ url.query = some "q=1" ∧
    url.fragment = some "f" := by
  have filled : Text.allBlank crowded.host.toList = false := by cbv
  have parts : HostText.ofString crowded.host =
      { userInfo := some "user:pw".toList, name := "[::1]".toList, port := none,
        query := some "q=1".toList, fragment := some ['f'] } := by
    cbv
  have target : HostText.target crowded.host = .ok (.ipv6 [0, 0, 0, 0, 0, 0, 0, 1]) := by
    rw [HostText.target_eq_ok_iff, parts, HostText.address_eq_ok_iff]
    exact ⟨filled, by simp, loopback, rfl⟩
  obtain ⟨accepted, taken⟩ := alone_iff crowded
  obtain ⟨url, made⟩ := accepted.mpr ⟨_, target⟩
  obtain ⟨⟨user, fragment, query⟩, alone⟩ := taken url made
  rw [parts] at user fragment query alone
  have read : readUserInfo "user:pw".toList = ("user", "pw") := by cbv
  obtain ⟨username, password⟩ := Prod.mk.inj (user.trans read)
  refine ⟨url, made, fun only => ?_, username, password, query.trans ?_, fragment.trans ?_⟩
  · cases (alone.mp only).fragment
  · cbv
  · cbv

end Endpoint

end Intercom
