import Mathlib
import Intercom.Endpoint

/-!
# Host texts

The host of an endpoint is any text. It is put between the scheme of a socket and the path, and then
read as a part of a URL: so it may hold a user, a port, a path, a query and a fragment as well.
`HostText` is what a reader finds in it.

Results:
1. `parse_socket`: the URL of a host text, part by part.
2. `Endpoint.url_eq`: the URL of an endpoint. Whether there is one depends on the host text alone,
   and of that on the name and the port in it.
-/

namespace Intercom

open Url

/-! ## Definitions -/

/-- A host text in the parts that a reader of URLs finds in it, each as it is written. The path is
left out. -/
structure HostText where
  userInfo : Option (List Char)
  name : List Char
  port : Option (List Char)
  query : Option (List Char)
  fragment : Option (List Char)

namespace HostText

/-- A host text as it is read after a slash: further slashes, blank characters at its end, and tabs
and line ends anywhere are passed over. -/
def seen (host : String) : List Char :=
  (tidy ('/' :: host.toList)).dropWhile fun c => c = '/' || c = '\\'

/-- What stands before the path, the query and the fragment. -/
def authority (text : List Char) : List Char :=
  text.takeWhile fun c => !endsAuthority true c

/-- What stands after the authority. -/
def afterAuthority (text : List Char) : List Char :=
  text.dropWhile fun c => !endsAuthority true c

/-- The name and the port of an authority. -/
def place (text : List Char) : List Char :=
  match splitLast? '@' (authority text) with
  | some (_, place) => place
  | none => authority text

/-- What stands between the first `?` and the first `#` after it. -/
def query? (text : List Char) : Option (List Char) :=
  ((text.takeWhile (· != '#')).dropWhile (· != '?')).tail?

/-- What stands after the first `#`. -/
def fragment? (text : List Char) : Option (List Char) :=
  (text.dropWhile (· != '#')).tail?

def ofSeen (text : List Char) : HostText where
  userInfo := (splitLast? '@' (authority text)).map Prod.fst
  name := (spanHost true false (place text)).1
  port := (spanHost true false (place text)).2.tail?
  query := query? text
  fragment := fragment? text

def ofString (host : String) : HostText :=
  ofSeen (seen host)

/-- Whether a port is one: a number in range, or nothing at all after the colon. -/
def fits (port : List Char) : Bool :=
  port.all Char.isDigit && Text.numberOf 10 port < UInt16.size

/-- The address that a host text names. -/
def address (parts : HostText) : Except Fault Host :=
  if parts.name.isEmpty then .error .emptyHost
  else
    match parseHost parts.name with
    | .error fault => .error fault
    | .ok address => if parts.port.all fits then .ok address else .error .invalidPort

/-- The address that the host of an endpoint names, or why it names none. -/
def target (host : String) : Except Failure Host :=
  if Text.allBlank host.toList then .error (.config .hostEmpty)
  else
    match (ofString host).address with
    | .error fault => .error (.invalidUrl fault)
    | .ok address => .ok address

/-- A URL with what a host text says, except for the port and the path. -/
def url (parts : HostText) (scheme : String) (address : Host) : Url :=
  let (username, password) := readUserInfo (parts.userInfo.getD [])
  { scheme
    username
    password
    host := some address
    query := parts.query.map fun query =>
      String.ofList (Percent.encode Percent.inSpecialQuery query)
    fragment := parts.fragment.map fun fragment =>
      String.ofList (Percent.encode Percent.inFragment fragment) }

end HostText

/-- A URL with what an endpoint says. -/
def Endpoint.complete (endpoint : Endpoint) (url : Url) : Url :=
  let placed := (url.setPort endpoint.port).setPath endpoint.path
  appendIfSet (appendIfSet placed "device" endpoint.device) "token" endpoint.token

namespace HostText

/-! ## Where a text is cut -/

/-- Where a text stops, it stops for a reason. -/
theorem stops_dropWhile (stops : Char → Bool) (text : List Char) :
    (text.dropWhile fun c => !stops c).head?.all stops = true := by
  have head := List.head?_dropWhile_not (fun c => !stops c) text
  cases rest : text.dropWhile (fun c => !stops c) with
  | nil => rfl
  | cons c more => simpa [rest] using head

theorem authority_append (text : List Char) : authority text ++ afterAuthority text = text :=
  List.takeWhile_append_dropWhile

theorem whole_authority (text : List Char) :
    ∀ c ∈ authority text, endsAuthority true c = false := by
  intro c member
  simpa using List.mem_takeWhile_imp member

theorem splitLast?_some {mark : Char} {text before after : List Char}
    (split : splitLast? mark text = some (before, after)) : text = before ++ mark :: after := by
  unfold splitLast? at split
  rw [List.span_eq_takeWhile_dropWhile] at split
  have whole : text.reverse.takeWhile (· != mark) ++ text.reverse.dropWhile (· != mark) =
      text.reverse :=
    List.takeWhile_append_dropWhile
  cases rest : text.reverse.dropWhile (· != mark) with
  | nil => simp [rest] at split
  | cons c front =>
      have head := List.head?_dropWhile_not (· != mark) text.reverse
      obtain rfl : c = mark := by simpa [rest] using head
      rw [rest] at split whole
      cases split
      simpa using (congrArg List.reverse whole).symm

theorem whole_place (text : List Char) : ∀ c ∈ place text, endsAuthority true c = false := by
  intro c member
  refine whole_authority text c ?_
  unfold place at member
  split at member
  · next split =>
      rw [splitLast?_some split]
      exact List.mem_append_right _ (List.mem_cons_of_mem _ member)
  · exact member

theorem splitUserInfo_eq (text : List Char) :
    splitUserInfo true text = ((ofSeen text).userInfo, place text ++ afterAuthority text) := by
  have whole := authority_append text
  unfold splitUserInfo ofSeen place
  rw [List.span_eq_takeWhile_dropWhile]
  show (match splitLast? '@' (authority text) with
    | some (userInfo, rest) => (some userInfo, rest ++ afterAuthority text)
    | none => (none, text)) = _
  cases splitLast? '@' (authority text) with
  | none => exact congrArg _ whole.symm
  | some => rfl

/-! ## Name and port -/

/-- A name ends at its own colon or with the authority, whatever follows the authority. -/
theorem spanHost_append {front tail : List Char}
    (whole : ∀ c ∈ front, endsAuthority true c = false)
    (stops : tail.head?.all (endsAuthority true) = true) (inBrackets : Bool) :
    spanHost true inBrackets (front ++ tail) =
      ((spanHost true inBrackets front).1, (spanHost true inBrackets front).2 ++ tail) := by
  induction front generalizing inBrackets with
  | nil =>
      cases tail with
      | nil => rfl
      | cons c rest =>
          have ends : endsAuthority true c = true := stops
          simp [spanHost, ends]
  | cons c rest ih =>
      have inner := fun d member => whole d (List.mem_cons_of_mem c member)
      rw [List.cons_append, spanHost, spanHost]
      split
      · rfl
      · simp only [ih inner]

/-- What a name leaves of an authority starts with a colon, if anything. -/
theorem spanHost_rest {text : List Char} (whole : ∀ c ∈ text, endsAuthority true c = false)
    (inBrackets : Bool) :
    (∀ c ∈ (spanHost true inBrackets text).2.head?, c = ':') ∧
      ∀ c ∈ (spanHost true inBrackets text).2, c ∈ text := by
  induction text generalizing inBrackets with
  | nil => simp [spanHost]
  | cons c rest ih =>
      have inner := fun d member => whole d (List.mem_cons_of_mem c member)
      rw [spanHost, whole c List.mem_cons_self]
      split
      · next colon =>
          simp only [Bool.false_or, Bool.and_eq_true, decide_eq_true_eq] at colon
          simp [colon.1]
      · obtain ⟨starts, members⟩ :=
          ih inner (if c = '[' then true else if c = ']' then false else inBrackets)
        exact ⟨starts, fun d member => List.mem_cons_of_mem c (members d member)⟩

theorem isDigit_of_endsAuthority {c : Char} (ends : endsAuthority true c = true) :
    c.isDigit = false := by
  simp only [endsAuthority, Bool.or_eq_true, Bool.and_eq_true, decide_eq_true_eq, true_and] at ends
  rcases ends with ((rfl | rfl) | rfl) | rfl <;> rfl

/-- A port is read if its digits are a number in range and end the authority. -/
theorem parsePort_eq (scheme : String) (text : List Char) :
    ∃ port, parsePort scheme text =
      if UInt16.size ≤ Text.numberOf 10 (text.takeWhile Char.isDigit) ∨
          (text.dropWhile Char.isDigit).head?.all (endsAuthority true) = false then
        .error .invalidPort
      else .ok (port, text.dropWhile Char.isDigit) := by
  unfold parsePort
  generalize text.takeWhile Char.isDigit = digits
  by_cases large : UInt16.size ≤ Text.numberOf 10 digits
  · exact ⟨none, by simp [large]⟩
  · cases text.dropWhile Char.isDigit with
    | nil => cases digits <;> exact ⟨_, by simp [large]; rfl⟩
    | cons c rest =>
        cases ends : endsAuthority true c with
        | false => exact ⟨none, by simp [ends]⟩
        | true => cases digits <;> exact ⟨_, by simp [large, ends]; rfl⟩

/-- A port is read up to the end of the authority. -/
theorem parsePort_append (scheme : String) {port tail : List Char}
    (whole : ∀ c ∈ port, endsAuthority true c = false)
    (stops : tail.head?.all (endsAuthority true) = true) :
    ∃ kept, parsePort scheme (port ++ tail) =
      if fits port then .ok (kept, tail) else .error .invalidPort := by
  obtain ⟨kept, read⟩ := parsePort_eq scheme (port ++ tail)
  refine ⟨kept, read.trans ?_⟩
  by_cases digits : ∀ c ∈ port, c.isDigit = true
  · have none : tail.takeWhile Char.isDigit = [] ∧ tail.dropWhile Char.isDigit = tail := by
      cases tail with
      | nil => exact ⟨rfl, rfl⟩
      | cons c rest =>
          have other : c.isDigit = false := isDigit_of_endsAuthority stops
          simp [other]
    rw [List.takeWhile_append_of_pos digits, List.dropWhile_append_of_pos digits, none.1, none.2,
      List.append_nil, stops, fits, List.all_eq_true.mpr digits]
    by_cases large : UInt16.size ≤ Text.numberOf 10 port <;> simp [large]
  · -- what is no digit stands in the authority still, so it does not end it
    have rest : port.dropWhile Char.isDigit ≠ [] := by
      rw [ne_eq, List.dropWhile_eq_nil_iff]
      exact digits
    have unfit : fits port = false := by
      rw [fits, Bool.and_eq_false_iff, List.all_eq_false]
      exact .inl (by simpa using digits)
    have starts :
        ((port ++ tail).dropWhile Char.isDigit).head?.all (endsAuthority true) = false := by
      rw [List.dropWhile_append, List.isEmpty_eq_false_iff.mpr rest]
      cases left : port.dropWhile Char.isDigit with
      | nil => exact absurd left rest
      | cons c more =>
          refine whole c ((List.dropWhile_sublist Char.isDigit).subset ?_)
          rw [left]
          exact List.mem_cons_self
    rw [if_pos (.inr starts), unfit]
    rfl

theorem readPort_append (scheme : String) {rest tail : List Char}
    (whole : ∀ c ∈ rest, endsAuthority true c = false) (colon : ∀ c ∈ rest.head?, c = ':')
    (stops : tail.head?.all (endsAuthority true) = true) :
    ∃ kept, readPort scheme (rest ++ tail) =
      if rest.tail?.all fits then .ok (kept, tail) else .error .invalidPort := by
  cases rest with
  | nil =>
      refine ⟨none, ?_⟩
      cases tail with
      | nil => rfl
      | cons c more =>
          have ends : endsAuthority true c = true := stops
          unfold readPort
          split
          · next same =>
              cases same
              cases ends
          · rfl
  | cons c port =>
      obtain rfl := colon c rfl
      exact parsePort_append scheme (fun d member => whole d (List.mem_cons_of_mem _ member)) stops

/-- No address is an empty name, so each can have a port. -/
theorem ne_domain_of_parseHost {text : List Char} {address : Host}
    (read : parseHost text = .ok address) : address ≠ .domain "" := by
  unfold parseHost at read
  split at read
  · next inner _ =>
      unfold addressOf at read
      split at read
      · cases read
      · split at read <;> cases read
        exact Host.noConfusion
  · split at read
    · cases read
    · next name _ =>
        split at read
        · cases read
        · next filled =>
            split at read
            · split at read <;> cases read
              exact Host.noConfusion
            · cases read
              intro same
              injection same with blank
              have nameless := congrArg String.toList blank
              rw [String.toList_ofList] at nameless
              rw [nameless] at filled
              exact filled rfl

theorem address_eq_ok_iff {parts : HostText} {address : Host} :
    parts.address = .ok address ↔
      parts.name ≠ [] ∧ parseHost parts.name = .ok address ∧ parts.port.all fits = true := by
  unfold HostText.address
  by_cases nameless : parts.name = []
  · simp [nameless]
  · cases parseHost parts.name with
    | error fault => simp [nameless]
    | ok named => by_cases fitting : parts.port.all fits = true <;> simp [nameless, fitting]

theorem target_eq_ok_iff {host : String} {address : Host} :
    target host = .ok address ↔
      Text.allBlank host.toList = false ∧ (ofString host).address = .ok address := by
  unfold target
  cases Text.allBlank host.toList with
  | true => simp
  | false => cases (ofString host).address <;> simp

/-! ## Query and fragment -/

/-- What stands in front of the query does not matter to what is in it. -/
theorem query?_append {front : List Char} (plain : ∀ c ∈ front, endsPath c = false)
    (text : List Char) :
    query? (front ++ text) = query? text ∧ fragment? (front ++ text) = fragment? text := by
  have apart : ∀ c ∈ front, (c != '#') = true ∧ (c != '?') = true := by
    intro c member
    have none := plain c member
    simp only [endsPath, Bool.or_eq_false_iff, decide_eq_false_iff_not] at none
    simpa [bne_iff_ne] using none.symm
  have unmarked := fun c member => (apart c member).1
  have unasked := fun c member => (apart c member).2
  unfold query? fragment?
  rw [List.takeWhile_append_of_pos unmarked, List.dropWhile_append_of_pos unasked,
    List.dropWhile_append_of_pos unmarked]
  exact ⟨rfl, rfl⟩

theorem withTail_eq {url : Url} (special : isSpecial url.scheme = true) {text : List Char}
    (starts : text.head?.all endsPath = true) :
    withTail url text =
      { url with
        query := (query? text).map fun query =>
          String.ofList (Percent.encode Percent.inSpecialQuery query)
        fragment := (fragment? text).map fun fragment =>
          String.ofList (Percent.encode Percent.inFragment fragment) } := by
  unfold withTail query? fragment?
  rw [List.span_eq_takeWhile_dropWhile, special]
  cases text with
  | nil => rfl
  | cons c rest =>
      have mark : c = '?' ∨ c = '#' := by simpa [endsPath] using starts
      rcases mark with rfl | rfl
      · rw [List.takeWhile_cons_of_pos (by decide), List.dropWhile_cons_of_pos (by decide)]
        cases rest.dropWhile (· != '#') <;> rfl
      · rfl

/-- Query and fragment stand where the path ends. -/
theorem query?_dropWhile (text : List Char) :
    query? (text.dropWhile fun c => !endsPath c) = query? text ∧
      fragment? (text.dropWhile fun c => !endsPath c) = fragment? text := by
  have plain : ∀ c ∈ text.takeWhile (fun c => !endsPath c), endsPath c = false := by
    intro c member
    simpa using List.mem_takeWhile_imp member
  have same := query?_append plain (text.dropWhile fun c => !endsPath c)
  rw [List.takeWhile_append_dropWhile] at same
  exact ⟨same.1.symm, same.2.symm⟩

/-- The authority ends before the path does. -/
theorem dropWhile_afterAuthority (text : List Char) :
    (afterAuthority text).dropWhile (fun c => !endsPath c) =
      text.dropWhile fun c => !endsPath c := by
  have passed : ∀ c ∈ authority text, (!endsPath c) = true := by
    intro c member
    have inside := whole_authority text c member
    simp only [endsAuthority, Bool.or_eq_false_iff] at inside
    simp [endsPath, inside.1.1.2, inside.1.2]
  rw [← List.dropWhile_append_of_pos passed, authority_append]

theorem withPath_eq {scheme : String} (special : isSpecial scheme = true) (text : List Char) :
    ∃ path, ∀ url, url.scheme = scheme → withPath url (afterAuthority text) =
      { url with
        path
        query := (ofSeen text).query.map fun query =>
          String.ofList (Percent.encode Percent.inSpecialQuery query)
        fragment := (ofSeen text).fragment.map fun fragment =>
          String.ofList (Percent.encode Percent.inFragment fragment) } := by
  obtain ⟨query, fragment⟩ := query?_dropWhile text
  refine ⟨.segments (segmentsOf scheme ((afterAuthority text).takeWhile fun c => !endsPath c)),
    fun url same => ?_⟩
  subst same
  have read (path : Url.Path) :=
    @withTail_eq { url with path } special _ (stops_dropWhile endsPath text)
  unfold withPath
  rw [List.span_eq_takeWhile_dropWhile, dropWhile_afterAuthority]
  dsimp only
  rw [read, query, fragment]
  simp only [special, Bool.not_true, Bool.and_false, Bool.false_eq_true, if_false]
  rfl

/-! ## The scheme in front -/

theorem tidy_append {front : List Char} (plain : ∀ c ∈ front, 0x20 < c.toNat) (text : List Char) :
    tidy (front ++ '/' :: text) = front ++ tidy ('/' :: text) := by
  have stays (text : List Char) :
      ('/' :: text).dropWhile (fun c => c.toNat ≤ 0x20) = '/' :: text := rfl
  have starts :
      (front ++ '/' :: text).dropWhile (fun c => c.toNat ≤ 0x20) = front ++ '/' :: text := by
    cases front with
    | nil => rfl
    | cons c rest =>
        have large := plain c List.mem_cons_self
        exact List.dropWhile_cons_of_neg (by simpa using large)
  have ends : ((('/' :: text).reverse).dropWhile fun c => c.toNat ≤ 0x20).isEmpty = false := by
    rw [List.isEmpty_eq_false_iff, ne_eq, List.dropWhile_eq_nil_iff]
    intro all
    exact absurd (all '/' (by simp)) (by decide)
  have kept : front.filter (fun c => !isIgnored c) = front := by
    refine List.filter_eq_self.mpr fun c member => ?_
    have large := plain c member
    simp only [isIgnored, Bool.not_eq_true', Bool.or_eq_false_iff, decide_eq_false_iff_not]
    refine ⟨⟨?_, ?_⟩, ?_⟩ <;> rintro rfl <;> exact absurd large (by decide)
  unfold tidy
  dsimp only
  rw [starts, stays, List.reverse_append, List.dropWhile_append, ends]
  simp only [Bool.false_eq_true, if_false, List.reverse_append, List.reverse_reverse,
    List.filter_append, kept]

theorem bounds_of_isLower {c : Char} (lower : c.isLower = true) :
    'a'.toNat ≤ c.toNat ∧ c.toNat ≤ 'z'.toNat := by
  simp only [Char.isLower, Bool.and_eq_true, decide_eq_true_eq] at lower
  exact ⟨UInt32.le_iff_toNat_le.mp lower.1, UInt32.le_iff_toNat_le.mp lower.2⟩

theorem toLower_of_isLower {c : Char} (lower : c.isLower = true) : c.toLower = c := by
  refine dif_neg fun upper => ?_
  have low := (bounds_of_isLower lower).1
  have high : c.toNat ≤ 'Z'.toNat := UInt32.le_iff_toNat_le.mp upper.2
  exact absurd (Nat.le_trans low high) (by decide)

theorem readScheme?_append {letters : List Char} (filled : letters ≠ [])
    (lower : ∀ c ∈ letters, c.isLower = true) (rest : List Char) :
    readScheme? (letters ++ ':' :: rest) = some (String.ofList letters, rest) := by
  have colon : inScheme ':' = false := by decide
  have inside : ∀ c ∈ letters, inScheme c = true := by
    intro c member
    simp [inScheme, Char.isAlphanum, Char.isAlpha, lower c member]
  have unchanged : letters.map Char.toLower = letters :=
    (List.map_congr_left fun c member => toLower_of_isLower (lower c member)).trans (List.map_id _)
  unfold readScheme?
  rw [List.span_eq_takeWhile_dropWhile, List.takeWhile_append_of_pos inside,
    List.dropWhile_append_of_pos inside]
  cases letters with
  | nil => exact absurd rfl filled
  | cons first others =>
      have letter : first.isAlpha = true := by
        simp [Char.isAlpha, lower first List.mem_cons_self]
      simp [letter, colon, unchanged]

/-! ## The whole -/

theorem parseAuthority_eq {scheme : String} (special : isSpecial scheme = true)
    (text : List Char) :
    ∃ port path, parseAuthority scheme text = (ofSeen text).address.map fun address =>
      { (ofSeen text).url scheme address with port, path } := by
  obtain ⟨colon, members⟩ := spanHost_rest (whole_place text) false
  have stops : (afterAuthority text).head?.all (endsAuthority true) = true :=
    stops_dropWhile (endsAuthority true) text
  obtain ⟨port, read⟩ := readPort_append scheme
    (fun c member => whole_place text c (members c member)) colon stops
  obtain ⟨path, follows⟩ := withPath_eq special text
  have fitting : (spanHost true false (place text)).2.tail?.all fits =
    (ofSeen text).port.all fits := rfl
  rw [fitting] at read
  refine ⟨port, path, ?_⟩
  unfold parseAuthority
  simp only [special, splitUserInfo_eq, spanHost_append (whole_place text) stops, read]
  show (readHost true false (ofSeen text).name).bind _ = _
  unfold address readHost
  cases (ofSeen text).name.isEmpty with
  | true => rfl
  | false =>
      cases parseHost (ofSeen text).name with
      | error => rfl
      | ok address =>
          cases (ofSeen text).port.all fits with
          | false => rfl
          | true => exact congrArg Except.ok (follows _ rfl)

/-- The schemes of sockets. -/
def IsSocketScheme (scheme : String) : Prop :=
  scheme = "ws" ∨ scheme = "wss"

theorem isLower_of_isSocketScheme {scheme : String} (ours : IsSocketScheme scheme) :
    scheme.toList ≠ [] ∧ ∀ c ∈ scheme.toList, c.isLower = true := by
  rcases ours with rfl | rfl
  · have letters : "ws".toList = ['w', 's'] := rfl
    simp [letters]
  · have letters : "wss".toList = ['w', 's', 's'] := rfl
    simp [letters]

theorem ne_file_of_isSocketScheme {scheme : String} (ours : IsSocketScheme scheme) :
    scheme ≠ "file" := by
  rcases ours with rfl | rfl <;> decide

theorem carriesPort {scheme : String} (ours : IsSocketScheme scheme) {parts : HostText}
    {address : Host} (named : parts.address = .ok address) (port : Option UInt16)
    (path : Url.Path) : Url.carriesPort { parts.url scheme address with port, path } = true := by
  have filled := ne_domain_of_parseHost (address_eq_ok_iff.mp named).2.1
  unfold Url.carriesPort
  split
  · next absent => cases absent
  · next blank => exact absurd (Option.some.inj blank) filled
  · exact bne_iff_ne.mpr (ne_file_of_isSocketScheme ours)

/-- A host text after the scheme of a socket, part by part. -/
theorem parse_socket {scheme : String} (ours : IsSocketScheme scheme) (host : String) :
    ∃ port path, Url.parse (scheme ++ "://" ++ host) = (ofString host).address.map fun address =>
      { (ofString host).url scheme address with port, path } := by
  obtain ⟨filled, lower⟩ := isLower_of_isSocketScheme ours
  have special : isSpecial scheme = true := by
    rcases ours with rfl | rfl <;> decide
  have text : (scheme ++ "://" ++ host).toList =
      (scheme.toList ++ [':', '/']) ++ '/' :: host.toList := by
    simp [String.toList_append]
  have plain : ∀ c ∈ scheme.toList ++ [':', '/'], 0x20 < c.toNat := by
    intro c member
    rcases List.mem_append.mp member with letter | mark
    · exact Nat.lt_of_lt_of_le (by decide) (bounds_of_isLower (lower c letter)).1
    · simp only [List.mem_cons, List.not_mem_nil, or_false] at mark
      rcases mark with rfl | rfl <;> decide
  have read : Url.parse (scheme ++ "://" ++ host) = parseAuthority scheme (seen host) := by
    unfold Url.parse
    rw [text, tidy_append plain, List.append_assoc, List.cons_append,
      readScheme?_append filled lower, String.ofList_toList]
    dsimp only
    rw [if_neg (ne_file_of_isSocketScheme ours), if_pos special]
    rfl
  rw [read]
  exact parseAuthority_eq special (seen host)

end HostText

namespace Endpoint

theorem isSocketScheme (endpoint : Endpoint) : HostText.IsSocketScheme endpoint.scheme := by
  unfold scheme
  split
  · exact .inr rfl
  · exact .inl rfl

/-- The URL of an endpoint is that of its host text, with the port, the path and the pairs of the
endpoint. There is one if the host text names an address. -/
theorem url_eq (endpoint : Endpoint) :
    endpoint.url = (HostText.target endpoint.host).map fun address =>
      endpoint.complete ((HostText.ofString endpoint.host).url endpoint.scheme address) := by
  obtain ⟨port, path, read⟩ := HostText.parse_socket endpoint.isSocketScheme endpoint.host
  unfold url HostText.target
  rw [read]
  cases Text.allBlank endpoint.host.toList with
  | true => rfl
  | false =>
      cases named : (HostText.ofString endpoint.host).address with
      | error => rfl
      | ok address =>
          have carries := HostText.carriesPort endpoint.isSocketScheme named port path
          show (if (!Url.carriesPort _) = true then _ else _) = _
          rw [carries]
          rfl

end Endpoint

end Intercom
