/-!
# WebSocket addresses

An element fetch connects to a URI such as `ws://localhost:8765`. The URI is read by the
rules of HTTP request targets: a scheme `name://` (letters, digits, `+`, `-`, `.`), an
authority up to the first `/`, `?` or `#`, and a path and query. A text without a
scheme is a bare authority. Authorities allow letters, digits and
``!$&'()*+,-.;=_~:[]@``; at most one port colon outside brackets, balanced brackets,
nothing empty after `@`, and no `%` in the host; a scheme needs an authority after it.
Paths allow the visible ASCII characters but space, `#`, `<`, `>`, `?` (which starts the
query), backslash, `^`, backquote, and queries those but space, `"`, `#`, `<`, `>`; both
allow every character beyond ASCII, and what follows `#` is not checked.

The connection needs a host and a port: the port written in the authority, or 80 for
`ws` and 443 for `wss`.
-/

namespace Runbook.Capture

/-- Why a text is not a URI. -/
inductive UriProblem where
  | empty
  | tooLong
  | invalidUriChar
  | invalidAuthority
  | invalidFormat
  | schemeTooLong
  deriving Repr, DecidableEq

/-- The wording of a URI problem. -/
def UriProblem.message : UriProblem → String
  | .empty => "empty string"
  | .tooLong => "uri too long"
  | .invalidUriChar => "invalid uri character"
  | .invalidAuthority => "invalid authority"
  | .invalidFormat => "invalid format"
  | .schemeTooLong => "scheme too long"

/-- A URI: its scheme, its authority (possibly empty) and the rest. -/
structure Uri where
  scheme : Option String
  authority : String
  pathAndQuery : String
  deriving Repr, DecidableEq

/-- Characters that may stand in a scheme. -/
def isSchemeChar (c : Char) : Bool := c.isAlphanum || c == '+' || c == '-' || c == '.'

/-- Characters that may stand in an authority, the delimiters included. -/
def isAuthorityChar (c : Char) : Bool :=
  c.isAlphanum || "!$&'()*+,-.;=_~:/?#[]@".toList.contains c

/-- Characters that may stand in a path: visible ASCII but a few, and any character
beyond ASCII. -/
def isPathChar (c : Char) : Bool :=
  let n := c.toNat
  n == 0x21 || (0x24 ≤ n && n ≤ 0x3B) || n == 0x3D || (0x40 ≤ n && n ≤ 0x5F) ||
    (0x61 ≤ n && n ≤ 0x7A) || n == 0x7C || n == 0x7E || c == '"' || c == '{' || c == '}' ||
    n ≥ 0x80

/-- Characters that may stand in a query: visible ASCII but space, `"`, `#`, `<`, `>`, and
any character beyond ASCII. -/
def isQueryChar (c : Char) : Bool :=
  let n := c.toNat
  n == 0x21 || (0x24 ≤ n && n ≤ 0x3B) || n == 0x3D || (0x3F ≤ n && n ≤ 0x7E) || n ≥ 0x80

/-- The state of scanning an authority: port colons, brackets seen, a `%` seen, and
where the last `@` stood. -/
structure AuthorityScan where
  colons : Nat := 0
  opened : Bool := false
  closed : Bool := false
  percent : Bool := false
  lastAt : Option Nat := none

/-- Scans an authority from position `i`: its end, before the first `/`, `?` or `#`. -/
def scanAuthority (st : AuthorityScan) (i : Nat) : List Char → Except UriProblem (AuthorityScan × Nat)
  | [] => .ok (st, i)
  | c :: rest =>
    if c == '/' || c == '?' || c == '#' then .ok (st, i)
    else if c == ':' then
      if st.colons ≥ 8 then .error .invalidAuthority
      else scanAuthority { st with colons := st.colons + 1 } (i + 1) rest
    else if c == '[' then
      if st.percent || st.opened then .error .invalidAuthority
      else scanAuthority { st with opened := true } (i + 1) rest
    else if c == ']' then
      if !st.opened || st.closed then .error .invalidAuthority
      else scanAuthority { st with closed := true, colons := 0, percent := false } (i + 1) rest
    else if c == '@' then
      scanAuthority { st with lastAt := some i, colons := 0, percent := false } (i + 1) rest
    else if c == '%' then scanAuthority { st with percent := true } (i + 1) rest
    else if isAuthorityChar c then scanAuthority st (i + 1) rest
    else .error .invalidUriChar

/-- The length of the authority at the start of a text. -/
def authorityLength (s : List Char) : Except UriProblem Nat := do
  let (st, n) ← scanAuthority {} 0 s
  if st.opened != st.closed then .error .invalidAuthority
  else if st.colons > 1 then .error .invalidAuthority
  else if n > 0 && st.lastAt == some (n - 1) then .error .invalidAuthority
  else if st.percent then .error .invalidAuthority
  else .ok n

/-- Checks a path and query. -/
def checkPath (s : List Char) : Except UriProblem Unit :=
  let path := s.takeWhile fun c => c != '?' && c != '#'
  let rest := s.dropWhile fun c => c != '?' && c != '#'
  if !path.all isPathChar then .error .invalidUriChar
  else match rest with
    | '?' :: query =>
      if (query.takeWhile (· != '#')).all isQueryChar then .ok () else .error .invalidUriChar
    | _ => .ok ()

/-- Whether a text starts with a prefix, ignoring ASCII case. -/
def startsWithFold (s pre : List Char) : Bool :=
  s.length ≥ pre.length && (s.take pre.length).map Char.toLower == pre

/-- The length of the scheme that opens a text with `://`, if any. -/
def schemeLength? (s : List Char) : Except UriProblem (Option Nat) :=
  if startsWithFold s "http://".toList then .ok (some 4)
  else if startsWithFold s "https://".toList then .ok (some 5)
  else if s.length ≤ 3 then .ok none
  else
    let name := s.takeWhile isSchemeChar
    let n := name.length
    if (s.drop n).take 3 == [':', '/', '/'] then
      if n > 64 then .error .schemeTooLong else .ok (some n)
    else .ok none

/-- Reads a URI. Lengths are counted in bytes of the UTF-8 encoding: at most 65534, and a
one-byte text is `/`, `*` or an authority. -/
def Uri.parse (text : String) : Except UriProblem Uri := do
  let s := text.toList
  if s.isEmpty then .error .empty
  else if text.utf8ByteSize > 65534 then .error .tooLong
  else if s = ['/'] || s = ['*'] then .ok ⟨none, "", text⟩
  else if text.utf8ByteSize = 1 then
    let n ← authorityLength s
    if n != 1 then .error .invalidUriChar else .ok ⟨none, text, ""⟩
  else if s.head? = some '/' then
    checkPath s
    .ok ⟨none, "", text⟩
  else
    match ← schemeLength? s with
    | none =>
      let n ← authorityLength s
      if n != s.length then .error .invalidFormat else .ok ⟨none, text, ""⟩
    | some k =>
      let afterScheme := s.drop (k + 3)
      if afterScheme.isEmpty then .error .empty
      let n ← authorityLength afterScheme
      if n = 0 then .error .invalidFormat
      else
        let rest := afterScheme.drop n
        checkPath rest
        let scheme := if k ≤ 5 && startsWithFold s "http".toList then (s.take k).map Char.toLower else s.take k
        .ok ⟨some (String.ofList scheme), String.ofList (afterScheme.take n), String.ofList rest⟩

/-- The host and port of an authority: after any user part, up to the port colon, the
brackets of an IPv6 host kept. -/
def Uri.hostPort (u : Uri) : String × Option String :=
  let hostPort := (u.authority.splitOn "@").getLast?.getD ""
  let cs := hostPort.toList
  match cs with
  | '[' :: _ =>
    let host := cs.takeWhile (· != ']') ++ [']']
    let rest := cs.drop host.length
    (String.ofList host, match rest with | ':' :: p => some (String.ofList p) | _ => none)
  | _ =>
    let host := cs.takeWhile (· != ':')
    (String.ofList host, match cs.drop host.length with | ':' :: p => some (String.ofList p) | _ => none)

/-- The port written in an authority, when it is a number below 65536. -/
def Uri.port? (u : Uri) : Option Nat :=
  (u.hostPort.2).bind fun p =>
    let ds := match p.toList with
      | '+' :: rest => rest
      | cs => cs
    let n := ds.foldl (fun n c => n * 10 + (c.toNat - 48)) 0
    if !ds.isEmpty && ds.all Char.isDigit && n < 65536 then some n else none

/-- Why a URI does not lead to a WebSocket connection. -/
inductive AddressError where
  | malformed (p : UriProblem)
  | noHost
  | emptyHost
  | unsupportedScheme
  deriving Repr, DecidableEq

/-- The wording of an address error. -/
def AddressError.message : AddressError → String
  | .malformed p => "HTTP format error: " ++ p.message
  | .noHost => "URL error: No host name in the URL"
  | .emptyHost => "URL error: URL contains empty host name"
  | .unsupportedScheme => "URL error: URL scheme not supported"

/-- The host and port a WebSocket URI connects to. -/
def connectTarget (text : String) : Except AddressError (String × Nat) :=
  match Uri.parse text with
  | .error p => .error (.malformed p)
  | .ok u =>
    if u.authority.isEmpty then .error .noHost
    else if ((u.authority.splitOn "@").getLast?.getD "").isEmpty then .error .emptyHost
    else
      let host := u.hostPort.1
      match u.port? with
      | some p => .ok (host, p)
      | none =>
        match u.scheme with
        | some "ws" => .ok (host, 80)
        | some "wss" => .ok (host, 443)
        | _ => .error .unsupportedScheme

end Runbook.Capture
