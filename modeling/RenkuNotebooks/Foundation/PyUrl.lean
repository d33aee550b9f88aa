import RenkuNotebooks.Foundation.PyText

/-!
# `urllib.parse`

The parts of `urlparse` that the program reads.
-/

namespace RenkuNotebooks.PyUrl

structure ParseResult where
  scheme : List Char
  netloc : List Char
  path : List Char
  deriving DecidableEq, Repr

/-- Blanks and control characters in front, and line breaks and tabs everywhere, are dropped. -/
def clean (url : List Char) : List Char :=
  (url.dropWhile (·.toNat ≤ 32)).filter fun c => c ≠ '\t' ∧ c ≠ '\r' ∧ c ≠ '\n'

def isSchemeChar (c : Char) : Bool := c.isAlphanum || c == '+' || c == '-' || c == '.'

def splitScheme (url : List Char) : List Char × List Char :=
  match url.span (· ≠ ':') with
  | (scheme, ':' :: rest) =>
    if scheme.head?.any Char.isAlpha && scheme.all isSchemeChar then
      (scheme.map Char.toLower, rest)
    else ([], url)
  | _ => ([], url)

def splitNetloc : List Char → List Char × List Char
  | '/' :: '/' :: rest => rest.span fun c => c ≠ '/' ∧ c ≠ '?' ∧ c ≠ '#'
  | url => ([], url)

def usesParams : List String :=
  ["", "ftp", "hdl", "prospero", "http", "imap", "https", "shttp", "rtsp", "rtsps", "rtspu",
    "sip", "sips", "mms", "sftp", "tel"]

/-- The text after the last of a separator, all of it where there is none. -/
def afterLast (separator : Char) (s : List Char) : List Char :=
  (s.reverse.takeWhile (· ≠ separator)).reverse

/-- Parameters stand in the last segment, after a semicolon. -/
def dropParams (path : List Char) : List Char :=
  let last := afterLast '/' path
  path.take (path.length - last.length) ++ last.takeWhile (· ≠ ';')

/-- `rejects` are the host parts for which `urlsplit` raises. -/
def urlparse (rejects : List Char → Bool) (url : String) : Except String ParseResult :=
  let (scheme, rest) := splitScheme (clean url.toList)
  let (netloc, rest) := splitNetloc rest
  if rejects netloc then .error "ValueError"
  else
    let path := (rest.takeWhile (· ≠ '#')).takeWhile (· ≠ '?')
    .ok ⟨scheme, netloc,
      if usesParams.contains (String.ofList scheme) then dropParams path else path⟩

/-- `urlparse(url).netloc`, where nothing is raised. -/
def netloc (url : String) : String :=
  String.ofList (splitNetloc (splitScheme (clean url.toList)).2).1

theorem netloc_of_urlparse {rejects : List Char → Bool} {url : String} {parsed : ParseResult}
    (h : urlparse rejects url = .ok parsed) : netloc url = String.ofList parsed.netloc := by
  unfold urlparse at h
  dsimp only at h
  split at h
  · cases h
  · cases h
    rfl

/-- `lower` is `str.lower`, which takes letters of any script. -/
def hostnameOf (lower : List Char → List Char) (netloc : List Char) : List Char :=
  let hostinfo := afterLast '@' netloc
  let hostname :=
    match hostinfo.dropWhile (· ≠ '[') with
    | '[' :: bracketed => bracketed.takeWhile (· ≠ ']')
    | _ => hostinfo.takeWhile (· ≠ ':')
  let (name, zone) := hostname.span (· ≠ '%')
  lower name ++ zone

/-- Empty where Python gives `None`. -/
def ParseResult.hostname (parsed : ParseResult) (lower : List Char → List Char) : List Char :=
  hostnameOf lower parsed.netloc

end RenkuNotebooks.PyUrl
