import ApiCompiler.Url.Address

/-!
Which texts are absolute URLs. A scheme and a colon begin them; what follows is a host with perhaps
a port, for the schemes of the web always, and for others only behind two slashes. Blanks around a
text do not count, nor do tabs and line breaks inside it. What domain names are judged by is told
in the module of domains.
-/

set_option autoImplicit false

namespace ApiCompiler.Url

inductive SchemeForm
  /-- A scheme of the web, which needs a host. -/
  | web
  | file
  | other
  deriving DecidableEq, Repr

def SchemeForm.ofName (name : String) : SchemeForm :=
  if ["http", "https", "ws", "wss", "ftp"].contains name then .web
  else if name = "file" then .file
  else .other

/-- In the special schemes a backslash counts as a slash. -/
def SchemeForm.isSlash (form : SchemeForm) (character : Char) : Bool :=
  character = '/' || character = '\\' && form != .other

def isControlOrSpace (character : Char) : Bool := character.toNat ≤ 32

def isTabOrBreak (character : Char) : Bool :=
  character = '\t' || character = '\n' || character = '\r'

/-- The characters of a text that count. -/
def significant (text : String) : List Char :=
  let front := text.toList.dropWhile isControlOrSpace
  (front.reverse.dropWhile isControlOrSpace).reverse.filter fun character =>
    !isTabOrBreak character

def isSchemeChar (character : Char) : Bool :=
  character.isAlphanum || character = '+' || character = '-' || character = '.'

/-- The scheme in small letters, and what follows its colon. -/
def splitScheme? (text : List Char) : Option (String × List Char) :=
  match text.takeWhile isSchemeChar, text.dropWhile isSchemeChar with
  | first :: others, ':' :: rest =>
      if first.isAlpha then some (String.ofList ((first :: others).map Char.toLower), rest)
      else none
  | _, _ => none

/-- Whether a character ends the part with user, host and port. -/
def endsAuthority (form : SchemeForm) (character : Char) : Bool :=
  form.isSlash character || character = '?' || character = '#'

/-- User information before the last at sign, if there is one, and the rest. -/
def splitUser (authority : List Char) : Option (List Char) × List Char :=
  let reversed := authority.reverse
  match reversed.dropWhile (· ≠ '@') with
  | [] => (none, authority)
  | _ :: user => (some user.reverse, (reversed.takeWhile (· ≠ '@')).reverse)

/-- The host before the first colon that is outside of brackets, and the rest. -/
def splitHost : (inBrackets : Bool) → List Char → List Char × List Char
  | _, [] => ([], [])
  | inBrackets, character :: rest =>
      if character = ':' ∧ !inBrackets then ([], character :: rest)
      else
        let inside := character = '[' || inBrackets && character ≠ ']'
        let (host, after) := splitHost inside rest
        (character :: host, after)

/-- An address of eight pieces in brackets. -/
def checkBrackets (host : List Char) : Except UrlFault Unit :=
  let inner := host.drop 1
  if inner.getLast? = some ']' ∧ Address.isIpv6 inner.dropLast then .ok ()
  else .error .invalidIpv6

/-- The host of a special scheme: an address or a domain name. -/
def checkHost (host : List Char) : Except UrlFault Unit :=
  if host.head? = some '[' then checkBrackets host
  else
    match Domain.ofEncoded? (String.ofList host) with
    | none => .error .invalidDomainName
    | some [] => .error .emptyHost
    | some name =>
        if Address.endsInNumber name && !Address.isIpv4 name then .error .invalidIpv4 else .ok ()

def isForbiddenInHost (character : Char) : Bool :=
  character.toNat = 0 || "\t\n\r #/:<>?@[\\]^|".toList.contains character

/-- The host of any other scheme is not interpreted. -/
def checkOpaqueHost (host : List Char) : Except UrlFault Unit :=
  if host.head? = some '[' then checkBrackets host
  else if host.any isForbiddenInHost then .error .invalidDomainCharacter
  else .ok ()

/-- What stands behind a host: nothing, or a colon and a port, which may be empty. A backslash ends
the port. -/
def checkPort : List Char → Except UrlFault Unit
  | ':' :: behind =>
      let digits := behind.takeWhile (· ≠ '\\')
      if digits.all Char.isDigit ∧ digitsToNat digits < Nat.pow 2 16 then .ok ()
      else .error .invalidPort
  | _ => .ok ()

def namesUser (user : List Char) : Bool := !user.isEmpty && user ≠ [':']

def checkAuthority (form : SchemeForm) (text : List Char) : Except UrlFault Unit := do
  let authority := text.takeWhile fun character => !endsAuthority form character
  let rest := text.dropWhile fun character => !endsAuthority form character
  let (user, place) := splitUser authority
  if user = some [] ∧ place.isEmpty ∧ !rest.isEmpty then throw .emptyHost
  let (host, after) := splitHost false place
  if form = .web ∧ host.isEmpty then throw .emptyHost
  if form = .web then checkHost host else checkOpaqueHost host
  if host.isEmpty ∧ !after.isEmpty then throw .emptyHost
  checkPort after
  if host.isEmpty ∧ user.any namesUser then throw .emptyHost

def isDriveLetter (host : List Char) : Bool :=
  match host with
  | [letter, mark] => letter.isAlpha && (mark = ':' || mark = '|')
  | _ => false

/-- A file has a host only behind two slashes. -/
def checkFile (text : List Char) : Except UrlFault Unit :=
  match text with
  | first :: second :: rest =>
      let host := rest.takeWhile fun character => !endsAuthority .file character
      if SchemeForm.file.isSlash first && SchemeForm.file.isSlash second && !host.isEmpty
        && !isDriveLetter host
      then checkHost host
      else .ok ()
  | _ => .ok ()

def checkBehindScheme (form : SchemeForm) (text : List Char) : Except UrlFault Unit :=
  match form with
  | .web => checkAuthority .web (text.dropWhile SchemeForm.web.isSlash)
  | .file => checkFile text
  | .other =>
      match text with
      | '/' :: '/' :: rest => checkAuthority .other rest
      | _ => .ok ()

/-- Whether a text is an absolute URL. -/
def check (text : String) : Except UrlFault Unit :=
  match splitScheme? (significant text) with
  | none => .error .relativeWithoutBase
  | some (scheme, rest) => checkBehindScheme (.ofName scheme) rest

end ApiCompiler.Url
