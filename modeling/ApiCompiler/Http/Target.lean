/-!
The target of a request: a path and perhaps a query, both still encoded. A target is written from
its path on, or with a scheme and an authority in front of it; whatever follows a number sign is not
part of it. An authority is perhaps a user and an at sign, then a host, perhaps with a colon and a
port. Brackets stand around a host that is an address, and percent signs only within them or in a
user.
-/

set_option autoImplicit false

namespace ApiCompiler.Http

/-- What has been met on the way through an authority. Colons and percent signs are forgotten where
a user or an address ends. -/
structure Authority where
  colons : Nat := 0
  opened : Bool := false
  closed : Bool := false
  percent : Bool := false
  deriving DecidableEq, Repr, Inhabited

namespace Authority

/-- No address has more colons. -/
def mostColons : Nat := 8

def isPlainChar (character : Char) : Bool :=
  character.isAlphanum || "!$&'()*+,-.;=_~".toList.contains character

def step (authority : Authority) (character : Char) : Option Authority :=
  match character with
  | ':' =>
      if authority.colons < mostColons then some { authority with colons := authority.colons + 1 }
      else none
  | '[' =>
      if authority.percent || authority.opened then none else some { authority with opened := true }
  | ']' =>
      if authority.opened && !authority.closed then some { opened := true, closed := true }
      else none
  | '@' => some { authority with colons := 0, percent := false }
  | '%' => some { authority with percent := true }
  | _ => if isPlainChar character then some authority else none

/-- Brackets come in a pair, one colon at most is left, and no percent sign. -/
def isComplete (authority : Authority) : Bool :=
  authority.opened == authority.closed && decide (authority.colons ≤ 1) && !authority.percent

/-- Whether a text is an authority. A user is followed by a host. -/
def isWellFormed (text : List Char) : Bool :=
  match text.foldlM step ({} : Authority) with
  | some authority => !text.isEmpty && authority.isComplete && text.getLast? != some '@'
  | none => false

end Authority

structure Target where
  path : String
  query : Option String
  deriving DecidableEq, Repr, Inhabited

namespace Target

/-- Blanks, controls and a few signs do not stand in a path. -/
def isPathChar (character : Char) : Bool :=
  decide (32 < character.toNat) && !"#<>?`".toList.contains character

def isQueryChar (character : Char) : Bool :=
  decide (32 < character.toNat) && !"\"#<>".toList.contains character

/-- A query stands behind a question mark. -/
def query? : List Char → Option String
  | '?' :: query => some (String.ofList query)
  | _ => none

def isWellFormedQuery : List Char → Bool
  | '?' :: query => query.all isQueryChar
  | _ => true

/-- A path and what follows it; no path at all is the root. -/
def ofPath? (text : List Char) : Option Target :=
  let significant := text.takeWhile (· ≠ '#')
  let path := significant.takeWhile (· ≠ '?')
  let rest := significant.dropWhile (· ≠ '?')
  if path.all isPathChar && isWellFormedQuery rest then
    some ⟨if path.isEmpty then "/" else String.ofList path, query? rest⟩
  else none

def isSchemeChar (character : Char) : Bool :=
  character.isAlphanum || "+-.".toList.contains character

def longestScheme : Nat := 64

def endsAuthority (character : Char) : Bool := "/?#".toList.contains character

/-- A target that does not begin with its path. Without a scheme there is nothing but an authority,
and no path. -/
def ofAbsolute? (text : List Char) : Option Target :=
  let scheme := text.takeWhile isSchemeChar
  match text.dropWhile isSchemeChar with
  | ':' :: '/' :: '/' :: rest =>
      let authority := rest.takeWhile fun character => !endsAuthority character
      if scheme.length ≤ longestScheme && Authority.isWellFormed authority then
        ofPath? (rest.dropWhile fun character => !endsAuthority character)
      else none
  | _ => if Authority.isWellFormed text then some ⟨"", none⟩ else none

/-- The number of bytes in the longest target. -/
def longest : Nat := 65534

def read? (text : String) : Option Target :=
  if longest < text.utf8ByteSize then none
  else
    match text.toList with
    | '/' :: rest => ofPath? ('/' :: rest)
    | ['*'] => some ⟨"*", none⟩
    | other => ofAbsolute? other

end Target

end ApiCompiler.Http
