import SignedRest.Decimal.Unsigned
import SignedRest.Url.Segments

/-! URLs from text. A text is cut at its first delimiters, and every part is then read on its
own; what cannot stand in its part is escaped, except where it would change the host or port. -/
namespace SignedRest.Url

def isEdge (c : Char) : Bool := c ≤ ' '

def isDropped (c : Char) : Bool := c = '\t' || c = '\n' || c = '\r'

/-- Without blanks and controls at both ends, and without tabs and line ends anywhere. -/
def clean (s : String) : List Char :=
  (((s.toList.dropWhile isEdge).reverse.dropWhile isEdge).reverse).filter (!isDropped ·)

def isSchemeChar (c : Char) : Bool := c.isAlphanum || c = '+' || c = '-' || c = '.'

def cutScheme (cs : List Char) : Option (String × List Char) :=
  match cs.takeWhile isSchemeChar, cs.dropWhile isSchemeChar with
  | c :: name, ':' :: rest =>
    if c.isAlpha then some (String.ofList ((c :: name).map Char.toLower), rest) else none
  | _, _ => none

def isSlash (kind : Kind) (c : Char) : Bool := c = '/' || (kind.isSpecial && c = '\\')

def endsAuthority (kind : Kind) (c : Char) : Bool := isSlash kind c || c = '?' || c = '#'

def endsPath (c : Char) : Bool := c = '?' || c = '#'

def cutLast (sep : Char) (cs : List Char) : Option (List Char × List Char) :=
  if cs.contains sep then
    some (((cs.reverse.dropWhile (· ≠ sep)).drop 1).reverse,
      (cs.reverse.takeWhile (· ≠ sep)).reverse)
  else none

/-- The host, which ends at a colon outside brackets, and what follows it. -/
def cutHost : (inside : Bool) → List Char → List Char × List Char
  | _, [] => ([], [])
  | inside, c :: rest =>
    if c = ':' && !inside then ([], c :: rest)
    else
      let more := cutHost (if c = '[' then true else if c = ']' then false else inside) rest
      (c :: more.1, more.2)

def cutTail (kind : Kind) (cs : List Char) : Option String × Option String :=
  let body := cs.takeWhile (· ≠ '#')
  let query := match body with
    | '?' :: q => some (escape kind.inQuery q)
    | _ => none
  let fragment := match cs.dropWhile (· ≠ '#') with
    | '#' :: f => some (escape inFragment f)
    | _ => none
  (query, fragment)

def credentials (cs : List Char) : String × Option String :=
  let username := escape inUserinfo (cs.takeWhile (· ≠ ':'))
  match cs.dropWhile (· ≠ ':') with
  | ':' :: c :: password => (username, some (escape inUserinfo (c :: password)))
  | _ => (username, none)

/-- The number after the colon, at most 65535; none when there are no digits. Also what follows
the digits, which only a backslash may start. -/
def portNumber (cs : List Char) : Except UrlError (Option Nat × List Char) :=
  let ds := cs.takeWhile Char.isDigit
  let rest := cs.dropWhile Char.isDigit
  let n := Decimal.ofDigits ds
  if 65535 < n then .error .invalidPort
  else if rest.isEmpty || rest.head? = some '\\' then
    .ok (if ds.isEmpty then none else some n, rest)
  else .error .invalidPort

def hostOf (kind : Kind) (cs : List Char) : Except UrlError Host :=
  match kind with
  | .other => Host.parseOther cs
  | _ => if cs.isEmpty then .error .emptyHost else Host.parse cs

def hostAndPort (scheme : String) (cs : List Char) :
    Except UrlError (Host × Option Nat × List Char) := do
  let (name, after) := cutHost false cs
  let host ← hostOf (kindOf scheme) name
  match after with
  | ':' :: digits =>
    if host = Host.empty then .error .emptyHost
    else do
      let (port, rest) ← portNumber digits
      pure (host, effectivePort scheme port, rest)
  | _ => pure (host, none, after)

/-- The authority that a text names; `closed` tells that a delimiter follows it. -/
def authorityOf (scheme : String) (closed : Bool) (cs : List Char) :
    Except UrlError (Authority × List Char) := do
  match cutLast '@' cs with
  | none =>
    let (host, port, rest) ← hostAndPort scheme cs
    pure (⟨"", none, host, port⟩, rest)
  | some (user, after) =>
    if user.isEmpty && after.isEmpty && closed then .error .emptyHost
    else do
      let (username, password) := credentials user
      let (host, port, rest) ← hostAndPort scheme after
      if host = Host.empty && !(username = "" && password = none) then .error .emptyHost
      else pure (⟨username, password, host, port⟩, rest)

def pathAfter (kind : Kind) (cs : List Char) : Path :=
  match cs with
  | [] => if kind = .other then .segments [] else pathOf kind []
  | c :: rest => if isSlash kind c then pathOf kind rest else pathOf kind (c :: rest)

def afterSlashes (scheme : String) (cs : List Char) : Except UrlError Url := do
  let kind := kindOf scheme
  let text := cs.takeWhile (!endsAuthority kind ·)
  let rest := cs.dropWhile (!endsAuthority kind ·)
  let (authority, left) ← authorityOf scheme (!rest.isEmpty) text
  let rest := left ++ rest
  let (query, fragment) := cutTail kind (rest.dropWhile (!endsPath ·))
  pure ⟨scheme, some authority, pathAfter kind (rest.takeWhile (!endsPath ·)), query, fragment⟩

/-- A URL without an authority: its path is cut into segments only behind a slash. -/
def withoutAuthority (scheme : String) (cs : List Char) : Url :=
  let (query, fragment) := cutTail .other (cs.dropWhile (!endsPath ·))
  let path := match cs.takeWhile (!endsPath ·) with
    | '/' :: rest => pathOf .other rest
    | text => .verbatim (escape Host.isVisible text)
  ⟨scheme, none, path, query, fragment⟩

def fileHost (cs : List Char) : Except UrlError Host :=
  if cs.isEmpty then .ok Host.empty
  else (Host.parse cs).map fun h => if h = .domain "localhost" then Host.empty else h

def fileUrl (host : Host) (pathText tail : List Char) : Url :=
  let (query, fragment) := cutTail .file tail
  let host := if namesDrive [] (cut .file pathText) then Host.empty else host
  ⟨"file", some ⟨"", none, host, none⟩, pathOf .file pathText, query, fragment⟩

def afterFile (cs : List Char) : Except UrlError Url := do
  let text := cs.takeWhile (!endsPath ·)
  let tail := cs.dropWhile (!endsPath ·)
  match text with
  | a :: b :: rest =>
    if isSlash .file a && isSlash .file b then
      let name := rest.takeWhile (!isSlash .file ·)
      if isDrive name then pure (fileUrl Host.empty rest tail)
      else do
        let host ← fileHost name
        pure (fileUrl host ((rest.dropWhile (!isSlash .file ·)).drop 1) tail)
    else pure (fileUrl Host.empty (dropSlash text) tail)
  | _ => pure (fileUrl Host.empty (dropSlash text) tail)
where
  dropSlash (cs : List Char) : List Char :=
    if (cs.head?.map (isSlash .file)).getD false then cs.tail else cs

/-- What follows the scheme's colon, however many slashes a web address has there. -/
def afterScheme (scheme : String) (cs : List Char) : Except UrlError Url :=
  match kindOf scheme with
  | .file => afterFile cs
  | .web => afterSlashes scheme (cs.dropWhile (isSlash .web))
  | .other =>
    match cs with
    | '/' :: '/' :: rest => afterSlashes scheme rest
    | _ => .ok (withoutAuthority scheme cs)

def parse (s : String) : Except UrlError Url :=
  match cutScheme (clean s) with
  | some (scheme, rest) => afterScheme scheme rest
  | none => .error .relativeWithoutBase

end SignedRest.Url
