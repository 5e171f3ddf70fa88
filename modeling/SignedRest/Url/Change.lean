import SignedRest.Url.Reader

/-! Parts of a URL replaced. -/
namespace SignedRest.Url

/-- Without trailing blanks, which a verbatim path can end in only before a query or fragment. -/
def Path.stripped : Path → Path
  | .verbatim text => .verbatim (String.ofList (text.toList.reverse.dropWhile (· = ' ')).reverse)
  | path => path

def withoutTail (u : Url) : Url :=
  { u with path := u.path.stripped, query := none, fragment := none }

/-- The text before a colon, unless all of it is a bracketed address. -/
def beforeColon (cs : List Char) : List Char :=
  if cs.head? = some '[' && cs.getLast? = some ']' then cs else cs.takeWhile (· ≠ ':')

def Authority.withHost (a : Option Authority) (host : Host) : Authority :=
  match a with
  | some a => { a with host := host }
  | none => ⟨"", none, host, none⟩

/-- A path that a guard stood before keeps it as a segment. -/
def guardedPath (u : Url) : Path :=
  match u.guard, u.path with
  | "", path => path
  | _, .segments list => .segments ("." :: list)
  | _, path => path

/-- Replaces the host by the one that a text names before its first colon. -/
def setHost (u : Url) (text : String) : Except UrlError Url := do
  match u.path with
  | .verbatim _ => .error .noHostToSet
  | .segments _ =>
    if text = "" && u.kind = .web then .error .emptyHost
    else
      let name := beforeColon text.toList
      if name.isEmpty && text ≠ "" then .error .invalidDomainCharacter
      else do
        let host ← if u.kind = .other then Host.parseOther name else Host.parse name
        pure { u with authority := some (Authority.withHost u.authority host)
                      path := u.guardedPath }

/-- Replaces the port; files and URLs without a host have none. -/
def setPort? (u : Url) (port : Nat) : Option Url :=
  match u.authority with
  | some a =>
    if u.kind = .file || a.host = Host.empty then none
    else some { u with authority := some { a with port := effectivePort u.scheme (some port) } }
  | none => none

end SignedRest.Url
