import SignedRest.Url.Reader

/-! Texts read relative to a web address. -/
namespace SignedRest.Url

def segmentList (u : Url) : List String :=
  match u.path with
  | .segments list => list
  | .verbatim _ => []

/-- A path relative to the segments before the last one. -/
def relativePath (u : Url) (cs : List Char) : Path :=
  settle u.kind (addSegments u.kind u.segmentList.dropLast (cut u.kind cs))

def joinRelative (base : Url) (cs : List Char) : Except UrlError Url :=
  match cs with
  | a :: b :: rest =>
    if isSlash base.kind a && isSlash base.kind b then
      afterSlashes base.scheme (rest.dropWhile (isSlash base.kind))
    else .ok (inPlace (a :: b :: rest))
  | _ => .ok (inPlace cs)
where
  inPlace (cs : List Char) : Url :=
    let text := cs.takeWhile (!endsPath ·)
    let tail := cs.dropWhile (!endsPath ·)
    let (query, fragment) := cutTail base.kind tail
    match text with
    | [] =>
      { base with query := if tail.head? = some '?' then query else base.query
                  fragment := fragment }
    | c :: rest =>
      let path := if isSlash base.kind c then pathOf base.kind rest
        else base.relativePath text
      { base with path := path, query := query, fragment := fragment }

/-- A text relative to a web address. One that repeats the scheme may still be relative. -/
def join (base : Url) (s : String) : Except UrlError Url :=
  let cs := clean s
  match cutScheme cs with
  | some (scheme, rest) =>
    if scheme = base.scheme && base.kind = .web
        && (rest.takeWhile (isSlash .web)).length < 2 then joinRelative base rest
    else afterScheme scheme rest
  | none =>
    match base.path with
    | .verbatim _ =>
      if cs.head? = some '#' then .ok { base with fragment := (cutTail base.kind cs).2 }
      else .error .relativeWithoutBase
    | .segments _ => joinRelative base cs

end SignedRest.Url
