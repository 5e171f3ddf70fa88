import SignedRest.Url.Basic

/-! The path of a URL from its text: dots are resolved and Windows drive letters recognised. -/
namespace SignedRest.Url

def dropDot : List Char → Option (List Char)
  | '.' :: rest => some rest
  | '%' :: '2' :: e :: rest => if e = 'e' || e = 'E' then some rest else none
  | _ => none

def isDot (s : List Char) : Bool := dropDot s = some []
def isTwoDots (s : List Char) : Bool := (dropDot s).bind dropDot = some []

def isDrive : List Char → Bool
  | [c, m] => c.isAlpha && (m = ':' || m = '|')
  | _ => false

/-- Without the last segment; a drive letter stays. -/
def dropLastSegment (done : List String) : List String :=
  if (done.getLast?.map fun s => isDrive s.toList).getD false then done else done.dropLast

/-- The segment as it is kept. The first one of a file's path may name a drive. -/
def segmentText (kind : Kind) (isFirst : Bool) (s : List Char) : String :=
  match s with
  | [c, '|'] => if kind = .file && isFirst && c.isAlpha then String.ofList [c, ':']
    else escape inPath s
  | _ => escape inPath s

/-- Adds the segments of a text to a path. Dots at the end leave an empty segment behind. -/
def addSegments (kind : Kind) (done : List String) : List (List Char) → List String
  | [] => done
  | s :: rest =>
    if isTwoDots s then
      addSegments kind (dropLastSegment done ++ if rest.isEmpty then [""] else []) rest
    else if isDot s then addSegments kind (done ++ if rest.isEmpty then [""] else []) rest
    else addSegments kind (done ++ [segmentText kind done.isEmpty s]) rest

def cut (kind : Kind) (cs : List Char) : List (List Char) :=
  cs.splitOnP fun c => c = '/' || (kind.isSpecial && c = '\\')

def collapse : List String → List String
  | "" :: s :: rest => collapse (s :: rest)
  | list => list

def settle (kind : Kind) (list : List String) : Path :=
  .segments (if kind = .file then collapse list else list)

/-- Whether some segment, when it is reached, is the first and names a drive. -/
def namesDrive (done : List String) : List (List Char) → Bool
  | [] => false
  | s :: rest =>
    if isTwoDots s then namesDrive (dropLastSegment done) rest
    else if isDot s then namesDrive done rest
    else (done.isEmpty && isDrive s) || namesDrive (done ++ [escape inPath s]) rest

def pathOf (kind : Kind) (cs : List Char) : Path :=
  settle kind (addSegments kind [] (cut kind cs))

end SignedRest.Url
