import SignedRest.Text.Cut

/-! What an endpoint is set up with: the template of its URL, the user agent, limits of time,
and which of its doings are logged. -/
namespace SignedRest

structure DebugFlags where
  calls : Bool
  oauth : Bool
  xml : Bool
  deriving DecidableEq, Repr

namespace DebugFlags

def none : DebugFlags := ⟨false, false, false⟩
def all : DebugFlags := ⟨true, true, true⟩

/-- Switches on the topic of a name; other names change nothing. -/
def enable (flags : DebugFlags) (name : String) : DebugFlags :=
  if name = "all" then all
  else if name = "calls" || name = "proxy" then { flags with calls := true }
  else if name = "oauth" then { flags with oauth := true }
  else if name = "xml" || name = "xml-parser" then { flags with xml := true }
  else flags

def parse (list : String) : DebugFlags :=
  ((list.toList.splitOn ',').map (String.ofList ∘ trim)).foldl enable none

end DebugFlags

structure Config where
  /-- The base URL, in which every `%s` is a place to fill. -/
  template : String
  bindingRequired : Bool
  userAgent : Option String
  timeoutMs : Nat
  connectTimeoutMs : Nat
  uploadTimeoutMs : Nat
  /-- Whether certificates must be valid. -/
  strictTls : Bool
  debug : DebugFlags
  deriving DecidableEq, Repr

namespace Config

/-- Five minutes for a call, ten seconds for a connection, an hour for an upload. -/
def ofTemplate (template : String) : Config :=
  ⟨template, false, none, 300000, 10000, 3600000, true, .none⟩

end Config

namespace Template

def pieces : List Char → List (List Char)
  | '%' :: 's' :: rest => [] :: pieces rest
  | [] => [[]]
  | c :: rest =>
    match pieces rest with
    | [] => [[c]]
    | piece :: more => (c :: piece) :: more

def gapCount (template : String) : Nat := (pieces template.toList).length - 1

def markCount : List Char → Nat
  | '%' :: 's' :: rest => markCount rest + 1
  | [] => 0
  | _ :: rest => markCount rest

def placeCount (template : String) : Nat := markCount template.toList

/-- The pieces with one argument between each two. -/
def interleave : List (List Char) → List String → List Char
  | piece :: pieces, arg :: args => piece ++ arg.toList ++ interleave pieces args
  | pieces, _ => pieces.flatten

def fill (template : String) (args : List String) : String :=
  String.ofList (interleave (pieces template.toList) args)

end Template
end SignedRest
