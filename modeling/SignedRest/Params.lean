import SignedRest.Text.Utf8

/-! The parameters of a call, in the order in which their names were first added. A name occurs
once: adding it again replaces the parameter where it stands, whatever its kind. -/
namespace SignedRest

inductive ParamValue
  | text (s : String)
  | binary (content : Bytes) (contentType : String) (fileName : Option String)
  deriving DecidableEq, Repr

structure Param where
  name : String
  value : ParamValue
  deriving DecidableEq, Repr

namespace Param

def text? (p : Param) : Option String :=
  match p.value with
  | .text s => some s
  | .binary .. => none

def isText (p : Param) : Bool := p.text?.isSome

def content (p : Param) : Bytes :=
  match p.value with
  | .text s => Utf8.encode s
  | .binary content .. => content

def contentType? (p : Param) : Option String :=
  match p.value with
  | .text _ => none
  | .binary _ contentType _ => some contentType

def fileName? (p : Param) : Option String :=
  match p.value with
  | .text _ => none
  | .binary _ _ fileName => fileName

def pair? (p : Param) : Option (String × String) := p.text?.map (p.name, ·)

end Param

structure Params where
  items : List Param
  distinct : (items.map (·.name)).Nodup
  deriving DecidableEq, Repr

namespace Params

def empty : Params := ⟨[], by simp⟩

/-- Puts a parameter where one of its name stands, or at the end. -/
def place (p : Param) : List Param → List Param
  | [] => [p]
  | q :: rest => if q.name = p.name then p :: rest else q :: place p rest

theorem names_place (p : Param) (items : List Param) :
    (place p items).map (·.name) =
      if p.name ∈ items.map (·.name) then items.map (·.name)
      else items.map (·.name) ++ [p.name] := by
  induction items with
  | nil => simp [place]
  | cons q rest ih =>
    by_cases h : q.name = p.name
    · simp [place, h]
    · have h' : ¬ p.name = q.name := fun e => h e.symm
      simp only [place, h, if_false, List.map_cons, ih, List.mem_cons, h', false_or]
      split <;> simp

theorem nodup_place (p : Param) {items : List Param} (h : (items.map (·.name)).Nodup) :
    ((place p items).map (·.name)).Nodup := by
  rw [names_place]
  split
  · exact h
  · rename_i absent
    rw [List.nodup_append]
    refine ⟨h, by simp, ?_⟩
    intro a ha b hb e
    simp only [List.mem_singleton] at hb
    exact absent (hb ▸ e ▸ ha)

def add (ps : Params) (p : Param) : Params := ⟨place p ps.items, nodup_place p ps.distinct⟩

def addText (ps : Params) (name value : String) : Params := ps.add ⟨name, .text value⟩

def ofList (list : List Param) : Params := list.foldl add empty

def get? (ps : Params) (name : String) : Option Param := ps.items.find? (·.name = name)

theorem nodup_filter (keep : Param → Bool) (ps : Params) :
    ((ps.items.filter keep).map (·.name)).Nodup :=
  ps.distinct.sublist ((List.filter_sublist ..).map _)

def filter (ps : Params) (keep : Param → Bool) : Params :=
  ⟨ps.items.filter keep, ps.nodup_filter keep⟩

/-- The first parameter of a name, and everything else. -/
def remove (ps : Params) (name : String) : Option Param × Params :=
  (ps.get? name, ⟨ps.items.eraseP (·.name = name),
    ps.distinct.sublist (List.eraseP_sublist.map _)⟩)

/-- The parameters that match, in order, and the others. -/
def drain (ps : Params) (p : Param → Bool) : List Param × Params :=
  (ps.items.filter p, ps.filter (!p ·))

def areTexts (ps : Params) : Bool := ps.items.all (·.isText)

/-- The names and values of the text parameters. -/
def pairs (ps : Params) : List (String × String) := ps.items.filterMap (·.pair?)

end Params
end SignedRest
