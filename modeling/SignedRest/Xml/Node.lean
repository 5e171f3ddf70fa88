import SignedRest.Text.Utf8

/-! The elements of a document. The text directly inside an element is one string, whatever
stands in between; child elements keep their order. -/
namespace SignedRest.Xml

inductive Node
  | element (name : String) (attrs : List (String × String)) (content : Option String)
      (children : List Node)
  deriving Repr, Inhabited

namespace Node

def name : Node → String
  | element name _ _ _ => name

def attrs : Node → List (String × String)
  | element _ attrs _ _ => attrs

def content : Node → Option String
  | element _ _ content _ => content

def children : Node → List Node
  | element _ _ _ children => children

@[simp] theorem name_element (n : String) (a : List (String × String)) (c : Option String)
    (ch : List Node) : (element n a c ch).name = n := rfl

@[simp] theorem children_element (n : String) (a : List (String × String)) (c : Option String)
    (ch : List Node) : (element n a c ch).children = ch := rfl

def addChild (n : Node) (child : Node) : Node :=
  match n with
  | element name attrs content children => element name attrs content (children ++ [child])

/-- Text goes behind the text that is there already. -/
def addText (n : Node) (text : String) : Node :=
  match n with
  | element name attrs content children =>
    element name attrs (some (content.getD "" ++ text)) children

def attr? (n : Node) (key : String) : Option String := (n.attrs.find? (·.1 = key)).map (·.2)

def childrenNamed (n : Node) (name : String) : List Node := n.children.filter (·.name = name)

mutual

/-- The first node of a name, the node itself before what is in it, and that in order. -/
def find? (name : String) : Node → Option Node
  | element n attrs content children =>
    if n = name then some (element n attrs content children) else findIn? name children

def findIn? (name : String) : List Node → Option Node
  | [] => none
  | child :: rest =>
    match find? name child with
    | some found => some found
    | none => findIn? name rest

end

end Node
end SignedRest.Xml
