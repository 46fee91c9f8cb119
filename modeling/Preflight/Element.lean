/-! Names of pipeline elements: the plugin that registered the element, and a label of that
plugin's own. Names are ordered by plugin, then label, both by code point. -/
namespace Preflight

inductive ElementKind where
  | source | transform | output
deriving DecidableEq, Repr, Inhabited

namespace ElementKind

def all : List ElementKind := [.source, .transform, .output]

def word : ElementKind → String
  | source => "source"
  | transform => "transform"
  | output => "output"

def plural (k : ElementKind) : String := k.word ++ "s"

/-- The type name that displays of a name of this kind begin with. -/
def typeName : ElementKind → String
  | source => "SourceName"
  | transform => "TransformName"
  | output => "OutputName"

end ElementKind

structure ElementName where
  plugin : String
  label : String
deriving DecidableEq, Repr, Inhabited

namespace ElementName

/-- The source that the test harness adds to a pipeline. No one declares it. -/
def harness : ElementName := ⟨"_test_runtime_expectations", "_tester"⟩

/-- The text of a name. Parts are joined as they are, so a part that holds a slash can make two
names look alike. -/
def path (kind : ElementKind) (n : ElementName) : String :=
  kind.word ++ "/" ++ n.plugin ++ "/" ++ n.label

def lt (a b : ElementName) : Bool :=
  a.plugin < b.plugin || (a.plugin == b.plugin && a.label < b.label)

def le (a b : ElementName) : Bool := !lt b a

def sort (names : List ElementName) : List ElementName := names.mergeSort le

end ElementName

/-- A name together with the kind of what it names. -/
structure Element where
  kind : ElementKind
  name : ElementName
deriving DecidableEq, Repr

namespace Element

def path (e : Element) : String := e.name.path e.kind

def isHarness (e : Element) : Bool := e == ⟨.source, .harness⟩

/-- Elements of one kind in increasing order. -/
def sort? : List Element → Option (List Element)
  | [] => some []
  | e :: rest =>
    if rest.all (·.kind == e.kind) then
      some ((ElementName.sort ((e :: rest).map (·.name))).map (⟨e.kind, ·⟩))
    else none

end Element
end Preflight
