import Downlevel.Fault
import Downlevel.Xml.Document
/-!
# Elements

The tree of a document: each element with its tag, the text before its first child, and its children.
A tag is a local name, after its namespace in braces if it has one. The tags must nest, there is one
outermost element, and every prefix of a name is bound.
-/
namespace Downlevel.Xml

/-- A local name with its namespace in front, if it has one. -/
def qualifiedTag (space : Option String) (localPart : String) : String :=
  match space with
  | some s => "\x7b" ++ s ++ "\x7d" ++ localPart
  | none => localPart

/-- What stands in a tag after its last closing brace. -/
def localName (tag : String) : String :=
  String.ofList (tag.toList.reverse.takeWhile (· ≠ '}')).reverse

/-- An element. -/
inductive Element where
  | mk (tag : String) (text : List Char) (children : List Element)

namespace Element

/-- The tag. -/
def tag : Element → String
  | mk t _ _ => t

/-- The local name. -/
def name (e : Element) : String :=
  localName e.tag

/-- The text before the first child. -/
def text : Element → List Char
  | mk _ t _ => t

/-- The children. -/
def children : Element → List Element
  | mk _ _ cs => cs

/-- The first child with a local name. -/
def child? (e : Element) (n : String) : Option Element :=
  e.children.find? fun c => c.name == n

/-- The text without the blanks around it, if anything remains. -/
def content? (e : Element) : Option String :=
  let t := Text.strip e.text
  if t.isEmpty then none else some (String.ofList t)

end Element

/-- The bindings of prefixes; the empty prefix is the default one. -/
abbrev Bindings := List (List Char × List Char)

/-- The namespace of the prefix xml. -/
def xmlNamespace : List Char :=
  "http://www.w3.org/XML/1998/namespace".toList

/-- The namespace of the prefix xmlns. -/
def xmlnsNamespace : List Char :=
  "http://www.w3.org/2000/xmlns/".toList

/-- Adds the binding that an attribute makes, if it makes one; nothing if it may not. -/
def bind? (bindings : Bindings) (name value : List Char) : Option Bindings :=
  if name = "xmlns".toList then
    if value.contains '}' || value = xmlNamespace || value = xmlnsNamespace then none
    else some (([], value) :: bindings)
  else match splitName name with
    | none => none
    | some (some p, l) =>
      if p = "xmlns".toList then
        if l = "xmlns".toList || value.isEmpty || value.contains '}' || value = xmlnsNamespace then
          none
        else if (l = "xml".toList) != (value = xmlNamespace : Bool) then none
        else some ((l, value) :: bindings)
      else some bindings
    | some (none, _) => some bindings

/-- A name with its prefix replaced by the namespace; nothing if the prefix is not bound. -/
def expand? (bindings : Bindings) (name : List Char) : Option (List Char × List Char) :=
  match splitName name with
  | none => none
  | some (none, l) => some ([], l)
  | some (some p, l) =>
    if p = "xml".toList then some (xmlNamespace, l)
    else if p = "xmlns".toList then none
    else (bindings.lookup p).map (·, l)

/-- The namespace of an element with a prefix, or with none. An empty default stands for none. -/
def namespace? (bindings : Bindings) : Option (List Char) → Option (List Char)
  | some p => if p = "xml".toList then some xmlNamespace else bindings.lookup p
  | none => (bindings.lookup []).filter (· ≠ [])

/-- Whether an attribute binds a prefix. -/
def isBinding (name : List Char) : Bool :=
  name = "xmlns".toList || "xmlns:".toList.isPrefixOf name

/-- The bindings inside an element, if its names are in order and no attribute stands twice. -/
def enter? (bindings : Bindings) (name : List Char) (attributes : List (List Char × List Char)) :
    Option Bindings :=
  match attributes.foldlM (fun b a => bind? b a.1 a.2) bindings with
  | none => none
  | some inner =>
    let plain := (attributes.map Prod.fst).filter fun n => !isBinding n
    match plain.mapM (expand? inner), expand? inner name with
    | some expanded, some _ =>
      if expanded.Nodup && (attributes.map Prod.fst).Nodup then some inner else none
    | _, _ => none

/-- An element that is still open: its name, its text and children in reverse. -/
structure OpenElement where
  qualified : List Char
  bindings : Bindings
  text : List Char
  children : List Element

/-- The tag of an open element. -/
def OpenElement.tag (o : OpenElement) : String :=
  match splitName o.qualified with
  | some (p, l) =>
    qualifiedTag ((namespace? o.bindings p).map String.ofList) (String.ofList l)
  | none => String.ofList o.qualified

/-- The element that an open one becomes at its end. -/
def OpenElement.closed (o : OpenElement) : Element :=
  .mk o.tag o.text.reverse o.children.reverse

/-- Builds the tree from tokens, given the open elements, innermost first, and the outermost element
if it has ended. -/
def build (t : DocumentType) (opened : List OpenElement) (root : Option Element) :
    List Token → Option Element
  | [] => if opened.isEmpty then root else none
  | .text cs literal :: rest =>
    match opened with
    | [] => if literal && cs.all isSpace then build t [] root rest else none
    | o :: outer =>
      if o.children.isEmpty then build t ({ o with text := cs.reverse ++ o.text } :: outer) root rest
      else build t opened root rest
  | .start name attributes isEmpty :: rest =>
    if opened.isEmpty && root.isSome then none
    else match enter? ((opened.head?.map (·.bindings)).getD []) name
        (t.complete name attributes) with
      | none => none
      | some bindings =>
        let o : OpenElement := ⟨name, bindings, [], []⟩
        if isEmpty then
          match opened with
          | [] => build t [] (some o.closed) rest
          | p :: outer => build t ({ p with children := o.closed :: p.children } :: outer) root rest
        else build t (o :: opened) root rest
  | .stop name :: rest =>
    match opened with
    | [] => none
    | o :: outer =>
      if o.qualified = name then
        match outer with
        | [] => build t [] (some o.closed) rest
        | p :: outer' => build t ({ p with children := o.closed :: p.children } :: outer') root rest
      else none

/-- The failure to take a text for a document. -/
def notWellFormed : Failure :=
  ⟨.malformed "not well-formed", []⟩

/-- The outermost element of a document. -/
def parse (codecs : Codecs) (bytes : List UInt8) : Except Failure Element :=
  match frame codecs bytes with
  | .malformed => .error notWellFormed
  | .refused e => .error e
  | .content t ts =>
    match build t [] none ts with
    | some e => .ok e
    | none => .error notWellFormed

end Downlevel.Xml
