import Mathlib.Data.List.Basic
import Mathlib.Data.Rat.Cast.Defs

/-!
# The configuration document

The elements of a parsed document as tinyxml2 hands them out, in document order, and
the queries `loadConfig` makes on them. A query with a default gives the default when
the attribute or text is missing or cannot be converted.
-/

namespace RmdCanSdk

/-- An element, with the value of its first child if that is a text node, and its child
elements. -/
structure XMLElement where
  name : String
  attributes : List (String × String)
  text : Option String
  children : List XMLElement

/-- What `sscanf` reads with the formats that tinyxml2 uses. Numbers out of range of the
target type are undefined there, so nothing is said about them here. -/
structure Scanf (F : Type) where
  decimal : String → Option Int
  hexadecimal : String → Option Int
  decimal64 : String → Option Int
  hexadecimal64 : String → Option Int
  float : String → Option F

variable {F : Type}

/-! ## Conversions -/

namespace XMLUtil

def isWhiteSpace (ch : Char) : Bool := ch ∈ [' ', '\t', '\n', '\x0b', '\x0c', '\r']

/-- Whether the text begins, after white space, like a hexadecimal number. -/
def isPrefixHex (str : String) : Bool :=
  match str.toList.dropWhile isWhiteSpace with
  | '0' :: 'x' :: _ => true
  | '0' :: 'X' :: _ => true
  | _ => false

def toInt (scanf : Scanf F) (str : String) : Option Int :=
  if isPrefixHex str then scanf.hexadecimal str else scanf.decimal str

def toInt64 (scanf : Scanf F) (str : String) : Option Int :=
  if isPrefixHex str then scanf.hexadecimal64 str else scanf.decimal64 str

def toBool (scanf : Scanf F) (str : String) : Option Bool :=
  match toInt scanf str with
  | some value => some (decide (value ≠ 0))
  | none =>
      if str ∈ ["true", "True", "TRUE"] then some true
      else if str ∈ ["false", "False", "FALSE"] then some false
      else none

end XMLUtil

/-! ## Queries -/

namespace XMLElement

variable (scanf : Scanf F) (element : XMLElement) (name : String)

def firstChildElement : Option XMLElement :=
  element.children.find? fun child => child.name = name

/-- The elements that `FirstChildElement` and `NextSiblingElement` with one name go
through. -/
def childElements : List XMLElement :=
  element.children.filter fun child => child.name = name

/-- The value of the first attribute with this name. -/
def «attribute» : Option String :=
  (element.attributes.find? fun entry => entry.1 = name).map Prod.snd

def intAttribute (fallback : Int) : Int :=
  ((element.attribute name).bind (XMLUtil.toInt scanf)).getD fallback

def int64Attribute (fallback : Int) : Int :=
  ((element.attribute name).bind (XMLUtil.toInt64 scanf)).getD fallback

def boolAttribute (fallback : Bool) : Bool :=
  ((element.attribute name).bind (XMLUtil.toBool scanf)).getD fallback

def intText (fallback : Int) : Int :=
  (element.text.bind (XMLUtil.toInt scanf)).getD fallback

def floatText (fallback : F) : F :=
  (element.text.bind scanf.float).getD fallback

end XMLElement

/-- The elements with a name in a section, and none if there is no such section. -/
def XMLElement.elementsIn (name : String) : List String → XMLElement → List XMLElement
  | [], element => element.childElements name
  | step :: rest, element =>
      match element.firstChildElement step with
      | none => []
      | some child => elementsIn name rest child

/-! ## Plain documents -/

def leaf (name : String) (attributes : List (String × String)) : XMLElement where
  name := name
  attributes := attributes
  text := none
  children := []

def branch (name : String) (children : List XMLElement) : XMLElement where
  name := name
  attributes := []
  text := none
  children := children

/-- The number that digits with or without a minus sign spell. -/
def plainNumber (str : String) : Option Int :=
  let digits (chars : List Char) : Option Int :=
    if chars ≠ [] ∧ chars.all Char.isDigit then
      some (chars.foldl (fun value ch => 10 * value + (ch.toNat - '0'.toNat : Nat)) 0)
    else none
  match str.toList with
  | '-' :: rest => (digits rest).map Neg.neg
  | chars => digits chars

/-- `sscanf` on documents that hold plain numbers only. -/
def plainScanf : Scanf ℚ where
  decimal := plainNumber
  hexadecimal := fun _ => none
  decimal64 := plainNumber
  hexadecimal64 := fun _ => none
  float := fun str => (plainNumber str).map Int.cast

end RmdCanSdk
