import SasCore.Injection.Service

set_option autoImplicit false

namespace SasCore.Federal

open Injection

-- An element of a parsed document, with its tag in Clark notation and its text when it has one.
inductive Xml where
  | element (tag : String) (attributes : List (String × String)) (text : Option String) (children : List Xml)

namespace Xml

def tag : Xml → String
  | element tag _ _ _ => tag

def text : Xml → Option String
  | element _ _ text _ => text

def children : Xml → List Xml
  | element _ _ _ children => children

def get (xml : Xml) (name : String) : Option String :=
  match xml with
  | element _ attributes _ _ => PyDict.lookup attributes name

mutual

-- The element itself and all below it, in document order.
def all : Xml → List Xml
  | element tag attributes text children => element tag attributes text children :: allOf children

def allOf : List Xml → List Xml
  | [] => []
  | child :: rest => all child ++ allOf rest

end

-- root.iter(tag)
def iter (xml : Xml) (tag : String) : List Xml := xml.all.filter fun found => found.tag = tag

-- xml.findall(".//tag")
def descendants (xml : Xml) (tag : String) : List Xml := (allOf xml.children).filter fun found => found.tag = tag

-- xml.findall("tag")
def inside (xml : Xml) (tag : String) : List Xml := xml.children.filter fun found => found.tag = tag

def find (xml : Xml) (tag : String) : Option Xml := (xml.inside tag).head?

def textOr (xml : Xml) : List Char := (xml.text.getD "").toList

end Xml

-- Why a zip archive is not read: zipfile.BadZipFile, or any other exception.
inductive ZipFault where
  | badZipFile | other
deriving DecidableEq, Repr

-- What the feeds take from outside: int(float(text) * 1_000_000), `ok none` where it raises a ValueError; the
-- decoding that replaces errors; the zip and the XML reader; what a regular expression takes for a decimal digit;
-- what a text column holds of a value, `none` where the driver refuses it; and whether the geometry helpers can use
-- a zone.
structure FeedEnv (K : Type) where
  injection : InjectionEnv K
  hzOfMhz : String → Except String (Option Int)
  decodeReplacing : ByteArray → String
  zipNames : ByteArray → Except ZipFault (List String)
  zipRead : ByteArray → String → Except ZipFault ByteArray
  parseXml : String → Option Xml
  isDecimal : Char → Bool
  columnText : Json K → Option String
  geometryUsable : Json K → Bool

namespace FeedEnv

variable {K : Type}

def readers (env : FeedEnv K) : PyReaders K := env.injection.settings.readers

def readFloat (env : FeedEnv K) (text : List Char) : Option K := env.readers.floatOfText (String.ofList text)

end FeedEnv

def kml (name : String) : String := "{http://www.opengis.net/kml/2.2}" ++ name

end SasCore.Federal
