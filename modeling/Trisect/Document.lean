/-!
# Documents

Configurations, reports and summaries are exchanged as **documents**: trees of nulls, truth values,
whole numbers, texts, lists and records. `Trisect.Document` is such a tree. It is what the readers
of `Trisect.Document.ofJson?` and `Trisect.Document.ofToml?` produce, what the writers of
`Trisect.Document.compact` and `Trisect.Document.pretty` consume, and what the decoders of
`Trisect.Document.Decoding` turn into values.

A record keeps its fields in the order and number in which they were written, so that a decoder can
refuse a field that is given twice. Two kinds of node carry no payload, because no value of this
library is made from them: a number that is not written as a whole one, and a node that is well
formed as a piece of text but denotes nothing – text with half of a surrogate pair, a number beyond
the range of double precision, a record one of whose keys is such a text.
-/

namespace Trisect

/-- A tree of data, as JSON and TOML write it. -/
inductive Document
  | null
  | boolean (b : Bool)
  /-- A whole number, written without fraction and exponent. -/
  | number (n : Int)
  /-- A number with a fraction or an exponent, or minus zero. -/
  | fraction
  | text (s : String)
  | list (items : List Document)
  | record (fields : List (String × Document))
  /-- Well formed, but without a meaning. -/
  | meaningless
  deriving Inhabited

namespace Document

/-- A list of texts. -/
def texts (ss : List String) : Document := list (ss.map text)

/-- A natural number. -/
def natural (n : Nat) : Document := number n

/-- A text, or null. -/
def textOrNull : Option String → Document
  | none => null
  | some s => text s

mutual

/-- Whether every node of a document has a meaning. -/
def isMeaningful : Document → Bool
  | list items => areMeaningful items
  | record fields => haveMeaning fields
  | meaningless => false
  | _ => true

/-- Whether every node of every document of a list has a meaning. -/
def areMeaningful : List Document → Bool
  | [] => true
  | d :: ds => isMeaningful d && areMeaningful ds

/-- Whether every node below a list of fields has a meaning. -/
def haveMeaning : List (String × Document) → Bool
  | [] => true
  | (_, d) :: fs => isMeaningful d && haveMeaning fs

end

mutual

/-- How many lists and records are nested at most. -/
def depth : Document → Nat
  | list items => depthOfItems items + 1
  | record fields => depthOfFields fields + 1
  | _ => 0

/-- The greatest depth in a list of documents. -/
def depthOfItems : List Document → Nat
  | [] => 0
  | d :: ds => max (depth d) (depthOfItems ds)

/-- The greatest depth below a list of fields. -/
def depthOfFields : List (String × Document) → Nat
  | [] => 0
  | (_, d) :: fs => max (depth d) (depthOfFields fs)

end

end Document

end Trisect
