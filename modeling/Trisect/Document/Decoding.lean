import Trisect.Document

/-!
# Making values from documents

The decoders of this library are put together from the functions of this file. A decoder answers
`none` where the document does not have the right form; it never coerces, so that a text is not a
number and a number is not a truth value.

A value with named parts is written as a record, or as the list of its parts in order. Two kinds of
such values differ in what may be missing: in `Trisect.Document.parts?` every part of a list must be
there, whereas in `Trisect.Document.overlay?` a list may end early, since every part has a default.
A known field may not be given twice; unknown fields are passed over.

A value with several forms is a **tagged** one (`Trisect.Document.tagged?`): a field of its record,
or the first item of its list, names the form, and the other parts are those of the form.
-/

namespace Trisect

namespace Document

/-- The two notations in which documents are read. They differ in how a form without parts may be
written as a record, and in how the end of a list is taken. -/
inductive Format
  | json
  | toml
  deriving DecidableEq

/-! ### Single values -/

/-- A text. -/
def toText? : Document → Option String
  | text s => some s
  | _ => none

/-- A truth value. -/
def toBoolean? : Document → Option Bool
  | boolean b => some b
  | _ => none

/-- A natural number below `2 ^ 64`. -/
def toWord? : Document → Option Nat
  | number (.ofNat n) => if n < 18446744073709551616 then some n else none
  | _ => none

/-- What a decoder makes of a document other than null. -/
def toOptional? {α : Type} (decode : Document → Option α) : Document → Option (Option α)
  | null => some none
  | d => (decode d).map some

/-- What a decoder makes of the items of a list. -/
def toListOf? {α : Type} (decode : Document → Option α) : Document → Option (List α)
  | list items => items.mapM decode
  | _ => none

/-! ### Named parts -/

/-- The values that a list of fields gives for a name, in order. -/
def valuesOf (name : String) (fields : List (String × Document)) : List Document :=
  (fields.filter fun f => f.1 = name).map (·.2)

/-- The value of a field that is given at most once: `some none` if it is missing, and `none` if it
is given more than once. -/
def field? (fields : List (String × Document)) (name : String) : Option (Option Document) :=
  match valuesOf name fields with
  | [] => some none
  | [d] => some (some d)
  | _ => none

/-- The parts with the given names; of a list, as many items as there are names. -/
def parts? (names : List String) : Document → Option (List (Option Document))
  | record fields => names.mapM (field? fields)
  | list items => if items.length = names.length then some (items.map some) else none
  | _ => none

/-- The parts with the given names, all of which may be missing; a list may end early. In JSON it
may not go on after the last part. -/
def overlay? (format : Format) (names : List String) : Document → Option (List (Option Document))
  | record fields => names.mapM (field? fields)
  | list items =>
    if items.length ≤ names.length then
      some (items.map some ++ List.replicate (names.length - items.length) none)
    else
      match format with
      | .json => none
      | .toml => some ((items.take names.length).map some)
  | _ => none

/-- The decoded value of a part, or the default if it is missing. -/
def orDefault {α : Type} (default : α) (decode : Document → Option α) : Option Document → Option α
  | none => some default
  | some d => decode d

/-! ### Forms -/

/-- The position of a text among the names of the forms. -/
def position? (names : List String) (s : String) : Option Nat := names.findIdx? (· = s)

/-- Which of several forms without parts is meant: a name, or a record with that name as its only
key and nothing below it. -/
def choice? (format : Format) (names : List String) : Document → Option Nat
  | text s => position? names s
  | record [(s, d)] =>
    let isNothing := match format, d with
      | .json, null => true
      | .toml, record [] => true
      | .toml, list [] => true
      | _, _ => false
    if isNothing then position? names s else none
  | _ => none

/-- Whether the parts of a tagged value may be set aside until its tag is known: everything in it
has a meaning, and it is not nested too deeply. -/
def canWait (d : Document) : Bool := d.isMeaningful && d.depth ≤ 126

/-- The tag of a tagged value, as a position among the names, and the other parts. A tagged value
inside another one (`nested`) may give its tag as a number; one that is not has to be such that its
parts can wait. -/
def tagged? (nested : Bool) (tag : String) (names : List String) (d : Document) :
    Option (Nat × Document) :=
  let toTag? : Document → Option Nat
    | text s => position? names s
    | number (.ofNat n) => if nested && n < names.length then some n else none
    | _ => none
  if nested || d.canWait then
    match d with
    | record fields => do
      let t ← (← field? fields tag)
      return (← toTag? t, record (fields.filter fun f => f.1 ≠ tag))
    | list (t :: items) => do return (← toTag? t, list items)
    | _ => none
  else none

end Document

end Trisect
