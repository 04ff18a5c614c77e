import ApiContract.Name

set_option autoImplicit false

namespace ApiContract

class Vocabulary (α : Type) where
  all : List α
  spelling : α → String

namespace Vocabulary

variable {α : Type} [Vocabulary α]

def find? (text : String) : Option α :=
  all.find? (spelling · == text)

theorem spelling_of_find? {text : String} {a : α} (h : find? text = some a) :
    spelling a = text := by
  simpa using List.find?_some h

end Vocabulary

open Vocabulary

/-- A word of a vocabulary, or a text that spells none of them. -/
inductive Open (α : Type) [Vocabulary α] where
  | known (word : α)
  | other (text : String) (unknown : find? (α := α) text = none)
  deriving DecidableEq

namespace Open

variable {α : Type} [Vocabulary α]

def ofText (text : String) : Open α :=
  match h : find? text with
  | some word => known word
  | none => other text h

def text : Open α → String
  | known word => spelling word
  | other text _ => text

def isKnown : Open α → Bool
  | known _ => true
  | other _ _ => false

@[simp] theorem text_ofText (t : String) : (ofText t : Open α).text = t := by
  unfold ofText
  split
  case h_1 word found => exact spelling_of_find? found
  case h_2 => rfl

end Open

end ApiContract
