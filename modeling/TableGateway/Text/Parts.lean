import TableGateway.Text.Listing

/-!
# Parts between marks

A mark cuts a text into parts. There is one part more than there are marks, and parts may be empty.
No part has a mark in it, and the parts with marks between them are the text again.
-/

namespace TableGateway.Text

def parts (mark : Char) : List Char → List (List Char)
  | [] => [[]]
  | c :: rest =>
      if c = mark then [] :: parts mark rest
      else
        match parts mark rest with
        | [] => [[c]]
        | part :: more => (c :: part) :: more

def cut (mark : Char) : List Char → List Char × Option (List Char)
  | [] => ([], none)
  | c :: rest =>
      if c = mark then ([], some rest)
      else ((c :: (cut mark rest).1), (cut mark rest).2)

theorem parts_ne_nil (mark : Char) (text : List Char) : parts mark text ≠ [] := by
  cases text with
  | nil => simp [parts]
  | cons c rest =>
      simp only [parts]
      split
      · simp
      · split <;> simp

theorem length_parts (mark : Char) (text : List Char) :
    (parts mark text).length = text.count mark + 1 := by
  induction text with
  | nil => rfl
  | cons c rest ih =>
      simp only [parts]
      split
      · next h => simp [h, ih]
      · next h =>
          split
          · next empty => exact absurd empty (parts_ne_nil mark rest)
          · next part more whole =>
              rw [whole] at ih
              simpa [List.count_cons, h] using ih

theorem listed_parts (mark : Char) (text : List Char) :
    listed [mark] (parts mark text) = text := by
  induction text with
  | nil => rfl
  | cons c rest ih =>
      simp only [parts]
      split
      · next h =>
          cases whole : parts mark rest with
          | nil => exact absurd whole (parts_ne_nil mark rest)
          | cons part more =>
              rw [whole] at ih
              simp [listed, ih, h]
      · next h =>
          split
          · next empty => exact absurd empty (parts_ne_nil mark rest)
          · next part more whole =>
              rw [whole] at ih
              cases more <;> simpa [listed] using ih

end TableGateway.Text
