/-!
# Listed and separated texts

Listed texts have a separator between every two of them, also around an empty one. Separated items
have it in front of an item when the item before it left some text, so an empty item swallows the
separator after it, and not the one before.
-/

namespace TableGateway.Text

/-- All texts in order, with the separator between every two of them. -/
def listed (separator : List Char) : List (List Char) → List Char
  | [] => []
  | [text] => text
  | text :: rest => text ++ separator ++ listed separator rest

@[simp] theorem listed_nil (separator : List Char) : listed separator [] = [] := rfl

@[simp] theorem listed_singleton (separator text : List Char) : listed separator [text] = text :=
  rfl

theorem listed_cons (separator first : List Char) (rest : List (List Char)) :
    listed separator (first :: rest) = first ++ rest.flatMap (separator ++ ·) := by
  induction rest generalizing first with
  | nil => simp
  | cons next rest ih => simp [listed, ih next]

theorem length_le_listed (separator : List Char) {items : List (List Char)} {item : List Char}
    (mem : item ∈ items) : item.length ≤ (listed separator items).length := by
  cases items with
  | nil => cases mem
  | cons first rest =>
      rw [listed_cons, List.length_append]
      rcases List.mem_cons.1 mem with rfl | behind
      · exact Nat.le_add_right _ _
      · obtain ⟨before, after, rfl⟩ := List.append_of_mem behind
        simp only [List.flatMap_append, List.flatMap_cons, List.length_append]
        omega

def comma : List Char := [',', ' ']

/-- The items that follow one that left some text (`wrote`) or none. -/
def separatedAfter (separator : List Char) : Bool → List (List Char) → List Char
  | _, [] => []
  | wrote, item :: rest =>
      (if wrote then separator else []) ++ item ++ separatedAfter separator (!item.isEmpty) rest

/-- The items in order, a separator in front of each one that follows some text. -/
def separated (separator : List Char) (items : List (List Char)) : List Char :=
  separatedAfter separator false items

@[simp] theorem separated_nil (separator : List Char) : separated separator [] = [] := rfl

end TableGateway.Text
