import TableGateway.Text.Listing

/-!
# Readers

A reader takes a value off the front of a text and gives the rest. Readers know a grammar and
nothing of how a text came to be. What a sequence of items is written as is read back whole when
each item is, in front of every text that may follow it.
-/

namespace TableGateway.ReadBack

open Text (listed)

variable {α β : Type}

/-- Takes a value off the front of a text, and gives the value and the rest. -/
abbrev Reader (α : Type) : Type := List Char → Option (α × List Char)

/-- Nothing, or a text whose first character is of a kind: what may stand behind an item. -/
def Next (kind : Char → Prop) (text : List Char) : Prop :=
  ∀ c, text.head? = some c → kind c

theorem Next.nil {kind : Char → Prop} : Next kind [] := by
  intro c head
  cases head

theorem Next.cons {kind : Char → Prop} {c : Char} (rest : List Char) (h : kind c) :
    Next kind (c :: rest) := by
  intro d head
  obtain rfl : c = d := Option.some.inj head
  exact h

theorem Next.mono {kind other : Char → Prop} {text : List Char} (next : Next kind text)
    (h : ∀ c, kind c → other c) : Next other text :=
  fun c head => h c (next c head)

theorem Next.append {kind : Char → Prop} {first second : List Char} (a : Next kind first)
    (b : Next kind second) : Next kind (first ++ second) := by
  cases first with
  | nil => exact b
  | cons c rest => exact fun d head => a d head

def after? : List Char → List Char → Option (List Char)
  | [], text => some text
  | _ :: _, [] => none
  | w :: word, c :: text => if c = w then after? word text else none

@[simp] theorem after?_append (word rest : List Char) :
    after? word (word ++ rest) = some rest := by
  induction word with
  | nil => rfl
  | cons w word ih => simpa [after?] using ih

theorem eq_append_of_after? {word text rest : List Char} (h : after? word text = some rest) :
    text = word ++ rest := by
  induction word generalizing text with
  | nil => exact Option.some.inj h
  | cons w word ih =>
      cases text with
      | nil => cases h
      | cons c text =>
          rw [after?] at h
          split at h
          · next same => rw [same, ih h, List.cons_append]
          · cases h

def readWord (spelling : α → List Char) (words : List α) (text : List Char) :
    Option (α × List Char) :=
  words.findSome? fun word => (after? (spelling word) text).map (word, ·)

def push (a : α) (read : List α × List Char) : List α × List Char :=
  (a :: read.1, read.2)

/-- Reads an item, and further items as long as the separator follows. -/
def readSeparated (item : Reader α) (separator text : List Char) :
    Option (List α × List Char) :=
  match item text with
  | none => none
  | some (a, rest) =>
      match after? separator rest with
      | none => some ([a], rest)
      | some more =>
          if more.length < text.length then
            (readSeparated item separator more).map (push a)
          else none
termination_by text.length

def readAll (item : Reader α) (text : List Char) : Option (List α) :=
  if text = [] then some []
  else
    match item text with
    | none => none
    | some (a, rest) =>
        if rest.length < text.length then (readAll item rest).map (a :: ·) else none
termination_by text.length

theorem readSeparated_listed {item : Reader α} {separator rest : List Char}
    {write : β → List Char} {value : β → α} {values : List β} (stop : List Char → Prop)
    (nonempty : values ≠ [])
    (separates : separator ≠ [])
    (reads : ∀ b ∈ values, ∀ more, stop more → item (write b ++ more) = some (value b, more))
    (inner : ∀ more, stop (separator ++ more))
    (last : stop rest)
    (ends : after? separator rest = none) :
    readSeparated item separator (listed separator (values.map write) ++ rest) =
      some (values.map value, rest) := by
  induction values with
  | nil => exact absurd rfl nonempty
  | cons b others ih =>
      cases others with
      | nil =>
          rw [readSeparated]
          simp [reads b (by simp) rest last, ends]
      | cons next others =>
          have tail := ih (by simp) fun b mem => reads b (List.mem_cons_of_mem _ mem)
          have head := reads b (by simp)
            (separator ++ (listed separator ((next :: others).map write) ++ rest)) (inner _)
          have shorter : 0 < separator.length := List.length_pos_iff.2 separates
          rw [readSeparated]
          simp only [List.map_cons, listed, List.append_assoc] at head tail ⊢
          rw [head]
          simp only [after?_append, tail, Option.map_some, push]
          rw [if_pos]
          simp only [List.length_append]
          omega

theorem readAll_flatMap {item : Reader α} {write : β → List Char} {value : β → α}
    {values : List β}
    (nonempty : ∀ b ∈ values, write b ≠ [])
    (reads : ∀ b ∈ values, ∀ rest, item (write b ++ rest) = some (value b, rest)) :
    readAll item (values.flatMap write) = some (values.map value) := by
  induction values with
  | nil => simp [readAll]
  | cons b others ih =>
      have tail := ih (fun b mem => nonempty b (List.mem_cons_of_mem _ mem))
        fun b mem => reads b (List.mem_cons_of_mem _ mem)
      have written : write b ≠ [] := nonempty b (by simp)
      have shorter : 0 < (write b).length := List.length_pos_iff.2 written
      rw [readAll, List.flatMap_cons, if_neg (by simp [written]), reads b (by simp)]
      simp only [tail, Option.map_some, List.map_cons]
      rw [if_pos]
      simp only [List.length_append]
      omega

end TableGateway.ReadBack
