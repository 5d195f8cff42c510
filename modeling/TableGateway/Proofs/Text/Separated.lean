import TableGateway.Text.Listing

/-!
# What stands between items

Items are written one after the other, and a separator is written in front of an item when the text
has grown since the item before it. So the separator stands between every two items that left some
text. But it is written before the next item is known to leave any: behind an item that left some
text, items at the end that leave none leave one separator that nothing follows.
-/

namespace TableGateway.Text

variable {β : Type}

/-- The texts with something in them. -/
def inked (texts : List (List β)) : List (List β) :=
  texts.filter fun text => !text.isEmpty

/-- The last text is empty, and a text in front of it is not. -/
def endsBare (texts : List (List β)) : Bool :=
  texts.any (fun text => !text.isEmpty) && texts.getLast?.any List.isEmpty

theorem inked_cons_nil (rest : List (List β)) : inked ([] :: rest) = inked rest := rfl

theorem inked_cons {text : List β} (some_char : text ≠ []) (rest : List (List β)) :
    inked (text :: rest) = text :: inked rest := by
  simp [inked, some_char]

theorem inked_eq_nil_iff {texts : List (List β)} :
    inked texts = [] ↔ ∀ text ∈ texts, text = [] := by
  simp [inked]

theorem any_last_cons {text : List β} {rest : List (List β)} (more : text ≠ [] ∨ inked rest ≠ []) :
    (text :: rest).getLast?.any List.isEmpty = rest.getLast?.any List.isEmpty := by
  cases last : rest.getLast? with
  | none =>
      obtain rfl := List.getLast?_eq_none_iff.1 last
      simpa [inked] using more
  | some other => simp [List.getLast?_cons, last]

theorem any_last_of_inked_eq_nil {rest : List (List β)} (bare : inked rest = []) :
    ([] :: rest).getLast?.any List.isEmpty = true := by
  rw [List.getLast?_cons]
  cases last : rest.getLast? with
  | none => rfl
  | some text =>
      obtain rfl := inked_eq_nil_iff.1 bare text (List.mem_of_getLast? last)
      rfl

theorem endsBare_of_inked_eq_nil {texts : List (List β)} (bare : inked texts = []) :
    endsBare texts = false := by
  have dry : (texts.any fun text => !text.isEmpty) = false := by simpa [inked] using bare
  rw [endsBare, dry, Bool.false_and]

theorem endsBare_of_inked_ne_nil {texts : List (List β)} (some_text : inked texts ≠ []) :
    endsBare texts = texts.getLast?.any List.isEmpty := by
  have ink : (texts.any fun text => !text.isEmpty) = true := by simpa [inked] using some_text
  rw [endsBare, ink, Bool.true_and]

theorem endsBare_cons_nil (rest : List (List β)) : endsBare ([] :: rest) = endsBare rest := by
  by_cases bare : inked rest = []
  · rw [endsBare_of_inked_eq_nil bare, endsBare_of_inked_eq_nil (inked_cons_nil rest ▸ bare)]
  · rw [endsBare_of_inked_ne_nil bare, endsBare_of_inked_ne_nil (inked_cons_nil rest ▸ bare),
      any_last_cons (.inr bare)]

theorem endsBare_cons {text : List β} (some_char : text ≠ []) (rest : List (List β)) :
    endsBare (text :: rest) = rest.getLast?.any List.isEmpty := by
  have some_text : inked (text :: rest) ≠ [] := by simp [inked_cons some_char]
  rw [endsBare_of_inked_ne_nil some_text, any_last_cons (.inl some_char)]

/-- Only which of the texts are empty counts. -/
theorem endsBare_map_congr {γ δ : Type} {f : γ → List β} {g : γ → List δ} {items : List γ}
    (same : ∀ item ∈ items, f item = [] ↔ g item = []) :
    endsBare (items.map f) = endsBare (items.map g) := by
  induction items with
  | nil => rfl
  | cons item rest ih =>
      obtain ⟨here, behind⟩ := List.forall_mem_cons.1 same
      rw [List.map_cons, List.map_cons]
      by_cases empty : f item = []
      · rw [empty, here.1 empty, endsBare_cons_nil, endsBare_cons_nil, ih behind]
      · rw [endsBare_cons empty, endsBare_cons (fun other => empty (here.2 other))]
        rw [List.getLast?_map, List.getLast?_map]
        cases last : rest.getLast? with
        | none => rfl
        | some other =>
            have alike := behind other (List.mem_of_getLast? last)
            change (f other).isEmpty = (g other).isEmpty
            rw [Bool.eq_iff_iff, List.isEmpty_iff, List.isEmpty_iff]
            exact alike

/-! ## The separators -/

/-- Behind some text each further one follows a separator, and one more separator stands at the end
when the last text is empty. Behind no text the first one follows none. -/
theorem separatedAfter_eq (separator : List Char) (texts : List (List Char)) :
    separatedAfter separator true texts =
        (inked texts).flatMap (separator ++ ·) ++
          (if texts.getLast?.any List.isEmpty then separator else []) ∧
      separatedAfter separator false texts =
        listed separator (inked texts) ++ (if endsBare texts then separator else []) := by
  induction texts with
  | nil => exact ⟨rfl, rfl⟩
  | cons text rest ih =>
      obtain ⟨behind, front⟩ := ih
      by_cases empty : text = []
      · -- the separator that was due is written, and the next text follows as if it were the first
        subst empty
        rw [separatedAfter, separatedAfter, List.isEmpty_nil, Bool.not_true, front, inked_cons_nil,
          endsBare_cons_nil]
        refine ⟨?_, by simp⟩
        by_cases bare : inked rest = []
        · simp [bare, endsBare_of_inked_eq_nil bare, any_last_of_inked_eq_nil bare]
        · obtain ⟨first, others, shape⟩ := List.exists_cons_of_ne_nil bare
          rw [any_last_cons (.inr bare), endsBare_of_inked_ne_nil bare, shape, listed_cons]
          simp
      · have wrote : (!text.isEmpty) = true := by simpa using empty
        rw [separatedAfter, separatedAfter, wrote, behind, inked_cons empty, endsBare_cons empty,
          any_last_cons (.inl empty), listed_cons]
        simp

theorem separated_eq (separator : List Char) (texts : List (List Char)) :
    separated separator texts =
      listed separator (inked texts) ++ (if endsBare texts then separator else []) :=
  (separatedAfter_eq separator texts).2

theorem inked_eq_self {texts : List (List β)} (some_char : ∀ text ∈ texts, text ≠ []) :
    inked texts = texts := by
  simpa [inked] using some_char

/-- Where no item is empty, the separator stands between every two of them. -/
theorem separated_eq_listed (separator : List Char) {items : List (List Char)}
    (nonempty : ∀ item ∈ items, item ≠ []) :
    separated separator items = listed separator items := by
  have inky : items.getLast?.any List.isEmpty = false := by
    cases last : items.getLast? with
    | none => rfl
    | some item => simpa using nonempty item (List.mem_of_getLast? last)
  rw [separated_eq, inked_eq_self nonempty, endsBare, inky]
  simp

/-! ## Groups of texts -/

section Listed

variable {separator : List Char}

theorem listed_ne_nil {texts : List (List Char)} (some_text : texts ≠ [])
    (some_char : ∀ text ∈ texts, text ≠ []) : listed separator texts ≠ [] := by
  obtain ⟨first, rest, rfl⟩ := List.exists_cons_of_ne_nil some_text
  rw [listed_cons]
  simp [some_char first List.mem_cons_self]

theorem separated_eq_nil_iff {texts : List (List Char)} :
    separated separator texts = [] ↔ ∀ text ∈ texts, text = [] := by
  rw [← inked_eq_nil_iff, separated_eq]
  constructor
  · intro empty
    by_cases bare : inked texts = []
    · exact bare
    · have written : listed separator (inked texts) ≠ [] :=
        listed_ne_nil bare fun text mem => by simpa using (List.mem_filter.1 mem).2
      exact absurd (List.append_eq_nil_iff.1 empty).1 written
  · intro bare
    simp [bare, endsBare_of_inked_eq_nil bare]

/-- Groups of texts are listed like all that is in them, when no text of a group is empty. -/
theorem flatMap_flatten {groups : List (List (List Char))}
    (some_char : ∀ group ∈ groups, ∀ text ∈ group, text ≠ []) :
    groups.flatten.flatMap (separator ++ ·) =
      (inked (groups.map (listed separator))).flatMap (separator ++ ·) := by
  induction groups with
  | nil => rfl
  | cons group rest ih =>
      obtain ⟨here, behind⟩ := List.forall_mem_cons.1 some_char
      cases group with
      | nil => simpa [inked_cons_nil] using ih behind
      | cons first more =>
          have written : listed separator (first :: more) ≠ [] :=
            listed_ne_nil (List.cons_ne_nil first more) here
          rw [List.map_cons, inked_cons written, List.flatten_cons, List.flatMap_append, ih behind,
            List.flatMap_cons, List.flatMap_cons, listed_cons]
          simp only [List.append_assoc]

theorem listed_flatten {groups : List (List (List Char))}
    (some_char : ∀ group ∈ groups, ∀ text ∈ group, text ≠ []) :
    listed separator groups.flatten = listed separator (inked (groups.map (listed separator))) := by
  induction groups with
  | nil => rfl
  | cons group rest ih =>
      obtain ⟨here, behind⟩ := List.forall_mem_cons.1 some_char
      cases group with
      | nil => simpa [inked_cons_nil] using ih behind
      | cons first more =>
          have written : listed separator (first :: more) ≠ [] :=
            listed_ne_nil (List.cons_ne_nil first more) here
          rw [List.map_cons, inked_cons written, List.flatten_cons, List.cons_append, listed_cons,
            listed_cons, listed_cons, List.flatMap_append, flatMap_flatten behind,
            List.append_assoc]

theorem append_listed {texts : List (List Char)} (some_text : texts ≠ []) :
    separator ++ listed separator texts = texts.flatMap (separator ++ ·) := by
  obtain ⟨first, rest, rfl⟩ := List.exists_cons_of_ne_nil some_text
  rw [listed_cons, List.flatMap_cons, List.append_assoc]

end Listed

/-! ## A writer that only appends -/

section Writing

variable {σ α : Type}

/-- Puts an item behind a text, with a state of its own. -/
abbrev ItemWriter (σ α : Type) : Type := σ → List Char → α → σ × List Char

def ItemWriter.Appends (write : ItemWriter σ α) : Prop :=
  ∀ state out item, out <+: (write state out item).2

/-- Puts a text of each item behind, without a state. -/
def ItemWriter.appending (f : α → List Char) : ItemWriter Unit α :=
  fun _ out item => ((), out ++ f item)

theorem ItemWriter.appends_appending (f : α → List Char) : (ItemWriter.appending f).Appends :=
  fun _ out item => List.prefix_append out (f item)

/-- How far a list of items is written: the state of the writer, the text, and how long the text was
in front of the last item. -/
structure Progress (σ : Type) where
  state : σ
  out : List Char
  length : Nat

namespace Progress

def start (state : σ) (out : List Char) : Progress σ :=
  ⟨state, out, out.length⟩

def grown (p : Progress σ) : Bool :=
  p.length < p.out.length

def left (p : Progress σ) : List Char :=
  p.out.drop p.length

variable (write : ItemWriter σ α) (separator : List Char)

/-- The text in front of the next item: with a separator when it has grown. -/
def opened (p : Progress σ) : List Char :=
  p.out ++ (if p.grown then separator else [])

def step (p : Progress σ) (item : α) : Progress σ :=
  let wrote := write p.state (p.opened separator) item
  ⟨wrote.1, wrote.2, (p.opened separator).length⟩

def run (p : Progress σ) (items : List α) : Progress σ :=
  items.foldl (step write separator) p

def texts (p : Progress σ) : List α → List (List Char)
  | [] => []
  | item :: rest => (p.step write separator item).left :: (p.step write separator item).texts rest

variable {write}

theorem out_step (appends : write.Appends) (p : Progress σ) (item : α) :
    (p.step write separator item).out =
      p.opened separator ++ (p.step write separator item).left := by
  obtain ⟨more, wrote⟩ := appends p.state (p.opened separator) item
  change (write p.state (p.opened separator) item).2 =
    p.opened separator ++
      List.drop (p.opened separator).length (write p.state (p.opened separator) item).2
  rw [← wrote, List.drop_left]

theorem grown_step (appends : write.Appends) (p : Progress σ) (item : α) :
    (p.step write separator item).grown = !(p.step write separator item).left.isEmpty := by
  have length : (p.step write separator item).length = (p.opened separator).length := rfl
  rw [grown, out_step separator appends, length, List.length_append]
  cases (p.step write separator item).left <;> simp

/-- Items are written as what each of them leaves, with the separators in between. -/
theorem out_run (appends : write.Appends) (p : Progress σ) (items : List α) :
    (p.run write separator items).out =
      p.out ++ separatedAfter separator p.grown (p.texts write separator items) := by
  induction items generalizing p with
  | nil => simp [run, texts, separatedAfter]
  | cons item rest ih =>
      change ((p.step write separator item).run write separator rest).out = _
      rw [ih, out_step separator appends, grown_step separator appends, texts, separatedAfter,
        opened]
      simp only [List.append_assoc]

theorem out_run_start (appends : write.Appends) (state : σ) (out : List Char) (items : List α) :
    ((start state out).run write separator items).out =
      out ++ separated separator ((start state out).texts write separator items) := by
  have rest : (start state out).grown = false := by simp [grown, start]
  rw [out_run separator appends, rest]
  rfl

theorem texts_appending (f : α → List Char) (p : Progress Unit) (items : List α) :
    p.texts (ItemWriter.appending f) separator items = items.map f := by
  induction items generalizing p with
  | nil => rfl
  | cons item rest ih =>
      rw [texts, ih, List.map_cons]
      exact congrArg (· :: rest.map f) (List.drop_left)

end Progress

end Writing

end TableGateway.Text
