import TableGateway.Pattern.Escape

/-!
# Reading in front of a closing parenthesis

A reader of a part of a pattern takes a front part of the text and leaves the rest. Nearly all of
them look no further than they need to: where a closing parenthesis stands in what is left, the text
in front of it alone is read to the same effect. So what is read inside a group could be read on its
own. Readers with this property are put together by the lemmas here.
-/

namespace TableGateway.Pattern

/-- The reader takes a front part of the text; and where a closing parenthesis stands in what it
leaves, it reads the same from the text in front of the parenthesis alone, provided that what it
would leave of that is admitted. -/
def TakesFront {α : Type} (admits : α → List Char → Prop)
    (reader : List Char → Checked (α × List Char)) (text : List Char) : Prop :=
  ∀ x rest, reader text = .ok (x, rest) →
    ∃ front, text = front ++ rest ∧
      ∀ kept more, rest = kept ++ ')' :: more → admits x kept →
        reader (front ++ kept) = .ok (x, kept)

abbrev Always {α : Type} : α → List Char → Prop := fun _ _ => True

namespace TakesFront

variable {α β : Type} {admits : α → List Char → Prop} {admitsNext : β → List Char → Prop}
variable {reader other : List Char → Checked (α × List Char)} {text : List Char}

theorem of_error (refused : ∃ fault, reader text = .error fault) :
    TakesFront admits reader text := by
  intro x rest read
  obtain ⟨fault, refused⟩ := refused
  rw [refused] at read
  cases read

theorem error {fault : PatternFault} : TakesFront admits (fun _ => .error fault) text :=
  of_error ⟨fault, rfl⟩

theorem done {x : α} : TakesFront admits (fun text => .ok (x, text)) text := by
  intro y rest read
  cases read
  exact ⟨[], rfl, fun _ _ _ _ => rfl⟩

theorem of_stay {x : α} (stays : reader text = .ok (x, text))
    (again : ∀ kept more, text = kept ++ ')' :: more → admits x kept →
      reader kept = .ok (x, kept)) : TakesFront admits reader text := by
  intro y rest read
  rw [stays] at read
  cases read
  exact ⟨[], rfl, again⟩

theorem of_nil {x : α} (stays : reader [] = .ok (x, [])) : TakesFront admits reader [] :=
  .of_stay stays fun _ _ eq _ => by simp at eq

/-- The reader leaves the whole text because of its first character. -/
theorem of_stays {c : Char} {x : α} (nil : admits x [] → reader [] = .ok (x, []))
    (cons : ∀ tail, reader (c :: tail) = .ok (x, c :: tail)) :
    TakesFront admits reader (c :: text) := by
  refine .of_stay (cons text) fun kept more eq ok => ?_
  cases kept with
  | nil => exact nil ok
  | cons d kept =>
      obtain ⟨rfl, -⟩ := List.cons.inj eq
      exact cons kept

theorem congr (same : ∀ text, reader text = other text) (takes : TakesFront admits other text) :
    TakesFront admits reader text := by
  rwa [funext same]

theorem bind {next : α × List Char → Checked (β × List Char)}
    (takes : TakesFront admits reader text)
    (takesNext : ∀ x rest, TakesFront admitsNext (fun text => next (x, text)) rest)
    (admitted : ∀ x mid y kept, next (x, mid) = .ok (y, kept) → admitsNext y kept → admits x mid) :
    TakesFront admitsNext (fun text => reader text >>= next) text := by
  intro y rest read
  cases found : reader text with
  | error fault => simp [found, Bind.bind, Except.bind] at read
  | ok first =>
      obtain ⟨x, mid⟩ := first
      replace read : next (x, mid) = .ok (y, rest) := by
        simpa [found, Bind.bind, Except.bind] using read
      obtain ⟨front, rfl, again⟩ := takes x mid found
      obtain ⟨back, rfl, againNext⟩ := takesNext x mid y rest read
      refine ⟨front ++ back, by simp, fun kept more left ok => ?_⟩
      have last := againNext kept more left ok
      have start : reader (front ++ (back ++ kept)) = .ok (x, back ++ kept) :=
        again (back ++ kept) more (by simp [left]) (admitted x _ y kept last ok)
      simp [start, last, Bind.bind, Except.bind]

theorem andThen {next : α × List Char → Checked (β × List Char)}
    (takes : TakesFront Always reader text)
    (takesNext : ∀ x rest, TakesFront admitsNext (fun text => next (x, text)) rest) :
    TakesFront admitsNext (fun text => reader text >>= next) text :=
  takes.bind takesNext fun _ _ _ _ _ _ => trivial

theorem map {f : α × List Char → β × List Char} {g : α → β}
    (takes : TakesFront admits reader text) (keeps : ∀ x rest, f (x, rest) = (g x, rest))
    (admitted : ∀ x kept, admitsNext (g x) kept → admits x kept) :
    TakesFront admitsNext (fun text => (reader text).map f) text := by
  have same : ∀ text, (reader text).map f = reader text >>= fun read => .ok (f read) := by
    intro text
    cases reader text <;> rfl
  refine .congr same (takes.bind (fun x rest => ?_) ?_)
  · simp only [keeps]
    exact done
  · intro x mid y kept read ok
    rw [keeps] at read
    cases read
    exact admitted x mid ok

theorem ofCons {c : Char} (takes : TakesFront admits (fun text => reader (c :: text)) text) :
    TakesFront admits reader (c :: text) := by
  intro x rest read
  obtain ⟨front, rfl, again⟩ := takes x rest read
  exact ⟨c :: front, rfl, again⟩

theorem ofValue {value : Checked β} {next : β → List Char → Checked (α × List Char)}
    (takes : ∀ y, value = .ok y → TakesFront admits (next y) text) :
    TakesFront admits (fun text => value >>= fun y => next y text) text := by
  cases value with
  | error fault => exact error
  | ok y => exact takes y rfl

theorem behindDrop {drop : List Char → List Char}
    (drops : TakesFront Always (fun text => .ok ((), drop text)) text)
    (takes : TakesFront admits reader (drop text)) :
    TakesFront admits (fun text => reader (drop text)) text := by
  intro x rest read
  obtain ⟨dropped, split, again⟩ := drops () _ rfl
  obtain ⟨front, left, againNext⟩ := takes x rest read
  refine ⟨dropped ++ front, by rw [List.append_assoc, ← left, ← split], fun kept more eq ok => ?_⟩
  have alone : drop (dropped ++ (front ++ kept)) = front ++ kept := by
    simpa using again (front ++ kept) more (by rw [left, eq, List.append_assoc]) trivial
  simpa [alone] using againNext kept more eq ok

theorem leave {drop : List Char → List Char} {x : α}
    (drops : TakesFront Always (fun text => .ok ((), drop text)) text) :
    TakesFront admits (fun text => .ok (x, drop text)) text := by
  intro y rest read
  cases read
  obtain ⟨front, split, again⟩ := drops () _ rfl
  refine ⟨front, split, fun kept more eq _ => ?_⟩
  have alone : drop (front ++ kept) = kept := by simpa using again kept more eq trivial
  simp only [alone]

end TakesFront

theorem takesFront_dropBlanks (inside : Bool) (text : List Char) :
    TakesFront Always (fun text => .ok ((), dropBlanks inside text)) text := by
  induction text generalizing inside with
  | nil => exact .of_nil rfl
  | cons c rest ih =>
      by_cases stays : inside = false ∧ Text.isBlank c = false ∧ c ≠ '#'
      · obtain ⟨rfl, solid, mark⟩ := stays
        have stops (tail : List Char) : dropBlanks false (c :: tail) = c :: tail := by
          simp [dropBlanks, solid, mark]
        exact .of_stays (fun _ => rfl) fun tail => by rw [stops]
      · have drops : ∃ next, ∀ tail, dropBlanks inside (c :: tail) = dropBlanks next tail := by
          cases inside with
          | true => exact ⟨c != '\n', fun _ => by simp [dropBlanks]⟩
          | false =>
              cases blank : Text.isBlank c with
              | true => exact ⟨false, fun _ => by simp [dropBlanks, blank]⟩
              | false =>
                  obtain rfl : c = '#' := by simpa [blank] using stays
                  exact ⟨true, fun _ => by simp [dropBlanks, blank]⟩
        obtain ⟨next, drops⟩ := drops
        exact .ofCons (by simpa only [drops] using ih next)

theorem Flags.takesFront_skip (flags : Flags) (text : List Char) :
    TakesFront Always (fun text => .ok ((), flags.skip text)) text := by
  unfold skip
  split
  · exact takesFront_dropBlanks false text
  · exact .done

namespace TakesFront

variable {α : Type} {admits : α → List Char → Prop} {flags : Flags}
variable {reader : List Char → Checked (α × List Char)} {text : List Char}

theorem skip (takes : TakesFront admits reader (flags.skip text)) :
    TakesFront admits (fun text => reader (flags.skip text)) text :=
  .behindDrop (flags.takesFront_skip text) takes

end TakesFront

end TableGateway.Pattern
