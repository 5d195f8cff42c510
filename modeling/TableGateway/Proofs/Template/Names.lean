import Mathlib.Algebra.BigOperators.Ring.List
import Mathlib.Algebra.Ring.Nat
import TableGateway.Proofs.Text.Separated
import TableGateway.Sql.Statement

/-!
# The names of nested lists

A list is written as the names of its items, and a list in it again as the names of its own. So the
whole is the names of its leaves with commas in between, unless a list at any depth ends with an
item without leaves behind one that has some: each such list leaves a comma that nothing follows.
-/

namespace TableGateway

/-! ## Longer texts -/

namespace Text

/-- Texts that are longer than others by a surplus, and empty where these are, are longer as a whole
by all that surplus. -/
theorem length_flatMap_inked {γ : Type} {f g : γ → List Char} {surplus : γ → Nat} {items : List γ}
    (separator : List Char)
    (longer : ∀ item ∈ items, (f item).length = (g item).length + surplus item)
    (same : ∀ item ∈ items, f item = [] ↔ g item = []) :
    ((inked (items.map f)).flatMap (separator ++ ·)).length =
      ((inked (items.map g)).flatMap (separator ++ ·)).length + (items.map surplus).sum := by
  induction items with
  | nil => rfl
  | cons item rest ih =>
      obtain ⟨here, behind⟩ := List.forall_mem_cons.1 longer
      obtain ⟨empty_iff, others⟩ := List.forall_mem_cons.1 same
      have tail := ih behind others
      simp only [List.map_cons, List.sum_cons]
      by_cases empty : g item = []
      · rw [empty_iff.2 empty, empty] at here
        rw [empty_iff.2 empty, empty, inked_cons_nil, inked_cons_nil, tail]
        simp only [List.length_nil] at here
        omega
      · have written : f item ≠ [] := fun other => empty (empty_iff.1 other)
        rw [inked_cons written, inked_cons empty]
        simp only [List.flatMap_cons, List.length_append, tail, here]
        omega

theorem length_listed_inked {γ : Type} {f g : γ → List Char} {surplus : γ → Nat} {items : List γ}
    (separator : List Char)
    (longer : ∀ item ∈ items, (f item).length = (g item).length + surplus item)
    (same : ∀ item ∈ items, f item = [] ↔ g item = []) :
    (listed separator (inked (items.map f))).length =
      (listed separator (inked (items.map g))).length + (items.map surplus).sum := by
  have whole := length_flatMap_inked separator longer same
  have bare_iff : inked (items.map f) = [] ↔ inked (items.map g) = [] := by
    rw [inked_eq_nil_iff, inked_eq_nil_iff, List.forall_mem_map, List.forall_mem_map]
    exact forall₂_congr same
  by_cases bare : inked (items.map g) = []
  · rw [bare_iff.2 bare, bare] at whole ⊢
    exact whole
  · have some_text : inked (items.map f) ≠ [] := fun other => bare (bare_iff.1 other)
    rw [← append_listed some_text, ← append_listed bare, List.length_append,
      List.length_append] at whole
    omega

end Text

open Sql (Dialect identifier valueIdentifier)
open Text (Progress ItemWriter comma endsBare endsBare_map_congr inked length_listed_inked listed
  listed_flatten listed_ne_nil parts_ne_nil separated_eq separated_eq_nil_iff)

/-! ## Leaves -/

namespace Value

/-- The values in a value that are no lists, in order. -/
def leaves : Value → List Value
  | list items => items.flatMap leaves
  | value => [value]

/-- The text of a value as a name: its own for a text, and the short form of any other value. -/
def nameText : Value → List Char
  | varchar text => text.toList
  | value => value.display

/-- How many lists in a value end with an item without leaves behind one that has some. -/
def loose : Value → Nat
  | list items => (items.map loose).sum + if endsBare (items.map leaves) then 1 else 0
  | _ => 0

end Value

namespace Sql

variable (dialect : Dialect)

def leafNames (value : Value) : List (List Char) :=
  value.leaves.map fun leaf => identifier dialect leaf.nameText

theorem identifier_ne_nil (name : List Char) : identifier dialect name ≠ [] := by
  cases dialect with
  | generic => exact List.cons_ne_nil _ _
  | mysql =>
      refine listed_ne_nil (by simp [parts_ne_nil]) fun part mem => ?_
      obtain ⟨inner, -, rfl⟩ := List.mem_map.1 mem
      exact List.cons_ne_nil _ _

theorem ne_nil_of_mem_leafNames (value : Value) : ∀ name ∈ leafNames dialect value, name ≠ [] := by
  intro name mem
  obtain ⟨leaf, -, rfl⟩ := List.mem_map.1 mem
  exact identifier_ne_nil dialect leaf.nameText

theorem listed_leafNames_eq_nil_iff (value : Value) :
    listed comma (leafNames dialect value) = [] ↔ value.leaves = [] := by
  constructor
  · intro empty
    by_cases leafless : value.leaves = []
    · exact leafless
    · have some_name : leafNames dialect value ≠ [] := by simpa [leafNames] using leafless
      exact absurd empty (listed_ne_nil some_name (ne_nil_of_mem_leafNames dialect value))
  · intro leafless
    simp [leafNames, leafless]

/-- What is written for a value as a name, in terms of the names of its leaves. -/
structure NamesLeaves (value : Value) : Prop where
  nil_iff : valueIdentifier dialect value = [] ↔ value.leaves = []
  length : (valueIdentifier dialect value).length =
    (listed comma (leafNames dialect value)).length + comma.length * value.loose
  exact : value.loose = 0 → valueIdentifier dialect value = listed comma (leafNames dialect value)

theorem namesLeaves_of_leaf {value : Value} (leaf : ∀ items, value ≠ .list items) :
    NamesLeaves dialect value := by
  have only : value.leaves = [value] := by
    cases value with
    | list items => exact absurd rfl (leaf items)
    | _ => rw [Value.leaves]; exact nofun
  have tight : value.loose = 0 := by
    cases value with
    | list items => exact absurd rfl (leaf items)
    | _ => rw [Value.loose]; exact nofun
  have written : valueIdentifier dialect value = listed comma (leafNames dialect value) := by
    rw [leafNames, only]
    cases value with
    | list items => exact absurd rfl (leaf items)
    | _ => simp [valueIdentifier, Value.nameText]
  constructor
  · rw [written, leafNames, only]
    simp [identifier_ne_nil]
  · rw [written, tight]
    rfl
  · exact fun _ => written

theorem leafNames_list (items : List Value) :
    leafNames dialect (.list items) = (items.map (leafNames dialect)).flatten := by
  rw [leafNames, Value.leaves, List.map_flatMap]
  rfl

/-- The names of a list: those of its items, without the empty ones, with a comma between every two,
and one more comma when it ends with an item without leaves behind one that has some. -/
theorem valueIdentifier_list {items : List Value}
    (nil_iff : ∀ item ∈ items, valueIdentifier dialect item = [] ↔ item.leaves = []) :
    valueIdentifier dialect (.list items) =
      listed comma (inked (items.map (valueIdentifier dialect))) ++
        (if endsBare (items.map Value.leaves) then comma else []) := by
  rw [valueIdentifier, separated_eq, endsBare_map_congr nil_iff]

/-- The names of a list whose items are named by their leaves. -/
theorem namesLeaves_list {items : List Value} (named : ∀ item ∈ items, NamesLeaves dialect item) :
    NamesLeaves dialect (.list items) := by
  have joined : listed comma (leafNames dialect (.list items)) =
      listed comma (inked (items.map fun item => listed comma (leafNames dialect item))) := by
    rw [leafNames_list, listed_flatten, List.map_map]
    · rfl
    · intro group mem
      obtain ⟨item, -, rfl⟩ := List.mem_map.1 mem
      exact ne_nil_of_mem_leafNames dialect item
  have written := valueIdentifier_list dialect fun item mem => (named item mem).nil_iff
  constructor
  · rw [valueIdentifier, separated_eq_nil_iff, List.forall_mem_map, Value.leaves,
      List.flatMap_eq_nil_iff]
    exact forall₂_congr fun item mem => (named item mem).nil_iff
  · have same : ∀ item ∈ items,
        valueIdentifier dialect item = [] ↔ listed comma (leafNames dialect item) = [] := by
      intro item mem
      rw [(named item mem).nil_iff, listed_leafNames_eq_nil_iff]
    have whole := length_listed_inked comma (fun item mem => (named item mem).length) same
    rw [joined, written, List.length_append, whole, Value.loose, Nat.mul_add, List.sum_map_mul_left,
      Nat.add_assoc]
    split <;> simp
  · intro tight
    rw [Value.loose, Nat.add_eq_zero_iff, List.sum_eq_zero_iff_forall_eq_nat,
      List.forall_mem_map] at tight
    obtain ⟨items_tight, no_comma⟩ := tight
    have same : items.map (valueIdentifier dialect) =
        items.map fun item => listed comma (leafNames dialect item) :=
      List.map_congr_left fun item mem => (named item mem).exact (items_tight item mem)
    rw [joined, written, same]
    have dry : endsBare (items.map Value.leaves) = false := by simpa using no_comma
    rw [dry]
    simp

theorem namesLeaves (value : Value) : NamesLeaves dialect value := by
  induction value using Value.leaves.induct with
  | case1 items ih => exact namesLeaves_list dialect ih
  | case2 value leaf => exact namesLeaves_of_leaf dialect fun items same => leaf items same

/-- The loop with a comma writes the names of a list. -/
theorem out_run_valueIdentifier (items : List Value) :
    ((Progress.start () []).run (ItemWriter.appending (valueIdentifier dialect)) comma items).out =
      valueIdentifier dialect (.list items) := by
  rw [Progress.out_run_start comma (ItemWriter.appends_appending _), Progress.texts_appending,
    valueIdentifier, List.nil_append]

theorem valueIdentifier_eq_listed_iff (value : Value) :
    valueIdentifier dialect value = listed comma (leafNames dialect value) ↔ value.loose = 0 := by
  have named := namesLeaves dialect value
  constructor
  · intro same
    have length := named.length
    rw [same] at length
    simp only [comma, List.length_cons, List.length_nil] at length
    omega
  · exact named.exact

end Sql

/-! ## Items and leaves -/

variable {σ α : Type} {write : ItemWriter σ α}

/-- Writing items with a separator, by any writer that only appends, puts behind the text what the
items leave, without the empty ones, and the separator between every two of these. Nothing else is
written, unless the last item leaves nothing behind one that left some text: then a separator stands
at the end. The names of a list are written by that loop, so they are the names of its leaves with a
comma between every two, and one more comma for each list in it, at any depth, that ends with an
item without leaves behind one that has some. -/
theorem separates_items_and_leaves (appends : write.Appends) (state : σ) (out separator : List Char)
    (items : List α) :
    let texts := (Progress.start state out).texts write separator items
    let written := ((Progress.start state out).run write separator items).out
    written =
        out ++ (listed separator (inked texts) ++ if endsBare texts then separator else []) ∧
      (written = out ++ listed separator (inked texts) ↔
        separator = [] ∨ endsBare texts = false) ∧
      ∀ (dialect : Dialect) (values : List Value),
        ((Progress.start () []).run (ItemWriter.appending (valueIdentifier dialect)) comma
            values).out = valueIdentifier dialect (.list values) ∧
          valueIdentifier dialect (.list values) =
            listed comma (inked (values.map (valueIdentifier dialect))) ++
              (if endsBare (values.map Value.leaves) then comma else []) ∧
          (valueIdentifier dialect (.list values)).length =
            (listed comma (Sql.leafNames dialect (.list values))).length +
              comma.length * (Value.list values).loose ∧
          (valueIdentifier dialect (.list values) =
              listed comma (Sql.leafNames dialect (.list values)) ↔
            (Value.list values).loose = 0) := by
  intro texts written
  have whole : written =
      out ++ (listed separator (inked texts) ++ if endsBare texts then separator else []) := by
    rw [← separated_eq]
    exact Progress.out_run_start separator appends state out items
  refine ⟨whole, ?_, fun dialect values => ⟨?_, ?_, ?_, ?_⟩⟩
  · rw [whole, List.append_cancel_left_eq, List.append_right_eq_self]
    cases endsBare texts <;> simp
  · exact Sql.out_run_valueIdentifier dialect values
  · exact Sql.valueIdentifier_list dialect fun value _ => (Sql.namesLeaves dialect value).nil_iff
  · exact (Sql.namesLeaves dialect (.list values)).length
  · exact Sql.valueIdentifier_eq_listed_iff dialect (.list values)

/-- An empty item at the start or between two others leaves no trace. -/
theorem separates_items_around_empty :
    (ItemWriter.appending (id : List Char → List Char)).Appends ∧
      ((Progress.start () "pre".toList).run (ItemWriter.appending id) "; ".toList
        [[], ['a'], [], [], ['b']]).out = "prea; b".toList := by
  have appends := ItemWriter.appends_appending (id : List Char → List Char)
  obtain ⟨whole, -⟩ := separates_items_and_leaves appends () "pre".toList "; ".toList
    [[], ['a'], [], [], ['b']]
  exact ⟨appends, whole.trans (by decide)⟩

/-- An empty item at the end leaves a separator that nothing follows. -/
theorem exists_separator_behind_last :
    (¬∀ (out separator : List Char) (texts : List (List Char)),
      ((Progress.start () out).run (ItemWriter.appending id) separator texts).out =
        out ++ listed separator (inked texts)) ∧
      ¬∀ (dialect : Dialect) (values : List Value),
        valueIdentifier dialect (.list values) =
          listed comma (Sql.leafNames dialect (.list values)) := by
  constructor
  · intro joined
    exact absurd (joined [] comma [['a'], []]) (by decide)
  · intro joined
    have tight := (Sql.valueIdentifier_eq_listed_iff .generic _).1
      (joined .generic [.varchar "a", .list []])
    simp [Value.loose, Value.leaves, endsBare] at tight

end TableGateway
