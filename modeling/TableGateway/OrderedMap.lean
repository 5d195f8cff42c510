/-!
# Maps in the order of insertion

An `OrderedMap` is a list of entries with distinct keys. Inserting under a key that is present
changes the value where it stands; a new key goes to the end.
-/

namespace TableGateway

/-- A map from texts that remembers the order in which its keys came. -/
structure OrderedMap (α : Type) where
  entries : List (String × α)
  nodup : (entries.map Prod.fst).Nodup

namespace OrderedMap

variable {α β : Type}

def empty : OrderedMap α := ⟨[], List.nodup_nil⟩

instance : EmptyCollection (OrderedMap α) := ⟨empty⟩

instance : Inhabited (OrderedMap α) := ⟨empty⟩

def keys (m : OrderedMap α) : List String :=
  m.entries.map Prod.fst

def values (m : OrderedMap α) : List α :=
  m.entries.map Prod.snd

def isEmpty (m : OrderedMap α) : Bool :=
  m.entries.isEmpty

def size (m : OrderedMap α) : Nat :=
  m.entries.length

def contains (m : OrderedMap α) (key : String) : Bool :=
  m.keys.contains key

def findIn (key : String) : List (String × α) → Option α
  | [] => none
  | (k, v) :: rest => if k = key then some v else findIn key rest

def get? (m : OrderedMap α) (key : String) : Option α :=
  findIn key m.entries

def insertIn (key : String) (value : α) : List (String × α) → List (String × α)
  | [] => [(key, value)]
  | (k, v) :: rest =>
      if k = key then (k, value) :: rest else (k, v) :: insertIn key value rest

theorem mem_keys_insertIn {key k : String} {value : α} {entries : List (String × α)} :
    k ∈ (insertIn key value entries).map Prod.fst ↔ k = key ∨ k ∈ entries.map Prod.fst := by
  induction entries with
  | nil => simp [insertIn]
  | cons entry rest ih =>
      obtain ⟨k', v⟩ := entry
      by_cases h : k' = key
      · subst h
        simp [insertIn]
      · simp only [insertIn, h, if_false, List.map_cons, List.mem_cons, ih]
        constructor
        · rintro (h | h | h) <;> simp [h]
        · rintro (h | h | h) <;> simp [h]

theorem nodup_insertIn (key : String) (value : α) {entries : List (String × α)}
    (nodup : (entries.map Prod.fst).Nodup) :
    ((insertIn key value entries).map Prod.fst).Nodup := by
  induction entries with
  | nil => simp [insertIn]
  | cons entry rest ih =>
      obtain ⟨k, v⟩ := entry
      rw [List.map_cons, List.nodup_cons] at nodup
      by_cases h : k = key
      · simpa [insertIn, h, List.nodup_cons] using ⟨by simpa [h] using nodup.1, nodup.2⟩
      · simp only [insertIn, h, if_false, List.map_cons, List.nodup_cons]
        refine ⟨?_, ih nodup.2⟩
        intro mem
        rcases mem_keys_insertIn.1 mem with same | mem
        · exact h same
        · exact nodup.1 mem

/-- Puts a value under a key: in place when the key is present, else at the end. -/
def insert (m : OrderedMap α) (key : String) (value : α) : OrderedMap α :=
  ⟨insertIn key value m.entries, nodup_insertIn key value m.nodup⟩

def insertAll (m : OrderedMap α) (entries : List (String × α)) : OrderedMap α :=
  entries.foldl (fun m entry => m.insert entry.1 entry.2) m

/-- The map of some entries: the last value of a key, at the key's first position. -/
def ofList (entries : List (String × α)) : OrderedMap α :=
  empty.insertAll entries

def merge (m other : OrderedMap α) : OrderedMap α :=
  m.insertAll other.entries

def filter (p : String → α → Bool) (m : OrderedMap α) : OrderedMap α :=
  ⟨m.entries.filter fun entry => p entry.1 entry.2,
    m.nodup.sublist (List.filter_sublist.map Prod.fst)⟩

def swapRemoveIn (key : String) : List (String × α) → List (String × α)
  | [] => []
  | (k, v) :: rest =>
      if k = key then rest.getLast?.toList ++ rest.dropLast else (k, v) :: swapRemoveIn key rest

theorem perm_getLast?_dropLast (entries : List α) :
    (entries.getLast?.toList ++ entries.dropLast).Perm entries := by
  cases last : entries.getLast? with
  | none =>
      rw [List.getLast?_eq_none_iff.1 last]
      exact .refl _
  | some entry =>
      obtain ⟨front, rfl⟩ := List.getLast?_eq_some_iff.1 last
      rw [List.dropLast_concat]
      exact List.perm_append_comm

/-- What is left is a permutation of the entries under the other keys. -/
theorem perm_swapRemoveIn (key : String) {entries : List (String × α)}
    (nodup : (entries.map Prod.fst).Nodup) :
    (swapRemoveIn key entries).Perm (entries.filter fun entry => entry.1 ≠ key) := by
  induction entries with
  | nil => exact .refl _
  | cons entry rest ih =>
      obtain ⟨k, v⟩ := entry
      rw [List.map_cons, List.nodup_cons] at nodup
      by_cases same : k = key
      · subst same
        have others : rest.filter (fun entry => entry.1 ≠ k) = rest := by
          rw [List.filter_eq_self]
          intro other mem
          rw [decide_eq_true_eq]
          intro same
          exact nodup.1 (List.mem_map.2 ⟨other, mem, same⟩)
        have gone : ((k, v) :: rest).filter (fun entry => entry.1 ≠ k) = rest := by
          rw [List.filter_cons_of_neg (by simp), others]
        rw [gone, swapRemoveIn, if_pos rfl]
        exact perm_getLast?_dropLast rest
      · simpa [swapRemoveIn, same] using ih nodup.2

/-- Takes the entry under a key out of the map. The last entry takes its place, so the order of the
others may change. -/
def swapRemove (m : OrderedMap α) (key : String) : OrderedMap α :=
  ⟨swapRemoveIn key m.entries,
    ((perm_swapRemoveIn key m.nodup).map Prod.fst).nodup_iff.2
      (m.nodup.sublist (List.filter_sublist.map Prod.fst))⟩

def mapEntries (f : String → α → β) (m : OrderedMap α) : OrderedMap β :=
  ⟨m.entries.map fun entry => (entry.1, f entry.1 entry.2), by
    simpa [List.map_map, Function.comp_def] using m.nodup⟩

def map (f : α → β) (m : OrderedMap α) : OrderedMap β :=
  m.mapEntries fun _ => f

def singleton (key : String) (value : α) : OrderedMap α :=
  ⟨[(key, value)], by simp⟩

@[simp] theorem entries_empty : (empty : OrderedMap α).entries = [] := rfl

@[simp] theorem entries_singleton (key : String) (value : α) :
    (singleton key value).entries = [(key, value)] := rfl

@[simp] theorem get?_empty (key : String) : (empty : OrderedMap α).get? key = none := rfl

theorem findIn_insertIn (key other : String) (value : α) (entries : List (String × α)) :
    findIn other (insertIn key value entries) =
      if other = key then some value else findIn other entries := by
  induction entries with
  | nil => grind [insertIn, findIn]
  | cons entry rest ih => grind [insertIn, findIn]

@[simp] theorem get?_insert (m : OrderedMap α) (key other : String) (value : α) :
    (m.insert key value).get? other = if other = key then some value else m.get? other :=
  findIn_insertIn key other value m.entries

theorem findIn_eq_some_iff {key : String} {value : α} {entries : List (String × α)}
    (nodup : (entries.map Prod.fst).Nodup) :
    findIn key entries = some value ↔ (key, value) ∈ entries := by
  induction entries with
  | nil => simp [findIn]
  | cons entry rest ih =>
      obtain ⟨k, v⟩ := entry
      rw [List.map_cons, List.nodup_cons] at nodup
      by_cases same : k = key
      · subst same
        have fresh : (k, value) ∉ rest := fun mem => nodup.1 (List.mem_map.2 ⟨_, mem, rfl⟩)
        simp [findIn, fresh, eq_comm]
      · simp [findIn, same, ih nodup.2, Ne.symm same]

theorem get?_eq_some_iff {m : OrderedMap α} {key : String} {value : α} :
    m.get? key = some value ↔ (key, value) ∈ m.entries :=
  findIn_eq_some_iff m.nodup

@[simp] theorem entries_filter (p : String → α → Bool) (m : OrderedMap α) :
    (m.filter p).entries = m.entries.filter fun entry => p entry.1 entry.2 := rfl

theorem mem_entries_swapRemove {m : OrderedMap α} {key : String} {entry : String × α} :
    entry ∈ (m.swapRemove key).entries ↔ entry ∈ m.entries ∧ entry.1 ≠ key := by
  rw [swapRemove, (perm_swapRemoveIn key m.nodup).mem_iff, List.mem_filter, decide_eq_true_eq]

/-- The order of what is left does not matter to look-ups. -/
@[simp] theorem get?_swapRemove (m : OrderedMap α) (key other : String) :
    (m.swapRemove key).get? other = if other = key then none else m.get? other := by
  apply Option.ext
  intro value
  rw [get?_eq_some_iff, mem_entries_swapRemove, ← get?_eq_some_iff]
  by_cases same : other = key <;> simp [same]

theorem entries_insert_of_not_mem {m : OrderedMap α} {key : String} (fresh : key ∉ m.keys)
    (value : α) : (m.insert key value).entries = m.entries ++ [(key, value)] := by
  have appended : ∀ entries : List (String × α), key ∉ entries.map Prod.fst →
      insertIn key value entries = entries ++ [(key, value)] := by
    intro entries
    induction entries with
    | nil => intro _; rfl
    | cons entry rest ih =>
        intro fresh
        simp only [List.map_cons, List.mem_cons, not_or] at fresh
        simp [insertIn, Ne.symm fresh.1, ih fresh.2]
  exact appended m.entries fresh

/-- Entries with distinct keys that a map does not have yet go to its end. -/
theorem entries_insertAll {m : OrderedMap α} {entries : List (String × α)}
    (nodup : (m.keys ++ entries.map Prod.fst).Nodup) :
    (m.insertAll entries).entries = m.entries ++ entries := by
  induction entries generalizing m with
  | nil => simp [insertAll]
  | cons entry rest ih =>
      have fresh : entry.1 ∉ m.keys := by
        intro mem
        exact (List.nodup_append.1 nodup).2.2 _ mem _ (List.mem_cons_self ..) rfl
      have inserted := entries_insert_of_not_mem fresh entry.2
      have rest_nodup : ((m.insert entry.1 entry.2).keys ++ rest.map Prod.fst).Nodup := by
        simpa [keys, inserted] using nodup
      have behind := ih rest_nodup
      rw [inserted] at behind
      simpa [insertAll] using behind

/-- Every entry behind an insertion of entries was there or has been inserted. -/
theorem mem_entries_of_insertAll {m : OrderedMap α} {entries : List (String × α)}
    {entry : String × α} (mem : entry ∈ (m.insertAll entries).entries) :
    entry ∈ m.entries ∨ entry ∈ entries := by
  induction entries generalizing m with
  | nil => exact .inl mem
  | cons first rest ih =>
      rcases ih (m := m.insert first.1 first.2) mem with mem | mem
      · rw [← get?_eq_some_iff, get?_insert] at mem
        split at mem
        · next same =>
            obtain rfl : first = entry := Prod.ext same.symm (Option.some.inj mem)
            exact .inr (List.mem_cons_self ..)
        · exact .inl (get?_eq_some_iff.1 mem)
      · exact .inr (List.mem_cons_of_mem _ mem)

theorem mem_entries_of_ofList {entries : List (String × α)} {entry : String × α}
    (mem : entry ∈ (ofList entries).entries) : entry ∈ entries := by
  rcases mem_entries_of_insertAll mem with mem | mem
  · cases mem
  · exact mem

theorem mem_keys_insertAll {m : OrderedMap α} {entries : List (String × α)} {key : String} :
    key ∈ (m.insertAll entries).keys ↔ key ∈ m.keys ∨ key ∈ entries.map Prod.fst := by
  induction entries generalizing m with
  | nil => simp [insertAll]
  | cons entry rest ih =>
      have inserted : key ∈ (m.insert entry.1 entry.2).keys ↔ key = entry.1 ∨ key ∈ m.keys :=
        mem_keys_insertIn
      change key ∈ ((m.insert entry.1 entry.2).insertAll rest).keys ↔ _
      rw [ih, inserted, List.map_cons, List.mem_cons, or_assoc, or_left_comm]

theorem mem_keys_ofList {entries : List (String × α)} {key : String} :
    key ∈ (ofList entries).keys ↔ key ∈ entries.map Prod.fst := by
  rw [ofList, mem_keys_insertAll]
  simp [keys]

theorem entries_ofList {entries : List (String × α)} (nodup : (entries.map Prod.fst).Nodup) :
    (ofList entries).entries = entries :=
  entries_insertAll nodup

theorem keys_insert (m : OrderedMap α) (key : String) (value : α) :
    (m.insert key value).keys = if key ∈ m.keys then m.keys else m.keys ++ [key] := by
  have keys : ∀ entries : List (String × α), (insertIn key value entries).map Prod.fst =
      if key ∈ entries.map Prod.fst then entries.map Prod.fst
      else entries.map Prod.fst ++ [key] := by
    intro entries
    induction entries with
    | nil => rfl
    | cons entry rest ih =>
        obtain ⟨k, v⟩ := entry
        by_cases same : k = key
        · simp [insertIn, same]
        · by_cases mem : key ∈ rest.map Prod.fst <;>
            simp_all [insertIn, Ne.symm same]
  exact keys m.entries

/-- The new keys go to the end in the order in which they first appear. -/
theorem keys_insertAll (m : OrderedMap α) (entries : List (String × α)) :
    (m.insertAll entries).keys =
      m.keys ++ ((entries.map Prod.fst).filter fun key => key ∉ m.keys).eraseDups := by
  induction entries generalizing m with
  | nil => simp [insertAll]
  | cons entry rest ih =>
      have behind : (m.insertAll (entry :: rest)).keys =
          ((m.insert entry.1 entry.2).insertAll rest).keys := rfl
      rw [behind, ih, keys_insert, List.map_cons]
      by_cases mem : entry.1 ∈ m.keys
      · rw [if_pos mem, List.filter_cons_of_neg (by simpa using mem)]
      · have others : (rest.map Prod.fst).filter (fun key => key ∉ m.keys ++ [entry.1]) =
            ((rest.map Prod.fst).filter fun key => key ∉ m.keys).filter
              fun key => !key == entry.1 := by
          rw [List.filter_filter]
          apply List.filter_congr
          intro key _
          by_cases same : key = entry.1 <;> simp [same]
        rw [if_neg mem, others, List.filter_cons_of_pos (by simpa using mem), List.eraseDups_cons,
          List.append_assoc, List.singleton_append]

theorem keys_ofList (entries : List (String × α)) :
    (ofList entries).keys = (entries.map Prod.fst).eraseDups := by
  have new : (entries.map Prod.fst).filter (fun key => key ∉ (empty : OrderedMap α).keys) =
      entries.map Prod.fst := List.filter_eq_self.2 fun key mem => rfl
  rw [ofList, keys_insertAll, new]
  rfl

theorem get?_insertAll (m : OrderedMap α) (entries : List (String × α)) (key : String) :
    (m.insertAll entries).get? key =
      ((entries.reverse.find? fun entry => entry.1 = key).map Prod.snd).or (m.get? key) := by
  induction entries generalizing m with
  | nil => rfl
  | cons entry rest ih =>
      have behind : (m.insertAll (entry :: rest)).get? key =
          ((m.insert entry.1 entry.2).insertAll rest).get? key := rfl
      rw [behind, ih, get?_insert, List.reverse_cons, List.find?_append]
      cases rest.reverse.find? fun entry => entry.1 = key with
      | some last => rfl
      | none =>
        by_cases same : entry.1 = key
        · simp [same]
        · simp [same, Ne.symm same]

theorem get?_ofList (entries : List (String × α)) (key : String) :
    (ofList entries).get? key =
      (entries.reverse.find? fun entry => entry.1 = key).map Prod.snd := by
  rw [ofList, get?_insertAll, get?_empty, Option.or_none]

theorem mem_keys_iff {m : OrderedMap α} {key : String} :
    key ∈ m.keys ↔ ∃ value, m.get? key = some value := by
  simp only [keys, List.mem_map, get?_eq_some_iff]
  constructor
  · rintro ⟨entry, mem, rfl⟩
    exact ⟨entry.2, mem⟩
  · rintro ⟨value, mem⟩
    exact ⟨(key, value), mem, rfl⟩

theorem findIn_eq_none_of_not_mem {key : String} {entries : List (String × α)}
    (missing : key ∉ entries.map Prod.fst) : findIn key entries = none := by
  induction entries with
  | nil => rfl
  | cons entry rest ih =>
      obtain ⟨k, v⟩ := entry
      rw [List.map_cons, List.mem_cons, not_or] at missing
      rw [findIn, if_neg (Ne.symm missing.1), ih missing.2]

/-- The entries in the order of a list that has the keys, and maybe others, in their order. -/
theorem entries_eq_filterMap {m : OrderedMap α} {keys : List String} (distinct : keys.Nodup)
    (inOrder : m.keys.Sublist keys) :
    m.entries = keys.filterMap fun key => (m.get? key).map (key, ·) := by
  -- The look-up stays fixed while the entries are walked through.
  have walk : ∀ keys : List String, keys.Nodup → ∀ entries : List (String × α),
      (entries.map Prod.fst).Sublist keys → (∀ key ∈ keys, m.get? key = findIn key entries) →
        entries = keys.filterMap fun key => (m.get? key).map (key, ·) := by
    intro keys
    induction keys with
    | nil =>
        intro _ entries inOrder _
        exact List.map_eq_nil_iff.1 (List.sublist_nil.1 inOrder)
    | cons key rest ih =>
        intro distinct entries inOrder found
        obtain ⟨fresh, others⟩ := List.nodup_cons.1 distinct
        have here := found key (List.mem_cons_self ..)
        rcases List.sublist_cons_iff.1 inOrder with later | ⟨names, first, later⟩
        · have missing : findIn key entries = none :=
            findIn_eq_none_of_not_mem fun mem => fresh (later.subset mem)
          rw [List.filterMap_cons, here, missing]
          exact ih others entries later fun other mem => found other (List.mem_cons_of_mem _ mem)
        · obtain ⟨⟨k, value⟩, entries, rfl, rfl, rfl⟩ := List.map_eq_cons_iff.1 first
          have behind : ∀ other ∈ rest, m.get? other = findIn other entries := by
            intro other mem
            rw [found other (List.mem_cons_of_mem _ mem), findIn,
              if_neg (ne_of_mem_of_not_mem mem fresh).symm]
          rw [List.filterMap_cons, here, findIn, if_pos rfl]
          exact congrArg ((k, value) :: ·) (ih others entries later behind)
  exact walk keys distinct m.entries inOrder fun key _ => rfl

/-! ## Entries changed, left out and merged -/

@[simp] theorem keys_mapEntries (f : String → α → β) (m : OrderedMap α) :
    (m.mapEntries f).keys = m.keys := by
  simp [keys, mapEntries, Function.comp_def]

@[simp] theorem get?_mapEntries (f : String → α → β) (m : OrderedMap α) (key : String) :
    (m.mapEntries f).get? key = (m.get? key).map (f key) := by
  have found : ∀ entries : List (String × α),
      findIn key (entries.map fun entry => (entry.1, f entry.1 entry.2)) =
        (findIn key entries).map (f key) := by
    intro entries
    induction entries with
    | nil => rfl
    | cons entry rest ih =>
        obtain ⟨k, v⟩ := entry
        by_cases same : k = key
        · subst same
          simp [findIn]
        · simp [findIn, same, ih]
  exact found m.entries

@[simp] theorem get?_filter (p : String → α → Bool) (m : OrderedMap α) (key : String) :
    (m.filter p).get? key = (m.get? key).filter (p key) := by
  apply Option.ext
  intro value
  rw [get?_eq_some_iff, entries_filter, List.mem_filter, Option.filter_eq_some_iff,
    get?_eq_some_iff]

/-- The keys of the first map, and behind them the new keys of the second. -/
theorem keys_merge (m other : OrderedMap α) :
    (m.merge other).keys = m.keys ++ other.keys.filter fun key => key ∉ m.keys := by
  have once : ∀ keys : List String, keys.Nodup → keys.eraseDups = keys := by
    intro keys distinct
    induction keys with
    | nil => rfl
    | cons key rest ih =>
        obtain ⟨fresh, others⟩ := List.nodup_cons.1 distinct
        have kept : rest.filter (fun other => !other == key) = rest := by
          rw [List.filter_eq_self]
          intro other mem
          simpa using ne_of_mem_of_not_mem mem fresh
        rw [List.eraseDups_cons, kept, ih others]
  have distinct : (other.keys.filter fun key => key ∉ m.keys).Nodup := other.nodup.filter _
  rw [merge, keys_insertAll]
  exact congrArg (m.keys ++ ·) (once _ distinct)

/-- The value of the second map, if it has one. -/
@[simp] theorem get?_merge (m other : OrderedMap α) (key : String) :
    (m.merge other).get? key = (other.get? key).or (m.get? key) := by
  have entries := entries_ofList other.nodup
  rw [merge, get?_insertAll, ← get?_ofList, get?, entries]
  rfl

theorem get?_merge_of_mem {m other : OrderedMap α} {key : String} (present : key ∈ other.keys) :
    (m.merge other).get? key = other.get? key := by
  obtain ⟨value, found⟩ := mem_keys_iff.1 present
  rw [get?_merge, found, Option.some_or]

theorem get?_merge_of_not_mem {m other : OrderedMap α} {key : String}
    (missing : key ∉ other.keys) : (m.merge other).get? key = m.get? key := by
  have none : other.get? key = none := findIn_eq_none_of_not_mem missing
  rw [get?_merge, none, Option.none_or]

end OrderedMap

end TableGateway
