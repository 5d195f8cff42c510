import TableGateway.Numeric.Digits

/-!
# Universally unique identifiers

A UUID has 128 bits. Its text has the 32 hexadecimal digits in groups of 8, 4, 4, 4 and 12. The
digits are read back without the hyphens, so no two identifiers share a text.
-/

namespace TableGateway

attribute [local instance (high)] instPowNat

structure Uuid where
  bits : BitVec 128
  deriving DecidableEq

namespace Uuid

open Numeric (hexValue? readHex?)

def hexDigits (id : Uuid) : List Char :=
  (List.range 32).map fun i => Nat.digitChar (id.bits.toNat / 16 ^ (31 - i) % 16)

def text (id : Uuid) : List Char :=
  let ds := id.hexDigits
  ds.take 8 ++ '-' :: (ds.drop 8).take 4 ++ '-' :: (ds.drop 12).take 4 ++
    '-' :: (ds.drop 16).take 4 ++ '-' :: ds.drop 20

/-- Reads 32 digits of either case, with hyphens anywhere between them. -/
def read? (text : List Char) : Option Uuid :=
  let ds := text.filter (· ≠ '-')
  if ds.length = 32 then (readHex? ds).map fun n => ⟨BitVec.ofNat 128 n⟩ else none

theorem hexValue?_digitChar : ∀ d < 16, hexValue? (Nat.digitChar d) = some d := by
  decide

/-- Hexadecimal digits in some places are read as the number up to these places. -/
theorem foldlM_hexDigits (width n total : Nat) :
    ((List.range width).map fun i => Nat.digitChar (n / 16 ^ (width - 1 - i) % 16)).foldlM
        (fun total c => (hexValue? c).map fun d => total * 16 + d) total =
      some (total * 16 ^ width + n % 16 ^ width) := by
  induction width generalizing n with
  | zero => simp [Nat.mod_one]
  | succ width ih =>
      have front : ((List.range width).map fun i => Nat.digitChar (n / 16 ^ (width - i) % 16)) =
          (List.range width).map fun i =>
            Nat.digitChar (n / 16 / 16 ^ (width - 1 - i) % 16) := by
        refine List.map_congr_left fun i mem => ?_
        have places : width - i = 1 + (width - 1 - i) := by
          have := List.mem_range.1 mem
          omega
        rw [places, Nat.pow_add, Nat.pow_one, Nat.div_div_eq_div_mul]
      have last := hexValue?_digitChar (n % 16) (Nat.mod_lt n (by decide))
      have parts : n % 16 ^ (width + 1) = n % 16 + 16 * (n / 16 % 16 ^ width) := by
        rw [Nat.pow_succ', Nat.mod_mul]
      rw [List.range_succ, List.map_append, List.foldlM_append, Nat.add_sub_cancel, front, ih]
      simp only [List.map_cons, List.map_nil, List.foldlM_cons, List.foldlM_nil, Nat.sub_self,
        Nat.pow_zero, Nat.div_one, Option.bind_eq_bind, Option.bind_some, last, Option.map_some]
      rw [parts, Nat.pow_succ']
      refine congrArg some ?_
      rw [Nat.add_mul, Nat.mul_assoc, Nat.mul_comm (16 ^ width) 16]
      omega

theorem readHex?_hexDigits (id : Uuid) : readHex? id.hexDigits = some id.bits.toNat := by
  have read := foldlM_hexDigits 32 id.bits.toNat 0
  rw [Nat.zero_mul, Nat.zero_add, Nat.mod_eq_of_lt id.bits.isLt] at read
  exact read

theorem ne_hyphen_of_mem_hexDigits {id : Uuid} {c : Char} (mem : c ∈ id.hexDigits) :
    c ≠ '-' := by
  have digit : ∀ d < 16, Nat.digitChar d ≠ '-' := by decide
  obtain ⟨i, -, rfl⟩ := List.mem_map.1 mem
  exact digit _ (Nat.mod_lt _ (by decide))

/-- The five groups are the whole. -/
theorem groups_append (ds : List Char) :
    ds.take 8 ++ ((ds.drop 8).take 4 ++ ((ds.drop 12).take 4 ++ ((ds.drop 16).take 4 ++
      ds.drop 20))) = ds := by
  have group (n : Nat) : (ds.drop n).take 4 ++ ds.drop (n + 4) = ds.drop n := by
    rw [← List.drop_drop, List.take_append_drop]
  rw [group 16, group 12, group 8, List.take_append_drop]

theorem filter_text (id : Uuid) : id.text.filter (· ≠ '-') = id.hexDigits := by
  have kept {ds : List Char} (sub : ∀ c ∈ ds, c ∈ id.hexDigits) : ds.filter (· ≠ '-') = ds :=
    List.filter_eq_self.2 fun c mem => decide_eq_true (ne_hyphen_of_mem_hexDigits (sub c mem))
  have taken (n : Nat) := kept fun c (mem : c ∈ id.hexDigits.take n) => List.mem_of_mem_take mem
  have dropped (n : Nat) := kept fun c (mem : c ∈ id.hexDigits.drop n) => List.mem_of_mem_drop mem
  have middle (n : Nat) := kept fun c (mem : c ∈ (id.hexDigits.drop n).take 4) =>
    List.mem_of_mem_drop (List.mem_of_mem_take mem)
  have hyphen (rest : List Char) : ('-' :: rest).filter (· ≠ '-') = rest.filter (· ≠ '-') := rfl
  simp only [text, List.append_assoc, List.cons_append, List.filter_append, hyphen, taken, dropped,
    middle]
  exact groups_append id.hexDigits

theorem read?_text (id : Uuid) : read? id.text = some id := by
  have length : id.hexDigits.length = 32 := by rw [hexDigits, List.length_map, List.length_range]
  rw [read?, filter_text, if_pos length, readHex?_hexDigits, Option.map_some,
    BitVec.ofNat_toNat, BitVec.setWidth_eq]

theorem text_inj {a b : Uuid} : a.text = b.text ↔ a = b := by
  refine ⟨fun same => ?_, congrArg text⟩
  have read := read?_text a
  rw [same, read?_text b] at read
  exact (Option.some.inj read).symm

end Uuid

end TableGateway
