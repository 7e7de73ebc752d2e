import Mathlib.Data.Option.Basic
import TokenServer.Proofs.Digit
import TokenServer.Uuid

/-! The written form of identifiers is read as the same identifier. -/

namespace TokenServer.Uuid

theorem length_hexDigits (count value : Nat) : (hexDigits count value).length = count := by
  induction count generalizing value with
  | zero => rfl
  | succ count ih => rw [hexDigits, List.length_append, ih, List.length_singleton]

theorem lt_of_mem_hexDigits {count value digit : Nat} (member : digit ∈ hexDigits count value) : digit < 16 := by
  induction count generalizing value with
  | zero => cases member
  | succ count ih =>
    rcases List.mem_append.mp member with earlier | last
    · exact ih earlier
    · rw [List.mem_singleton.mp last]
      exact Nat.mod_lt _ (by decide)

theorem ofDigits_hexDigits {count value : Nat} (bound : value < 16 ^ count) :
    ofDigits (hexDigits count value) = value := by
  induction count generalizing value with
  | zero => exact (Nat.lt_one_iff.mp bound).symm
  | succ count ih =>
    have earlier := ih (Nat.div_lt_of_lt_mul (by rwa [Nat.pow_succ, Nat.mul_comm] at bound))
    rw [ofDigits] at earlier
    rw [hexDigits, ofDigits, List.foldl_append, earlier]
    exact Nat.div_add_mod' value 16

theorem mapM_hex? {digits : List Nat} (small : ∀ digit ∈ digits, digit < 16) :
    (digits.map Digit.hex).mapM Digit.hex? = some digits := by
  induction digits with
  | nil => rfl
  | cons digit rest ih =>
    obtain ⟨here, later⟩ := List.forall_mem_cons.mp small
    simp [Digit.hex?_hex digit here, ih later]

theorem drop_group {group rest : List Char} {width : Nat} (length : group.length = width) :
    (group ++ '-' :: rest).drop (width + 1) = rest := by
  rw [List.append_cons]
  exact List.drop_left' (by rw [List.length_append, length, List.length_singleton])

theorem ungrouped {digits : List Char} (length : digits.length = 32) :
    (hyphenated digits).take 8 ++ ((hyphenated digits).drop 9).take 4 ++ ((hyphenated digits).drop 14).take 4 ++
      ((hyphenated digits).drop 19).take 4 ++ (hyphenated digits).drop 24 = digits := by
  have first : (digits.take 8).length = 8 := by simp [length]
  have group : ∀ start, start + 4 ≤ 32 → ((digits.drop start).take 4).length = 4 := by
    intro start within
    rw [List.length_take, List.length_drop, length]
    omega
  have second : (hyphenated digits).drop 9 = (digits.drop 8).take 4 ++ '-' :: ((digits.drop 12).take 4 ++
      '-' :: ((digits.drop 16).take 4 ++ '-' :: digits.drop 20)) := drop_group first
  have third : (hyphenated digits).drop 14 = (digits.drop 12).take 4 ++
      '-' :: ((digits.drop 16).take 4 ++ '-' :: digits.drop 20) := by
    rw [show 14 = 9 + 5 from rfl, ← List.drop_drop, second]
    exact drop_group (group 8 (by decide))
  have fourth : (hyphenated digits).drop 19 = (digits.drop 16).take 4 ++ '-' :: digits.drop 20 := by
    rw [show 19 = 14 + 5 from rfl, ← List.drop_drop, third]
    exact drop_group (group 12 (by decide))
  have fifth : (hyphenated digits).drop 24 = digits.drop 20 := by
    rw [show 24 = 19 + 5 from rfl, ← List.drop_drop, fourth]
    exact drop_group (group 16 (by decide))
  have whole : ∀ start, (digits.drop start).take 4 ++ digits.drop (start + 4) = digits.drop start := by
    intro start
    rw [← List.drop_drop]
    exact List.take_append_drop 4 _
  rw [second, third, fourth, fifth, hyphenated, List.take_left' first, List.take_left' (group 8 (by decide)),
    List.take_left' (group 12 (by decide)), List.take_left' (group 16 (by decide)), List.append_assoc, whole 16,
    List.append_assoc, whole 12, List.append_assoc, whole 8]
  exact List.take_append_drop 8 digits

theorem parse?_render (id : Uuid) : parse? id.render = some id := by
  have length : ((hexDigits 32 id.value).map Digit.hex).length = 32 := by
    rw [List.length_map, length_hexDigits]
  have small : ∀ digit ∈ hexDigits 32 id.value, digit < 16 := fun _ => lt_of_mem_hexDigits
  have value : ofDigits (hexDigits 32 id.value) = id.value := ofDigits_hexDigits id.bounded
  have read : ofHex? ((hexDigits 32 id.value).map Digit.hex) = some id := by
    simp only [ofHex?, length, mapM_hex? small, value, Option.bind_eq_bind, Option.bind_some, id.bounded]
    rfl
  have hyphens : ofHyphenated? (hyphenated ((hexDigits 32 id.value).map Digit.hex)) = some id := by
    simp only [ofHyphenated?, ungrouped length, read]
    rfl
  have text : id.render.toList = hyphenated ((hexDigits 32 id.value).map Digit.hex) := String.toList_ofList
  have unbraced : ∀ rest, hyphenated ((hexDigits 32 id.value).map Digit.hex) ≠ '\x7b' :: rest := by
    intro rest braced
    have first : '\x7b' ∈ ((hexDigits 32 id.value).map Digit.hex).take 8 := by
      have taken := congrArg (List.take 8) braced
      rw [hyphenated, List.take_left' (by rw [List.length_take, length]; rfl)] at taken
      rw [taken]
      exact List.mem_cons_self
    obtain ⟨digit, listed, same⟩ := List.mem_map.mp (List.mem_of_mem_take first)
    have plain : ∀ digit < 16, Digit.hex digit ≠ '\x7b' := by decide
    exact plain digit (small digit listed) same
  have count : (hyphenated ((hexDigits 32 id.value).map Digit.hex)).length = 36 := by
    simp [hyphenated, length_hexDigits]
  rw [parse?, text]
  split
  · next rest braced => exact absurd braced (unbraced rest)
  · rw [if_neg (by rw [count]; decide), if_neg (by rw [count]; decide)]
    exact hyphens

end TokenServer.Uuid
