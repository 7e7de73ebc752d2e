import TokenServer.Http.Request
import TokenServer.Proofs.Escape
import TokenServer.Proofs.Table

/-! Forms are read as they were written, whatever their texts hold: the signs that part names, values and pairs are
escaped within them. Of the values that are posted under one name the first counts. -/

namespace TokenServer

namespace Form

theorem decodeText_encodeText (text : String) : decodeText (encodeText text) = text := by
  rw [decodeText, (Escape.spells_encodeText text).expand_eq, Utf8.decodeLossy_encode]

/-- Signs that are not plain stand for themselves nowhere, unless they are the signs of spaces and escapes. -/
theorem not_mem_encodeText {sign : UInt8} (unplain : isPlain sign = false)
    (differ : sign ≠ Escape.plus ∧ sign ≠ Escape.percent) (text : String) : sign ∉ encodeText text := by
  intro member
  rcases Escape.mem_encodeText member with kept | same | same
  · cases unplain.symm.trans kept
  · exact differ.1 same
  · exact differ.2 same

theorem equals_not_mem_encodeText : ∀ text, equals ∉ encodeText text := not_mem_encodeText rfl (by decide)

theorem ampersand_not_mem_encodeText : ∀ text, ampersand ∉ encodeText text := not_mem_encodeText rfl (by decide)

def written (pair : String × String) : Bytes := encodeText pair.1 ++ equals :: encodeText pair.2

theorem ampersand_not_mem_written (pair : String × String) : ampersand ∉ written pair := by
  rw [written, List.mem_append, List.mem_cons]
  rintro (name | same | value)
  · exact ampersand_not_mem_encodeText _ name
  · cases same
  · exact ampersand_not_mem_encodeText _ value

/-- What is joined by a mark is cut there, if the mark does not come before. -/
theorem cut_of_not_mem {α : Type} [DecidableEq α] {mark : α} {before : List α} (first : mark ∉ before)
    (behind : List α) : (before ++ mark :: behind).takeWhile (· ≠ mark) = before ∧
      (before ++ mark :: behind).dropWhile (· ≠ mark) = mark :: behind := by
  have passed : ∀ other ∈ before, decide (other ≠ mark) = true := by
    intro other member
    refine decide_eq_true ?_
    rintro rfl
    exact first member
  rw [List.takeWhile_append_of_pos passed, List.dropWhile_append_of_pos passed]
  simp

theorem decodePair_written (pair : String × String) : decodePair (written pair) = pair := by
  obtain ⟨name, value⟩ := cut_of_not_mem (equals_not_mem_encodeText pair.1) (encodeText pair.2)
  rw [decodePair, written, name, value, List.drop_succ_cons, List.drop_zero, decodeText_encodeText,
    decodeText_encodeText]

theorem decode_encode (pairs : List (String × String)) : decode (encode pairs) = pairs := by
  cases given : pairs with
  | nil => rfl
  | cons first others =>
    rw [← given]
    have apart : ∀ part ∈ pairs.map written, ampersand ∉ part := by
      intro part member
      obtain ⟨pair, _, rfl⟩ := List.mem_map.mp member
      exact ampersand_not_mem_written pair
    have cut : (encode pairs).splitOn ampersand = pairs.map written :=
      List.splitOn_intercalate ampersand apart (by simp [given])
    have filled : (pairs.map written).filter (!·.isEmpty) = pairs.map written := by
      refine List.filter_eq_self.mpr fun part member => ?_
      obtain ⟨pair, _, rfl⟩ := List.mem_map.mp member
      simp [written]
    rw [decode, cut, filled, List.map_map]
    simp [Function.comp_def, decodePair_written]

/-- Posted in whatever order, a name that is given one value only has it. -/
theorem lookup_of_perm {pairs others : List (String × String)} {name value : String}
    (posted : pairs.Perm ((name, value) :: others)) (differ : ∀ pair ∈ others, pair.1 ≠ name) :
    pairs.lookup name = some value := by
  cases found : pairs.lookup name with
  | none =>
    have listed : (name, value) ∈ pairs := posted.mem_iff.mpr List.mem_cons_self
    simpa using List.lookup_eq_none_iff.mp found _ listed
  | some other =>
    obtain ⟨before, after, split, _⟩ := List.lookup_eq_some_iff.mp found
    have listed : (name, other) ∈ pairs := split ▸ List.mem_append_right _ List.mem_cons_self
    rcases List.mem_cons.mp (posted.mem_iff.mp listed) with same | further
    · exact congrArg some (Prod.mk.inj same).2
    · exact absurd rfl (differ _ further)

end Form

namespace HttpRequest

theorem isJson_formPost (pairs : List (String × String)) : (formPost pairs).isJson = false := by
  rfl

theorem form_formPost (pairs : List (String × String)) : (formPost pairs).form = .ok (.ofFirst pairs) := by
  rw [form, isJson_formPost, if_neg Bool.false_ne_true]
  exact congrArg (fun pairs => Except.ok (Table.ofFirst pairs)) (Form.decode_encode pairs)

/-- A posted form is read with each name bound to its first value, and other values of the name change nothing. -/
theorem posted_form_read (pairs : List (String × String)) : ∃ form, (formPost pairs).form = .ok form ∧
    (∀ key, form.get? key = pairs.lookup key) ∧
    ∀ more : List (String × String), (∀ pair ∈ more, pair.1 ∈ pairs.map Prod.fst) →
      (formPost (pairs ++ more)).form = .ok form := by
  refine ⟨.ofFirst pairs, form_formPost pairs, Table.get?_ofFirst pairs, fun more repeated => ?_⟩
  rw [form_formPost]
  refine congrArg Except.ok (Table.ext fun key => ?_)
  rw [Table.get?_ofFirst, Table.get?_ofFirst, List.lookup_append]
  cases found : pairs.lookup key with
  | some value => rfl
  | none =>
    rw [Option.none_or, List.lookup_eq_none_iff]
    intro pair member
    obtain ⟨earlier, listed, same⟩ := List.mem_map.mp (repeated pair member)
    rw [← same]
    exact List.lookup_eq_none_iff.mp found earlier listed

example : (formPost [("scope", "a"), ("", "&="), ("scope", "b")]).form =
    .ok (.ofList [("", "&="), ("scope", "a")]) := by
  decide +kernel

end HttpRequest

end TokenServer
