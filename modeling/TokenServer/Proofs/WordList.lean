import TokenServer.WordList

/-! Granting names in turn adds those that are missing, each of them once and in the order of their first
occurrence. Names are read from a field as they were written exactly where the field's separators do not stand in
them. -/

namespace TokenServer.WordList

theorem grantAll_eq (words names : WordList) :
    words.grantAll names = words ++ List.eraseDups (names.filter (!words.contains ·)) := by
  induction names generalizing words with
  | nil => simp [grantAll]
  | cons name rest ih =>
    change (words.grant name).grantAll rest = _
    rw [ih, grant, List.filter_cons]
    cases held : words.contains name with
    | true => rw [if_pos rfl, if_neg (by decide)]
    | false =>
      rw [if_neg Bool.false_ne_true, if_pos (by decide), List.eraseDups_cons, List.append_assoc,
        List.singleton_append, List.filter_filter]
      congr 4
      funext other
      by_cases same : other = name <;> simp [same]

theorem grantAll_nil (names : WordList) : grantAll [] names = List.eraseDups names := by
  rw [grantAll_eq, List.nil_append]
  exact congrArg List.eraseDups (List.filter_eq_self.mpr fun _ _ => rfl)

theorem eraseDups_eraseDups (names : WordList) :
    List.eraseDups (List.eraseDups names) = List.eraseDups names := by
  induction length : names.length using Nat.strongRecOn generalizing names with
  | ind count ih =>
    cases names with
    | nil => rfl
    | cons name rest =>
      have others : ∀ other ∈ List.eraseDups (rest.filter (!· == name)), (!other == name) = true :=
        fun other member => (List.mem_filter.mp (List.mem_eraseDups.mp member)).2
      have shorter : (rest.filter (!· == name)).length < count :=
        length ▸ Nat.lt_succ_of_le (List.length_filter_le _ _)
      rw [List.eraseDups_cons, List.eraseDups_cons, List.filter_eq_self.mpr others, ih _ shorter _ rfl]

theorem nodup_grant {words : WordList} (distinct : words.Nodup) (name : String) : (words.grant name).Nodup := by
  rw [grant]
  split
  · exact distinct
  · next missing =>
    rw [List.nodup_append]
    refine ⟨distinct, by simp, fun word member other single => ?_⟩
    cases List.mem_singleton.mp single
    rintro rfl
    exact missing (List.contains_iff_mem.mpr member)

theorem nodup_grantAll {words : WordList} (distinct : words.Nodup) (names : WordList) :
    (words.grantAll names).Nodup := by
  induction names generalizing words with
  | nil => exact distinct
  | cons name rest ih => exact ih (nodup_grant distinct name)

theorem nodup_eraseDups (names : WordList) : (List.eraseDups names).Nodup :=
  grantAll_nil names ▸ nodup_grantAll List.nodup_nil names

theorem isExactly_iff {words : WordList} {name : String} : words.isExactly name = true ↔ words = [name] := by
  rw [isExactly, beq_iff_eq]

theorem not_isExactly {words : WordList} {name other : String} (same : words.isExactly name = true)
    (differ : name ≠ other) : words.isExactly other = false := by
  rw [isExactly_iff.mp same, isExactly, beq_eq_false_iff_ne]
  intro equal
  exact differ (List.cons.inj equal).1

/-- Names that can stand in a field that is parted by spaces. -/
def Spaceless (words : WordList) : Prop := ∀ word ∈ words, word ≠ "" ∧ ' ' ∉ word.toList

theorem spaceless_eraseDups {words : WordList} (spaceless : words.Spaceless) :
    Spaceless (List.eraseDups words) :=
  fun word member => spaceless word (List.mem_eraseDups.mp member)

theorem parted {separates : Char → Bool} {text part : List Char} (member : part ∈ text.splitOnP separates) :
    ∀ c ∈ part, separates c = false := by
  induction text generalizing part with
  | nil =>
    cases List.mem_singleton.mp member
    nofun
  | cons c rest ih =>
    rw [List.splitOnP_cons_eq_if_modifyHead] at member
    split at member
    · rcases List.mem_cons.mp member with rfl | later
      · nofun
      · exact ih later
    · next inside =>
      cases parts : rest.splitOnP separates with
      | nil =>
        rw [parts] at member
        cases member
      | cons first others =>
        rw [parts] at member ih
        rcases List.mem_cons.mp member with rfl | later
        · exact List.forall_mem_cons.mpr ⟨Bool.eq_false_iff.mpr inside, ih List.mem_cons_self⟩
        · exact ih (List.mem_cons_of_mem _ later)

/-- Names that can stand between characters that separate. -/
def Parted (separates : Char → Bool) (words : WordList) : Prop :=
  ∀ word ∈ words, word ≠ "" ∧ ∀ c ∈ word.toList, separates c = false

section

variable {separates : Char → Bool} {words : WordList}

/-- Names that have been read from a field are parted by its separators. -/
theorem parted_pieces (separates : Char → Bool) (text : String) : (pieces separates text).Parted separates := by
  intro word member
  obtain ⟨part, piece, rfl⟩ := List.mem_map.mp member
  obtain ⟨cut, filled⟩ := List.mem_filter.mp piece
  have characters : (String.ofList part).toList = part := String.toList_ofList
  constructor
  · intro empty
    rw [← characters, empty] at filled
    cases filled
  · rw [characters]
    exact parted cut

theorem Parted.spaceless (spaces : separates ' ' = true) (parted : words.Parted separates) : words.Spaceless := by
  intro word member
  obtain ⟨given, unbroken⟩ := parted word member
  refine ⟨given, fun space => ?_⟩
  cases (unbroken ' ' space).symm.trans spaces

theorem spaceless_pieces (spaces : separates ' ' = true) (text : String) : (pieces separates text).Spaceless :=
  (parted_pieces separates text).spaceless spaces

/-- Two texts with a separator between them are read one after the other. -/
theorem pieces_append {c : Char} (separator : separates c = true) (first second : String) :
    pieces separates (first ++ String.singleton c ++ second) = pieces separates first ++ pieces separates second := by
  have characters : (first ++ String.singleton c ++ second).toList = first.toList ++ c :: second.toList := by simp
  rw [pieces, characters, List.splitOnP_append_cons _ _ separator, List.filter_append, List.map_append]
  rfl

theorem pieces_of_unbroken {word : String} (given : word ≠ "") (unbroken : ∀ c ∈ word.toList, separates c = false) :
    pieces separates word = [word] := by
  rw [pieces, List.splitOnP_eq_singleton unbroken]
  simp [given]

theorem pieces_render (spaces : separates ' ' = true) (parted : words.Parted separates) :
    pieces separates words.render = words := by
  induction words with
  | nil => rfl
  | cons word rest ih =>
    obtain ⟨⟨given, unbroken⟩, others⟩ := List.forall_mem_cons.mp parted
    cases rest with
    | nil => exact pieces_of_unbroken given unbroken
    | cons next later =>
      have written : render (word :: next :: later) = word ++ String.singleton ' ' ++ render (next :: later) :=
        String.intercalate_cons_cons
      rw [written, pieces_append spaces, pieces_of_unbroken given unbroken, ih others]
      rfl

/-- A list can be read from a field where it was written exactly if its names are parted by what separates there. -/
theorem pieces_render_iff (spaces : separates ' ' = true) :
    pieces separates words.render = words ↔ words.Parted separates := by
  refine ⟨fun same => ?_, pieces_render spaces⟩
  rw [← same]
  exact parted_pieces separates words.render

end

theorem parted_space_iff {words : WordList} : words.Parted (· == ' ') ↔ words.Spaceless := by
  refine ⟨fun parted => parted.spaceless rfl, fun spaceless word member => ?_⟩
  obtain ⟨given, unspaced⟩ := spaceless word member
  refine ⟨given, fun c inside => ?_⟩
  rw [beq_eq_false_iff_ne]
  rintro rfl
  exact unspaced inside

theorem parted_iff {words : WordList} : words.Parted (fun c => c == ' ' || c == ',') ↔
    ∀ word ∈ words, word ≠ "" ∧ ' ' ∉ word.toList ∧ ',' ∉ word.toList := by
  refine forall₂_congr fun word _ => and_congr_right fun _ => ?_
  simp only [Bool.or_eq_false_iff, beq_eq_false_iff_ne]
  constructor
  · exact fun unbroken => ⟨fun space => (unbroken _ space).1 rfl, fun comma => (unbroken _ comma).2 rfl⟩
  · rintro ⟨unspaced, uncommaed⟩ c inside
    constructor <;> rintro rfl <;> contradiction

theorem parseSpaced_render {words : WordList} (spaceless : words.Spaceless) :
    parseSpaced words.render = words :=
  pieces_render rfl (parted_space_iff.mpr spaceless)

/-- A field that is parted by spaces alone gives back exactly the lists whose names are not empty and have no spaces. A
field that is read leniently is read piece by piece, whichever separators stand between the pieces and however many;
what has been read from it has neither spaces nor commas, and nothing else is lost when it is written and read again. -/
theorem read_back_iff :
    (∀ words : WordList, parseSpaced words.render = words ↔ ∀ word ∈ words, word ≠ "" ∧ ' ' ∉ word.toList) ∧
    (∀ first second c, c = ' ' ∨ c = ',' →
      parse (first ++ String.singleton c ++ second) = parse first ++ parse second) ∧
    (∀ text, ∀ word ∈ parse text, word ≠ "" ∧ ' ' ∉ word.toList ∧ ',' ∉ word.toList) ∧
    (∀ text, parse (parse text).render = parse text) ∧
    ∀ words : WordList, parse words.render = words ↔
      ∀ word ∈ words, word ≠ "" ∧ ' ' ∉ word.toList ∧ ',' ∉ word.toList := by
  have read (text : String) : (parse text).Parted fun c => c == ' ' || c == ',' := parted_pieces _ text
  refine ⟨fun words => ?_, fun first second c separator => ?_, fun text => parted_iff.mp (read text),
    fun text => pieces_render rfl (read text), fun words => ?_⟩
  · exact (pieces_render_iff rfl).trans parted_space_iff
  · refine pieces_append ?_ first second
    rcases separator with rfl | rfl <;> rfl
  · exact (pieces_render_iff rfl).trans parted_iff

/-- Separators at the edges and in runs give no names, and a name that is repeated is kept twice. -/
theorem read_back_ragged :
    parse (" b,, a" ++ String.singleton ',' ++ ", b") = ["b", "a", "b"] ∧
      parse (" b,, a" ++ String.singleton ',' ++ ", b") = parse " b,, a" ++ parse ", b" := by
  obtain ⟨_, appended, _⟩ := read_back_iff
  exact ⟨by decide +kernel, appended _ _ _ (.inr rfl)⟩

end TokenServer.WordList
