import TokenServer.EnvironmentFile
import TokenServer.Proofs.Settings
import TokenServer.Proofs.Table

/-! Loaded environment files. Variables that are set already are left alone, whatever a file holds. What stands between
quotes spells a text, with the values of variables in place of their names, and nothing else is read there. Every text
can be spelt so: variables that are written to a file, each in a line, are loaded as they were, and so are settings. -/

namespace TokenServer.EnvironmentFile

variable {environment seen : Table String} {name value : String}

theorem loadLines_keeps (set : environment.get? name = some value) (lines : List (Option (List Char))) :
    (loadLines environment seen lines).get? name = some value := by
  induction lines generalizing environment seen with
  | nil => exact set
  | cons line rest ih =>
    cases line with
    | none => exact set
    | some line =>
      rw [loadLines]
      split
      · exact ih set
      · split
        · exact set
        · split
          · exact set
          · refine ih ?_
            rw [setNew, Table.get?_insertNew, set, Option.some_or]

/-- No file changes a variable that is set already. -/
theorem load_keeps (set : environment.get? name = some value) (file : String) :
    (load environment file).get? name = some value :=
  loadLines_keeps set _

/-- The line says something, but sets no variable. -/
structure Unreadable (line : List Char) : Prop where
  given : trim line ≠ []
  uncommented : (trim line).head? ≠ some '#'
  unassigned : assignment? (trim line) = none

/-- Nothing is loaded behind a line that cannot be read. -/
theorem loadLines_append_unreadable {line : List Char} (unreadable : Unreadable line)
    (before after : List (Option (List Char))) :
    loadLines environment seen (before ++ some line :: after) = loadLines environment seen before := by
  induction before generalizing environment seen with
  | nil => simp [loadLines, unreadable.given, unreadable.uncommented, unreadable.unassigned]
  | cons first before ih =>
    cases first with
    | none => rfl
    | some first =>
      rw [List.cons_append, loadLines, loadLines]
      simp only [ih]

section

variable (lookup : String → Option String)

def valueOf (name : List Char) : List Char := ((lookup (String.ofList name)).getD "").toList

/-- What the text between double quotes stands for. A name that is not in braces ends where its letters end, and the
character that ends it stands for itself, a quote and a backslash too, unless another name starts there. -/
inductive Spells : List Char → List Char → Prop where
  | nil : Spells [] []
  | plain {c : Char} {text value : List Char} : c ≠ '$' → c ≠ '"' → c ≠ '\\' → Spells text value →
      Spells (c :: text) (c :: value)
  | escape {c d : Char} {text value : List Char} : ValueState.escaped? c = some d → Spells text value →
      Spells ('\\' :: c :: text) (d :: value)
  | braced {name text value : List Char} : '\x7d' ∉ name → Spells text value →
      Spells ('$' :: '\x7b' :: (name ++ '\x7d' :: text)) (valueOf lookup name ++ value)
  | named {name text value : List Char} {c : Char} : (∀ letter ∈ name, isLetterOrNumber letter = true) →
      isLetterOrNumber c = false → c ≠ '$' → ¬(c = '\x7b' ∧ name = []) → Spells text value →
      Spells ('$' :: (name ++ c :: text)) (valueOf lookup name ++ c :: value)
  | chained {name text value : List Char} : (∀ letter ∈ name, isLetterOrNumber letter = true) →
      Spells ('$' :: text) value → Spells ('$' :: (name ++ '$' :: text)) (valueOf lookup name ++ value)

end

namespace ValueState

variable {lookup : String → Option String} {quote : Quote} {read input text value : List Char} {result : String}

theorem run?_single_cons {c : Char} (other : c ≠ '\'') (input : List Char) :
    ({ quote := .single, read } : ValueState).run? lookup (c :: input) =
      ({ quote := .single, read := c :: read } : ValueState).run? lookup input := by
  simp [run?, plainStep, other]

/-- Between single quotes every character stands for itself. -/
theorem run?_single_eq_some_iff : ({ quote := .single, read } : ValueState).run? lookup input = some result ↔
    ∃ text rest, input = text ++ '\'' :: rest ∧ '\'' ∉ text ∧
      ({ read := text.reverse ++ read } : ValueState).run? lookup rest = some result := by
  induction input generalizing read with
  | nil => simp [run?, close?]
  | cons c input ih =>
    by_cases closes : c = '\''
    · subst closes
      constructor
      · intro done
        exact ⟨[], input, rfl, List.not_mem_nil, done⟩
      · rintro ⟨_ | ⟨d, text⟩, rest, parts, quoteless, done⟩
        · cases parts
          exact done
        · cases parts
          exact absurd List.mem_cons_self quoteless
    · rw [run?_single_cons closes, ih]
      constructor
      · rintro ⟨text, rest, rfl, quoteless, done⟩
        refine ⟨c :: text, rest, rfl, ?_, by simpa using done⟩
        simp [Ne.symm closes, quoteless]
      · rintro ⟨_ | ⟨d, text⟩, rest, parts, quoteless, done⟩
        · cases parts
          exact absurd rfl closes
        · cases parts
          refine ⟨text, rest, rfl, ?_, by simpa using done⟩
          exact fun member => quoteless (List.mem_cons_of_mem _ member)

theorem run?_name {name : List Char} (letters : List Char) (named : ∀ letter ∈ name, isLetterOrNumber letter = true)
    (rest : List Char) :
    ({ quote, pending := .name letters, read } : ValueState).run? lookup (name ++ rest) =
      ({ quote, pending := .name (name.reverse ++ letters), read } : ValueState).run? lookup rest := by
  induction name generalizing letters with
  | nil => rfl
  | cons c name ih =>
    obtain ⟨letter, named⟩ := List.forall_mem_cons.mp named
    simp [run?, letter, ih (c :: letters) named]

theorem run?_braced {name : List Char} (letters : List Char) (unclosed : '\x7d' ∉ name) (rest : List Char) :
    ({ quote, pending := .braced letters, read } : ValueState).run? lookup (name ++ '\x7d' :: rest) =
      ({ quote, read := (valueOf lookup (letters.reverse ++ name)).reverse ++ read } : ValueState).run? lookup
        rest := by
  induction name generalizing letters with
  | nil => simp [run?, substitute, valueOf]
  | cons c name ih =>
    have here := List.ne_of_not_mem_cons unclosed
    have later := List.not_mem_of_not_mem_cons unclosed
    simp [run?, Ne.symm here, ih (c :: letters) later]

theorem run?_braced_of_not_mem {letters : List Char} (unclosed : '\x7d' ∉ input) :
    ({ quote := .double, pending := .braced letters, read } : ValueState).run? lookup input = none := by
  induction input generalizing letters with
  | nil => rfl
  | cons c input ih =>
    have here := List.ne_of_not_mem_cons unclosed
    have later := List.not_mem_of_not_mem_cons unclosed
    simp [run?, Ne.symm here, ih later]

theorem run?_dollar (input : List Char) : ({ quote := .double, read } : ValueState).run? lookup ('$' :: input) =
    ({ quote := .double, pending := .name [], read } : ValueState).run? lookup input := rfl

theorem run?_plain {c : Char} (other : c ≠ '$' ∧ c ≠ '"' ∧ c ≠ '\\') (input : List Char) :
    ({ quote := .double, read } : ValueState).run? lookup (c :: input) =
      ({ quote := .double, read := c :: read } : ValueState).run? lookup input := by
  simp [run?, plainStep, other]

/-- The value of a name comes in its place, and then what has ended the name. -/
theorem run?_dollar_name {c : Char} {name : List Char} (named : ∀ letter ∈ name, isLetterOrNumber letter = true)
    (other : isLetterOrNumber c = false) (unbraced : ¬(c = '\x7b' ∧ name = [])) (rest : List Char) :
    ({ quote := .double, read } : ValueState).run? lookup ('$' :: (name ++ c :: rest)) =
      if c = '$' then
        ({ quote := .double, read := (valueOf lookup name).reverse ++ read } : ValueState).run? lookup ('$' :: rest)
      else
        ({ quote := .double, read := c :: ((valueOf lookup name).reverse ++ read) } : ValueState).run? lookup
          rest := by
  rw [run?_dollar, run?_name [] named, run?_dollar]
  simp [run?, other, unbraced, substitute, valueOf]

theorem run?_dollar_brace (input : List Char) :
    ({ quote := .double, read } : ValueState).run? lookup ('$' :: '\x7b' :: input) =
      ({ quote := .double, pending := .braced [], read } : ValueState).run? lookup input := by
  have other : isLetterOrNumber '\x7b' = false := by decide +kernel
  rw [run?_dollar]
  simp [run?, other]

theorem run?_escape (c : Char) (input : List Char) :
    ({ quote := .double, read } : ValueState).run? lookup ('\\' :: c :: input) =
      (escaped? c).bind fun d => ({ quote := .double, read := d :: read } : ValueState).run? lookup input := by
  cases known : escaped? c <;> simp [run?, plainStep, known]

/-- What is spelt is read, and reading goes on behind it. -/
theorem run?_of_spells (spells : Spells lookup text value) (read rest : List Char) :
    ({ quote := .double, read } : ValueState).run? lookup (text ++ rest) =
      ({ quote := .double, read := value.reverse ++ read } : ValueState).run? lookup rest := by
  induction spells generalizing read with
  | nil => rfl
  | plain dollar quote escape _ ih =>
    rw [List.cons_append, run?_plain ⟨dollar, quote, escape⟩, ih]
    simp
  | escape known _ ih =>
    simp [run?_escape, known, ih]
  | @braced name text value closed _ ih =>
    simp [run?_dollar_brace, run?_braced [] closed, ih]
  | @named name text value c named other dollar unbraced _ ih =>
    rw [List.cons_append, List.append_assoc, List.cons_append, run?_dollar_name named other unbraced, if_neg dollar, ih]
    simp
  | @chained name text value named _ ih =>
    have other : isLetterOrNumber '$' = false := by decide +kernel
    rw [List.cons_append, List.append_assoc, List.cons_append, run?_dollar_name named other (by simp), if_pos rfl,
      ← List.cons_append, ih]
    simp

variable (lookup) in
/-- The quotes are closed behind a text that spells a value, and reading goes on from there to the result. -/
def Closes (read input : List Char) (result : String) : Prop :=
  ∃ text value rest, input = text ++ '"' :: rest ∧ Spells lookup text value ∧
    ({ read := value.reverse ++ read } : ValueState).run? lookup rest = some result

theorem Closes.behind (piece part : List Char) (closes : Closes lookup (part.reverse ++ read) input result)
    (spells : ∀ {text value}, Spells lookup text value → Spells lookup (piece ++ text) (part ++ value)) :
    Closes lookup read (piece ++ input) result := by
  obtain ⟨text, value, rest, rfl, spelt, done⟩ := closes
  exact ⟨piece ++ text, part ++ value, rest, by simp, spells spelt, by simpa using done⟩

theorem closes_of_name_in_braces
    (done : ({ quote := .double, read } : ValueState).run? lookup ('$' :: '\x7b' :: input) = some result)
    (onwards : ∀ read rest, rest.length ≤ input.length →
      ({ quote := .double, read } : ValueState).run? lookup rest = some result → Closes lookup read rest result) :
    Closes lookup read ('$' :: '\x7b' :: input) result := by
  rw [run?_dollar_brace] at done
  by_cases closed : '\x7d' ∈ input
  · obtain ⟨name, rest, rfl, unclosed⟩ := List.eq_append_cons_of_mem closed
    rw [run?_braced [] unclosed] at done
    have closes := onwards _ rest (by simp; omega) done
    have spells {text value : List Char} (spells : Spells lookup text value) :
        Spells lookup ('$' :: '\x7b' :: (name ++ ['\x7d']) ++ text) (valueOf lookup name ++ value) := by
      simpa using Spells.braced unclosed spells
    simpa using closes.behind _ _ spells
  · rw [run?_braced_of_not_mem closed] at done
    cases done

theorem closes_of_name (done : ({ quote := .double, read } : ValueState).run? lookup ('$' :: input) = some result)
    (onwards : ∀ read rest, rest.length ≤ input.length →
      ({ quote := .double, read } : ValueState).run? lookup rest = some result → Closes lookup read rest result) :
    Closes lookup read ('$' :: input) result := by
  generalize taken : input.takeWhile isLetterOrNumber = name
  generalize left : input.dropWhile isLetterOrNumber = rest
  have parts : input = name ++ rest := by rw [← taken, ← left, List.takeWhile_append_dropWhile]
  have named : ∀ letter ∈ name, isLetterOrNumber letter = true := by
    rw [← taken]
    exact fun _ => List.mem_takeWhile_imp
  subst parts
  cases rest with
  | nil =>
    rw [run?_dollar, run?_name [] named] at done
    cases done
  | cons c rest =>
    have other : isLetterOrNumber c = false := by
      simpa [left] using List.head?_dropWhile_not isLetterOrNumber (name ++ c :: rest)
    by_cases braced : c = '\x7b' ∧ name = []
    · obtain ⟨rfl, rfl⟩ := braced
      exact closes_of_name_in_braces done fun read rest bound => onwards read rest (Nat.le_succ_of_le bound)
    rw [run?_dollar_name named other braced] at done
    by_cases another : c = '$'
    · subst another
      rw [if_pos rfl] at done
      obtain ⟨_ | ⟨d, text⟩, value, after, whole, spells, ended⟩ := onwards _ ('$' :: rest) (by simp) done
      · cases whole
      · cases whole
        exact ⟨'$' :: (name ++ '$' :: text), valueOf lookup name ++ value, after, by simp, .chained named spells,
          by simpa using ended⟩
    · rw [if_neg another] at done
      have closes := onwards _ rest (by simp; omega) done
      have spells {text value : List Char} (spells : Spells lookup text value) :
          Spells lookup ('$' :: (name ++ [c]) ++ text) (valueOf lookup name ++ [c] ++ value) := by
        simpa using Spells.named named other another braced spells
      simpa using Closes.behind _ _ (by simpa using closes) spells

/-- Nothing is read between double quotes but what is spelt. -/
theorem closes_of_run? (done : ({ quote := .double, read } : ValueState).run? lookup input = some result) :
    Closes lookup read input result := by
  -- A name takes more than one character, and so the induction is on what is left to read.
  induction length : input.length using Nat.strong_induction_on generalizing input read with
  | _ n ih =>
  cases input with
  | nil => cases done
  | cons c input =>
    by_cases closes : c = '"'
    · subst closes
      exact ⟨[], [], input, rfl, .nil, done⟩
    by_cases escapes : c = '\\'
    · subst escapes
      cases input with
      | nil => cases done
      | cons c input =>
        rw [run?_escape] at done
        obtain ⟨d, known, done⟩ := Option.bind_eq_some_iff.mp done
        have closes := ih _ (by simp at length; omega) done rfl
        exact Closes.behind ['\\', c] [d] closes (.escape known)
    by_cases names : c = '$'
    · subst names
      exact closes_of_name done fun read rest bound done => ih _ (by simp at length; omega) done rfl
    · rw [run?_plain ⟨names, closes, escapes⟩] at done
      exact Closes.behind [c] [c] (ih _ (by simp at length; omega) done rfl) (.plain names closes escapes)

/-- Between double quotes exactly what is spelt is read. -/
theorem run?_double_eq_some_iff :
    ({ quote := .double, read } : ValueState).run? lookup input = some result ↔ Closes lookup read input result := by
  constructor
  · exact closes_of_run?
  · rintro ⟨text, value, rest, rfl, spells, done⟩
    rw [run?_of_spells spells]
    exact done

end ValueState

-- The quote that is to close the value ends the name instead, and the value stays open.
example : readValue? (fun _ => some "x") "\"$HOME\"".toList = none := by decide +kernel

def escape (c : Char) : List Char := if c = '$' ∨ c = '"' ∨ c = '\\' then ['\\', c] else [c]

def quoted (text : List Char) : List Char := '"' :: (text.flatMap escape ++ ['"'])

section

variable {lookup : String → Option String}

theorem spells_escape (text : List Char) : Spells lookup (text.flatMap escape) text := by
  induction text with
  | nil => exact .nil
  | cons c text ih =>
    rw [List.flatMap_cons, escape]
    split
    · next special =>
      refine .escape ?_ ih
      rcases special with rfl | rfl | rfl <;> rfl
    · next plain =>
      simp only [not_or] at plain
      exact .plain plain.1 plain.2.1 plain.2.2 ih

theorem readValue?_quoted (text : List Char) : readValue? lookup (quoted text) = some (String.ofList text) := by
  have spells : Spells lookup (text.flatMap escape) text := spells_escape text
  have read := ValueState.run?_of_spells spells [] ['"']
  rw [readValue?, if_neg (by simp [quoted])]
  refine Eq.trans read ?_
  simp [ValueState.run?, ValueState.plainStep, ValueState.close?]

end

/-- The text leads from one state to the other, with something open behind each line that ends within it. -/
inductive Quoting.Leads : Quoting → List Char → Quoting → Prop where
  | nil {state : Quoting} : Leads state [] state
  | cons {state last : Quoting} {c : Char} {text : List Char} (next : Quoting) : state.step? c = some next →
      (c = '\n' → next ≠ .nothing) → Leads next text last → Leads state (c :: text) last

theorem Quoting.Leads.append {first second third : Quoting} {text more : List Char} (leads : Leads first text second)
    (onwards : Leads second more third) : Leads first (text ++ more) third := by
  induction leads with
  | nil => exact onwards
  | cons next step unclosed _ ih => exact .cons next step unclosed (ih onwards)

theorem Quoting.scan_eq_mapError (before : List Char) (state : Quoting) (text : List Char) :
    scan before state text = (scan [] state text).mapError (before.reverse ++ ·) := by
  induction text generalizing before state with
  | nil => rfl
  | cons c text ih =>
    simp only [scan]
    cases state.step? c with
    | none => simp [Except.mapError]
    | some next =>
      dsimp only
      rw [ih (c :: before), ih [c]]
      cases scan [] next text <;> simp [Except.mapError]

theorem joinLines_cons {state next : Quoting} {c : Char} (step : state.step? c = some next)
    (before line : List Char) (lines : List (List Char)) :
    joinLines (some (state, before)) ((c :: line) :: lines) =
      joinLines (some (next, before ++ [c])) (line :: lines) := by
  have scanned : state.scan [] (c :: line) = (next.scan [] line).mapError (c :: ·) := by
    simp only [Quoting.scan, step]
    exact Quoting.scan_eq_mapError [c] next line
  simp only [joinLines, Option.getD_some, List.append_assoc, List.singleton_append, scanned]
  cases next.scan [] line with
  | error kept => simp [Except.mapError]
  | ok last => cases last <;> simp [Except.mapError]

theorem exists_physicalLines {text : List Char} (given : text ≠ []) :
    ∃ line lines, physicalLines text = line :: lines := by
  cases text with
  | nil => exact absurd rfl given
  | cons c rest =>
    rw [physicalLines]
    split
    · exact ⟨_, _, rfl⟩
    · split <;> exact ⟨_, _, rfl⟩

theorem joinLines_physicalLines_cons {state next : Quoting} {c : Char} {rest : List Char}
    (step : state.step? c = some next) (other : c ≠ '\n') (given : rest ≠ []) (before : List Char) :
    joinLines (some (state, before)) (physicalLines (c :: rest)) =
      joinLines (some (next, before ++ [c])) (physicalLines rest) := by
  obtain ⟨line, lines, cut⟩ := exists_physicalLines given
  simp only [physicalLines, if_neg other, cut]
  exact joinLines_cons step before line lines

section

variable {first : Char} {before text rest : List Char} {state next last : Quoting}

theorem uncommented (unblank : isBlank first = false) (other : first ≠ '#') (text : List Char) :
    (trimStart (first :: text)).head? ≠ some '#' := by
  rw [trimStart_of_unblank (by simpa using unblank)]
  simpa using other

theorem joinLines_physicalLines_newline (step : state.step? '\n' = some next) (unclosed : next ≠ .nothing)
    (unblank : isBlank first = false) (other : first ≠ '#') (before rest : List Char) :
    joinLines (some (state, first :: before)) (physicalLines ('\n' :: rest)) =
      joinLines (some (next, first :: (before ++ ['\n']))) (physicalLines rest) := by
  have plain := uncommented unblank other (before ++ ['\n'])
  simp only [physicalLines, if_true, joinLines, Option.getD_some, List.cons_append, if_neg plain, Quoting.scan, step]

/-- The lines of a text that has begun are joined for as long as something is open. -/
theorem joinLines_of_leads (leads : Quoting.Leads state text last) (unblank : isBlank first = false)
    (other : first ≠ '#') (given : rest ≠ []) (before : List Char) :
    joinLines (some (state, first :: before)) (physicalLines (text ++ rest)) =
      joinLines (some (last, first :: (before ++ text))) (physicalLines rest) := by
  induction leads generalizing before with
  | nil => simp
  | @cons _ _ c text _ step unclosed _ ih =>
    rw [List.cons_append]
    by_cases ends : c = '\n'
    · subst ends
      rw [joinLines_physicalLines_newline step (unclosed rfl) unblank other, ih]
      simp
    · rw [joinLines_physicalLines_cons step ends (by simp [given]), List.cons_append, ih]
      simp

/-- A text that leaves nothing open ends with its line. -/
theorem joinLines_of_leads_line (leads : Quoting.Leads .nothing (first :: text) .nothing)
    (unblank : isBlank first = false) (other : first ≠ '#') (rest : List Char) :
    joinLines none (physicalLines (first :: (text ++ '\n' :: rest))) =
      some (withoutEnd (first :: (text ++ ['\n']))) :: joinLines none (physicalLines rest) := by
  obtain ⟨line, lines, cut⟩ := exists_physicalLines (List.cons_ne_nil first (text ++ '\n' :: rest))
  have begun : joinLines none (physicalLines (first :: (text ++ '\n' :: rest))) =
      joinLines (some (.nothing, [])) (physicalLines (first :: (text ++ '\n' :: rest))) := by
    rw [cut]
    rfl
  have plain := uncommented unblank other (text ++ ['\n'])
  cases leads with
  | cons _ step unclosed leads =>
    rw [begun, joinLines_physicalLines_cons step (by rintro rfl; cases unblank) (by simp), List.nil_append,
      joinLines_of_leads leads unblank other (List.cons_ne_nil _ _)]
    have ended : Quoting.step? .nothing '\n' = some .nothing := rfl
    simp only [physicalLines, if_true, joinLines, Option.getD_some, List.nil_append, List.cons_append, if_neg plain,
      Quoting.scan, ended]

end

/-- A name as a line can begin with it. -/
def IsName (name : String) : Prop :=
  name.toList.head?.any (fun first => first.isAlpha || first == '_') = true ∧ name.toList.all isKeyLetter = true

instance : DecidablePred IsName := fun _ => inferInstanceAs (Decidable (_ ∧ _))

def assignmentOf (name value : String) : List Char := name.toList ++ '=' :: quoted value.toList

def render (bindings : List (String × String)) : String :=
  String.ofList (bindings.flatMap fun (name, value) => assignmentOf name value ++ ['\n'])

theorem range_of_isKeyLetter {c : Char} (letter : isKeyLetter c = true) : 0x2E ≤ c.toNat ∧ c.toNat ≤ 0x7A := by
  delta isKeyLetter Char.isAlphanum Char.isAlpha Char.isUpper Char.isLower Char.isDigit at letter
  simp only [Bool.or_eq_true, Bool.and_eq_true, decide_eq_true_eq, UInt32.le_iff_toNat_le, ge_iff_le,
    beq_iff_eq] at letter
  rcases letter with (letter | rfl) | rfl
  · change (0x41 ≤ c.toNat ∧ c.toNat ≤ 0x5A ∨ 0x61 ≤ c.toNat ∧ c.toNat ≤ 0x7A) ∨
      0x30 ≤ c.toNat ∧ c.toNat ≤ 0x39 at letter
    omega
  · decide
  · decide

theorem unblank_of_isKeyLetter {c : Char} (letter : isKeyLetter c = true) : isBlank c = false := by
  have range := range_of_isKeyLetter letter
  refine Bool.eq_false_iff.mpr fun blank => ?_
  simp [isBlank] at blank
  omega

section

variable {name value : String} {text rest : List Char}

theorem leads_of_isKeyLetter (letters : ∀ c ∈ text, isKeyLetter c = true) : Quoting.Leads .nothing text .nothing := by
  induction text with
  | nil => exact .nil
  | cons c text ih =>
    obtain ⟨letter, letters⟩ := List.forall_mem_cons.mp letters
    have other (mark : Char) (unlettered : isKeyLetter mark = false) : c ≠ mark := by
      rintro rfl
      cases unlettered.symm.trans letter
    refine .cons .nothing ?_ (fun ends => absurd ends (other '\n' rfl)) (ih letters)
    simp [Quoting.step?, Quoting.opened, unblank_of_isKeyLetter letter, other '\\' rfl, other '"' rfl,
      other '\'' rfl]

theorem leads_escape (text : List Char) : Quoting.Leads .double (text.flatMap escape) .double := by
  induction text with
  | nil => exact .nil
  | cons c text ih =>
    rw [List.flatMap_cons, escape]
    split
    · exact .cons .doubleEscape rfl nofun (.cons .double rfl nofun ih)
    · next plain =>
      simp only [not_or] at plain
      exact .cons .double (by simp [Quoting.step?, plain]) nofun ih

theorem leads_quoted (text : List Char) : Quoting.Leads .nothing (quoted text) .nothing :=
  .cons .double rfl nofun ((leads_escape text).append (.cons .nothing rfl nofun .nil))

theorem leads_assignmentOf (named : IsName name) (value : String) :
    Quoting.Leads .nothing (assignmentOf name value) .nothing :=
  (leads_of_isKeyLetter (List.all_eq_true.mp named.2)).append (.cons .nothing rfl (by decide) (leads_quoted _))

theorem withoutEnd_assignmentOf (name value : String) :
    withoutEnd (assignmentOf name value ++ ['\n']) = assignmentOf name value := by
  simp [withoutEnd, assignmentOf, quoted]

theorem assignmentOf_eq_cons (named : IsName name) (value : String) : ∃ first more,
    assignmentOf name value = first :: more ∧ (first.isAlpha = true ∨ first = '_') ∧ isKeyLetter first = true := by
  obtain ⟨first, head, start⟩ := (Option.any_eq_true _ _).mp named.1
  obtain ⟨rest, written⟩ := List.head?_eq_some_iff.mp head
  have letter := List.all_eq_true.mp named.2 first (by simp [written])
  refine ⟨first, rest ++ '=' :: quoted value.toList, ?_, by simpa using start, letter⟩
  rw [assignmentOf, written, List.cons_append]

/-- A variable takes up its line, and further lines as long as its value has ends of lines in it. -/
theorem joinLines_assignmentOf (named : IsName name) (value : String) (rest : List Char) :
    joinLines none (physicalLines (assignmentOf name value ++ '\n' :: rest)) =
      some (assignmentOf name value) :: joinLines none (physicalLines rest) := by
  obtain ⟨first, more, parts, _, letter⟩ := assignmentOf_eq_cons named value
  have other : first ≠ '#' := by
    rintro rfl
    cases letter
  have leads := leads_assignmentOf named value
  have whole := withoutEnd_assignmentOf name value
  rw [parts] at leads whole ⊢
  rw [List.cons_append] at whole ⊢
  rw [joinLines_of_leads_line leads (unblank_of_isKeyLetter letter) other, whole]

theorem key?_assignmentOf (named : IsName name) (value : String) :
    key? (assignmentOf name value) = some (name, '=' :: quoted value.toList) := by
  obtain ⟨first, more, parts, start, _⟩ := assignmentOf_eq_cons named value
  have letters := List.all_eq_true.mp named.2
  have taken : (assignmentOf name value).takeWhile isKeyLetter = name.toList := by
    rw [assignmentOf, List.takeWhile_append_of_pos letters]
    simp [isKeyLetter]
  have left : (assignmentOf name value).dropWhile isKeyLetter = '=' :: quoted value.toList := by
    rw [assignmentOf, List.dropWhile_append_of_pos letters]
    simp [isKeyLetter]
  rw [parts] at taken left ⊢
  simp only [key?, if_pos start, taken, left, String.ofList_toList]

theorem assignment?_assignmentOf (named : IsName name) (value : String) :
    assignment? (assignmentOf name value) = some (name, quoted value.toList) := by
  have behind : trimStart ('=' :: quoted value.toList) = '=' :: quoted value.toList :=
    trimStart_of_unblank (by simp [isBlank])
  have text : trimStart (quoted value.toList) = quoted value.toList :=
    trimStart_of_unblank (by simp [quoted, isBlank])
  simp [assignment?, key?_assignmentOf named, behind, afterEquals?, text]

theorem loadLines_assignmentOf {environment seen : Table String} (named : IsName name) (value : String)
    (lines : List (Option (List Char))) :
    loadLines environment seen (some (assignmentOf name value) :: lines) =
      loadLines (environment.insertNew name value) (seen.insert name value) lines := by
  obtain ⟨first, more, parts, _, letter⟩ := assignmentOf_eq_cons named value
  have last : (assignmentOf name value).getLast? = some '"' := by
    have ended : assignmentOf name value = name.toList ++ '=' :: '"' :: value.toList.flatMap escape ++ ['"'] := by
      simp [assignmentOf, quoted]
    rw [ended, List.getLast?_concat]
  have whole : trim (assignmentOf name value) = assignmentOf name value := by
    refine trim_of_unblank ?_ ?_
    · simpa [parts] using unblank_of_isKeyLetter letter
    · rw [last]
      rintro _ ⟨⟩
      rfl
  have read := assignment?_assignmentOf named value
  have given : ¬((assignmentOf name value).isEmpty = true ∨ (assignmentOf name value).head? = some '#') := by
    rw [parts]
    rintro (none | comment)
    · cases none
    · cases comment
      cases letter
  simp only [loadLines, whole, if_neg given, read, readValue?_quoted, String.ofList_toList, setNew]

theorem joinLines_render {bindings : List (String × String)} (named : ∀ pair ∈ bindings, IsName pair.1) :
    joinLines none (physicalLines (render bindings).toList) =
      bindings.map fun (name, value) => some (assignmentOf name value) := by
  rw [render, String.toList_ofList]
  induction bindings with
  | nil => rfl
  | cons pair bindings ih =>
    obtain ⟨here, named⟩ := List.forall_mem_cons.mp named
    rw [List.flatMap_cons, List.append_assoc]
    simp [joinLines_assignmentOf here, ih named]

theorem withoutMark_render {bindings : List (String × String)} (named : ∀ pair ∈ bindings, IsName pair.1) :
    withoutMark (render bindings).toList = (render bindings).toList := by
  rw [render, String.toList_ofList]
  cases bindings with
  | nil => rfl
  | cons pair bindings =>
    obtain ⟨name, value⟩ := pair
    obtain ⟨first, more, parts, _, letter⟩ := assignmentOf_eq_cons (named _ List.mem_cons_self) value
    simp only [List.flatMap_cons, parts, List.cons_append]
    rw [withoutMark]
    intro rest same
    cases (List.cons.inj same).1
    cases letter

/-- Variables that are written to a file are loaded as they were, but for those that are set already. -/
theorem load_render (environment : Table String) {bindings : List (String × String)}
    (named : ∀ pair ∈ bindings, IsName pair.1) :
    load environment (render bindings) =
      bindings.foldl (fun environment (name, value) => environment.insertNew name value) environment := by
  rw [load, withoutMark_render named, joinLines_render named]
  generalize (∅ : Table String) = seen
  induction bindings generalizing environment seen with
  | nil => rfl
  | cons pair bindings ih =>
    obtain ⟨here, named⟩ := List.forall_mem_cons.mp named
    rw [List.map_cons, loadLines_assignmentOf here, ih _ named, List.foldl_cons]

theorem get?_load_render (environment : Table String) {bindings : List (String × String)}
    (named : ∀ pair ∈ bindings, IsName pair.1) (name : String) :
    (load environment (render bindings)).get? name = (environment.get? name).or (bindings.lookup name) := by
  rw [load_render environment named]
  exact Table.get?_foldl_insertNew bindings environment name

end

end TokenServer.EnvironmentFile

namespace TokenServer.Settings

def bindings (settings : Settings) : List (String × String) :=
  ("WD_MIGRATION_SCOPE", settings.migrationScope) ::
    Quantity.all.map fun quantity => (quantity.variableName, String.ofList (Json.printInt (quantity.of settings)))

theorem Quantity.isName (quantity : Quantity) : EnvironmentFile.IsName quantity.variableName := by
  cases quantity <;> decide +kernel

theorem isName_of_mem_bindings {settings : Settings} {pair : String × String} (member : pair ∈ settings.bindings) :
    EnvironmentFile.IsName pair.1 := by
  rcases List.mem_cons.mp member with rfl | member
  · have scope : EnvironmentFile.IsName "WD_MIGRATION_SCOPE" := by decide +kernel
    exact scope
  · obtain ⟨quantity, _, rfl⟩ := List.mem_map.mp member
    exact quantity.isName

theorem written_bindings {lookup : String → Option String} {settings : Settings}
    (told : ∀ pair ∈ settings.bindings, lookup pair.1 = settings.bindings.lookup pair.1) :
    Written lookup settings where
  quantity quantity := by
    have member : (quantity.variableName, String.ofList (Json.printInt (quantity.of settings))) ∈ settings.bindings :=
      List.mem_cons_of_mem _ (List.mem_map_of_mem quantity.mem_all)
    refine ⟨[], [], nofun, nofun, (told _ member).trans ?_⟩
    cases quantity <;> simp [bindings, Quantity.all, Quantity.variableName, List.lookup_cons]
  scope := (told _ List.mem_cons_self).trans (by simp [bindings])

/-- Settings that are written to a file are loaded from it and checked, if no variable for them is set already. -/
theorem load_file (environment : Table String) (settings : Settings)
    (unset : ∀ pair ∈ settings.bindings, environment.get? pair.1 = none) :
    load (EnvironmentFile.load environment (EnvironmentFile.render settings.bindings)).get? = settings.validate := by
  refine load_of_holds (written_bindings fun pair member => ?_).holds
  rw [EnvironmentFile.get?_load_render environment fun _ => isName_of_mem_bindings, unset pair member,
    Option.none_or]

end TokenServer.Settings
