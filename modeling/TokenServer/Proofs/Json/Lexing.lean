import TokenServer.Json.Document
import TokenServer.Json.Printer
import TokenServer.Proofs.Digit

/-! The tokens of printed values. A printed value is cut into the tokens of its document, whatever follows it, as long
as that does not go on with a word or a number. Floating-point numbers are left aside. -/

namespace TokenServer.Json

def NumberText.ofInt (value : Int) : NumberText where
  negative := value < 0
  whole := Token.digitValues (Digit.decimals value.natAbs)

def NumberText.ofFloat (bits : UInt64) : NumberText := (Token.number? (printFloat bits)).getD { whole := [] }

mutual

def document : Json → Document
  | .null => .null
  | .bool value => .bool value
  | .int value => .number (.ofInt value)
  | .float bits => .number (.ofFloat bits)
  | .string value => .string (some value)
  | .array items => .array (itemDocuments items)
  | .object members => .object (memberDocuments members)

def itemDocuments : List Json → List Document
  | [] => []
  | item :: rest => item.document :: itemDocuments rest

def memberDocuments : List (String × Json) → List (Option String × Document)
  | [] => []
  | (key, value) :: rest => (some key, value.document) :: memberDocuments rest

end

mutual

/-- No number in the value or in a part of it is a floating-point number. -/
def FloatFree : Json → Prop
  | .float _ => False
  | .array items => ItemsFloatFree items
  | .object members => MembersFloatFree members
  | _ => True

def ItemsFloatFree : List Json → Prop
  | [] => True
  | item :: rest => item.FloatFree ∧ ItemsFloatFree rest

def MembersFloatFree : List (String × Json) → Prop
  | [] => True
  | (_, value) :: rest => value.FloatFree ∧ MembersFloatFree rest

end

theorem itemsFloatFree_iff {items : List Json} : ItemsFloatFree items ↔ ∀ item ∈ items, item.FloatFree := by
  induction items with
  | nil => simp [ItemsFloatFree]
  | cons item rest ih => rw [ItemsFloatFree, ih, List.forall_mem_cons]

theorem membersFloatFree_iff {members : List (String × Json)} :
    MembersFloatFree members ↔ ∀ member ∈ members, member.2.FloatFree := by
  induction members with
  | nil => simp [MembersFloatFree]
  | cons member rest ih => rw [MembersFloatFree, ih, List.forall_mem_cons]

theorem floatFree_ofStrings (texts : List String) : (ofStrings texts).FloatFree := by
  refine itemsFloatFree_iff.mpr fun item member => ?_
  obtain ⟨text, _, rfl⟩ := List.mem_map.mp member
  exact trivial

mutual

def Document.tokens : Document → List Token
  | .null => [.null]
  | .bool value => [.bool value]
  | .number value => [.number value]
  | .string value => [.string value]
  | .array [] => [.openArray, .closeArray]
  | .array (item :: rest) => .openArray :: (item.tokens ++ Document.itemTokens rest)
  | .object [] => [.openObject, .closeObject]
  | .object ((key, value) :: rest) =>
    .openObject :: .string key :: .colon :: (value.tokens ++ Document.memberTokens rest)

def Document.itemTokens : List Document → List Token
  | [] => [.closeArray]
  | item :: rest => .comma :: (item.tokens ++ Document.itemTokens rest)

def Document.memberTokens : List (Option String × Document) → List Token
  | [] => [.closeObject]
  | (key, value) :: rest => .comma :: .string key :: .colon :: (value.tokens ++ Document.memberTokens rest)

end

namespace Token

/-- What follows does not go on with a word or a number. -/
def Stops (rest : List Char) : Prop := ∀ c, rest.head? = some c → isBare c = false

theorem start?_of_isBare {c : Char} (bare : isBare c = true) : start? c = some (none, .bare [c]) := by
  have other : ∀ mark ∈ [' ', '\t', '\n', '\r', '[', ']', '\x7b', '\x7d', ',', ':', '"'], c ≠ mark := by
    rintro mark listed rfl
    have unmarked : [' ', '\t', '\n', '\r', '[', ']', '\x7b', '\x7d', ',', ':', '"'].all (!isBare ·) = true := rfl
    have other := List.all_eq_true.mp unmarked c listed
    rw [bare] at other
    cases other
  simp only [List.forall_mem_cons] at other
  simp [start?, isSpace, bare, other]

theorem scan_bare (gathered : List Char) {word rest : List Char} {token : Token} (bare : ∀ c ∈ word, isBare c = true)
    (known : ofBare? (gathered.reverse ++ word) = some token) (stops : Stops rest) :
    scan (.bare gathered) (word ++ rest) = (scan .between rest).map (token :: ·) := by
  induction word generalizing gathered with
  | nil =>
    rw [List.append_nil] at known
    cases rest with
    | nil => simp [scan, known]
    | cons c rest =>
      have other : isBare c = false := stops c rfl
      cases started : start? c with
      | none => simp [scan, other, known, started]
      | some start =>
        cases scanned : scan start.2 rest <;> simp [scan, other, known, started, scanned]
  | cons c word ih =>
    obtain ⟨here, later⟩ := List.forall_mem_cons.mp bare
    rw [List.cons_append, scan, if_pos here]
    exact ih _ later (by simpa using known)

theorem scan_word {word rest : List Char} {token : Token} (bare : ∀ c ∈ word, isBare c = true) (given : word ≠ [])
    (known : ofBare? word = some token) (stops : Stops rest) :
    scan .between (word ++ rest) = (scan .between rest).map (token :: ·) := by
  cases word with
  | nil => exact absurd rfl given
  | cons c word =>
    obtain ⟨here, later⟩ := List.forall_mem_cons.mp bare
    have read := scan_bare [c] later known stops
    simp [scan, start?_of_isBare here, read]

theorem scan_controlEscape (codes : List Nat) (rest : List Char) {code : Nat} (bound : code < 256) :
    scan (.text codes) ('\\' :: 'u' :: '0' :: '0' :: Digit.hex (code / 16) :: Digit.hex (code % 16) :: rest) =
      scan (.text (code :: codes)) rest := by
  have high := Digit.hex?_hex (code / 16) (by omega)
  have low := Digit.hex?_hex (code % 16) (by omega)
  have zero : Digit.hex? '0' = some 0 := rfl
  have whole : code / 16 * 16 + code % 16 = code := by omega
  simp [scan, high, low, zero, whole]

/-- Every character is read as its code, however it is written. -/
theorem scan_printChar (c : Char) (codes : List Nat) (rest : List Char) :
    scan (.text codes) (printChar c ++ rest) = scan (.text (c.toNat :: codes)) rest := by
  unfold printChar
  split
  case h_8 quote backslash _ _ _ _ _ =>
    split
    · next control => exact scan_controlEscape codes rest (by omega)
    · next visible =>
      have plain : c ≠ '"' ∧ c ≠ '\\' := ⟨quote, backslash⟩
      simp [scan, plain, visible]
  all_goals simp [scan, escapeCode?]

/-- No character is half of a surrogate pair. -/
theorem charsOfCodes?_toNat (text : List Char) : charsOfCodes? (text.map Char.toNat) = some text := by
  have single : ∀ c : Char, isHighSurrogate c.toNat = false ∧ isLowSurrogate c.toNat = false := by
    intro c
    have valid : c.toNat < 0xD800 ∨ 0xDFFF < c.toNat ∧ c.toNat < 0x110000 := c.valid
    simp only [isHighSurrogate, isLowSurrogate, Bool.and_eq_false_iff, decide_eq_false_iff_not]
    omega
  induction text with
  | nil => rfl
  | cons c rest ih =>
    cases rest with
    | nil => simp [charsOfCodes?, single]
    | cons d rest =>
      simp only [List.map_cons] at ih ⊢
      simp [charsOfCodes?, single, ih]

/-- The inside of a text, and its end. -/
theorem scan_characters (text : List Char) (codes : List Nat) (rest : List Char) :
    scan (.text codes) (text.flatMap printChar ++ '"' :: rest) =
      (scan .between rest).map (ofCodes (codes.reverse ++ text.map Char.toNat) :: ·) := by
  induction text generalizing codes with
  | nil => cases scanned : scan .between rest <;> simp [scan, scanned]
  | cons c text ih => simp [List.append_assoc, scan_printChar, ih]

theorem scan_printString (text : String) (rest : List Char) :
    scan .between (printString text ++ rest) = (scan .between rest).map (.string (some text) :: ·) := by
  have inside := scan_characters text.toList [] rest
  have codes : ofCodes (text.toList.map Char.toNat) = .string (some text) := by
    simp [ofCodes, charsOfCodes?_toNat]
  have opened : start? '"' = some (none, .text []) := rfl
  simp [printString, scan, opened, inside, codes]

theorem isBare_of_isDecimal {c : Char} (digit : Digit.isDecimal c = true) : isBare c = true := by
  simp [isBare, digit]

theorem unsigned?_decimals (negative : Bool) (n : Nat) :
    unsigned? negative (Digit.decimals n) = some ⟨negative, digitValues (Digit.decimals n), [], none⟩ := by
  have digits : ∀ c ∈ Digit.decimals n, Digit.isDecimal c = true := fun _ => Digit.isDecimal_of_mem_decimals
  have run := Digit.span_digits digits [] nofun
  rw [List.append_nil] at run
  have leading : Digit.decimals n = ['0'] ∨
      ¬ ((Digit.decimals n).isEmpty = true ∨ (Digit.decimals n).head? = some '0') := by
    rcases Nat.eq_zero_or_pos n with rfl | positive
    · exact .inl rfl
    · refine .inr ?_
      simp [Digit.decimals_ne_nil, Digit.head?_decimals positive]
  have passed : (guard (Digit.decimals n = ['0'] ∨
      ¬ ((Digit.decimals n).isEmpty = true ∨ (Digit.decimals n).head? = some '0')) : Option Unit) = some () :=
    if_pos leading
  rw [unsigned?, run.1, run.2, passed]
  rfl

theorem number?_printInt (value : Int) : number? (printInt value) = some (.ofInt value) := by
  cases value with
  | ofNat n =>
    have unmarked : ∀ rest, Digit.decimals n ≠ '-' :: rest := by
      intro rest marked
      have digit : Digit.isDecimal '-' = true :=
        Digit.isDecimal_of_mem_decimals (marked ▸ List.mem_cons_self : '-' ∈ Digit.decimals n)
      cases digit
    have sign : NumberText.ofInt (.ofNat n) = ⟨false, digitValues (Digit.decimals n), [], none⟩ := by
      simp [NumberText.ofInt]
    rw [printInt, number?, sign]
    · exact unsigned?_decimals false n
    · exact unmarked
  | negSucc n =>
    have sign : NumberText.ofInt (.negSucc n) = ⟨true, digitValues (Digit.decimals (n + 1)), [], none⟩ := by
      simp [NumberText.ofInt, Int.negSucc_lt_zero]
    rw [sign]
    exact unsigned?_decimals true (n + 1)

theorem isBare_of_mem_printInt {value : Int} {c : Char} (member : c ∈ printInt value) : isBare c = true := by
  cases value with
  | ofNat n => exact isBare_of_isDecimal (Digit.isDecimal_of_mem_decimals member)
  | negSucc n =>
    rcases List.mem_cons.mp member with rfl | digit
    · rfl
    · exact isBare_of_isDecimal (Digit.isDecimal_of_mem_decimals digit)

theorem printInt_ne_nil {value : Int} : printInt value ≠ [] := by
  cases value with
  | ofNat => exact Digit.decimals_ne_nil
  | negSucc => exact List.cons_ne_nil _ _

theorem ofBare?_printInt (value : Int) : ofBare? (printInt value) = some (.number (.ofInt value)) := by
  have differs : ∀ {first : Char} {rest : List Char}, first ≠ '-' → Digit.isDecimal first = false →
      printInt value ≠ first :: rest := by
    intro first rest unmarked other same
    cases value with
    | ofNat n =>
      have member : first ∈ Digit.decimals n := by
        rw [show Digit.decimals n = first :: rest from same]
        exact List.mem_cons_self
      cases other.symm.trans (Digit.isDecimal_of_mem_decimals member)
    | negSucc n =>
      cases same
      exact unmarked rfl
  rw [ofBare?, if_neg (differs (by decide) rfl), if_neg (differs (by decide) rfl),
    if_neg (differs (by decide) rfl), number?_printInt]
  rfl

theorem stops_nil : Stops [] := by
  intro c none
  cases none

theorem Stops.of_head {c : Char} {rest : List Char} (other : isBare c = false) : Stops (c :: rest) := by
  intro d same
  cases same
  exact other

theorem stops_printItems (items : List Json) (rest : List Char) : Stops (printItems items ++ rest) := by
  cases items <;> exact .of_head rfl

theorem stops_printMembers (members : List (String × Json)) (rest : List Char) :
    Stops (printMembers members ++ rest) := by
  cases members <;> exact .of_head rfl

theorem scan_mark {c : Char} {token : Token} (marks : start? c = some (some token, .between)) (rest : List Char) :
    scan .between (c :: rest) = (scan .between rest).map (token :: ·) := by
  cases scanned : scan .between rest <;> simp [scan, marks, scanned]

mutual

/-- A printed value is cut into the tokens of its document. -/
theorem scan_print : (value : Json) → value.FloatFree → (rest : List Char) → Stops rest →
    scan .between (value.print ++ rest) = (scan .between rest).map (value.document.tokens ++ ·)
  | .null, _, rest, stops => scan_word (List.all_eq_true.mp rfl) (List.cons_ne_nil _ _) rfl stops
  | .bool true, _, rest, stops => scan_word (List.all_eq_true.mp rfl) (List.cons_ne_nil _ _) rfl stops
  | .bool false, _, rest, stops => scan_word (List.all_eq_true.mp rfl) (List.cons_ne_nil _ _) rfl stops
  | .int value, _, rest, stops =>
    scan_word (fun _ => isBare_of_mem_printInt) printInt_ne_nil (ofBare?_printInt value) stops
  | .string value, _, rest, _ => scan_printString value rest
  | .array [], _, rest, _ => by
    change scan .between ('[' :: ']' :: rest) = _
    rw [scan_mark rfl, scan_mark rfl, Option.map_map]
    rfl
  | .array (item :: items), free, rest, _ => by
    change scan .between ('[' :: (item.print ++ printItems items ++ rest)) = _
    rw [scan_mark rfl, List.append_assoc, scan_print item free.1 _ (stops_printItems items rest),
      scan_printItems items free.2 rest]
    simp [document, itemDocuments, Document.tokens, Function.comp_def]
  | .object [], _, rest, _ => by
    change scan .between ('\x7b' :: '\x7d' :: rest) = _
    rw [scan_mark rfl, scan_mark rfl, Option.map_map]
    rfl
  | .object ((key, value) :: members), free, rest, _ => by
    change scan .between ('\x7b' :: (printString key ++ ':' :: (value.print ++ printMembers members) ++ rest)) = _
    rw [scan_mark rfl, List.append_assoc, scan_printString, List.cons_append, scan_mark rfl, List.append_assoc,
      scan_print value free.1 _ (stops_printMembers members rest), scan_printMembers members free.2 rest]
    simp [document, memberDocuments, Document.tokens, Function.comp_def]

theorem scan_printItems : (items : List Json) → ItemsFloatFree items → (rest : List Char) →
    scan .between (printItems items ++ rest) =
      (scan .between rest).map (Document.itemTokens (itemDocuments items) ++ ·)
  | [], _, rest => scan_mark rfl rest
  | item :: items, free, rest => by
    change scan .between (',' :: (item.print ++ printItems items ++ rest)) = _
    rw [scan_mark rfl, List.append_assoc, scan_print item free.1 _ (stops_printItems items rest),
      scan_printItems items free.2 rest]
    simp [itemDocuments, Document.itemTokens, Function.comp_def]

theorem scan_printMembers : (members : List (String × Json)) → MembersFloatFree members → (rest : List Char) →
    scan .between (printMembers members ++ rest) =
      (scan .between rest).map (Document.memberTokens (memberDocuments members) ++ ·)
  | [], _, rest => scan_mark rfl rest
  | (key, value) :: members, free, rest => by
    change scan .between (',' :: (printString key ++ ':' :: (value.print ++ printMembers members) ++ rest)) = _
    rw [scan_mark rfl, List.append_assoc, scan_printString, List.cons_append, scan_mark rfl, List.append_assoc,
      scan_print value free.1 _ (stops_printMembers members rest), scan_printMembers members free.2 rest]
    simp [memberDocuments, Document.memberTokens, Function.comp_def]

end

end Token

end TokenServer.Json
