import TokenServer.Proofs.IntegerText
import TokenServer.Settings

/-! Loaded settings. They are what the variables hold: the first number that cannot be read is reported before any rule
is looked at, and the first rule that is broken is reported before any settings are given. Settings that are written to
the variables are therefore loaded as they were, if they keep the rules. -/

namespace TokenServer

section

variable {ι : Type}

/-- It does not hold of the item, which is the first of the list of which it does not. -/
def FirstFails (holds : ι → Prop) (items : List ι) (item : ι) : Prop :=
  ¬holds item ∧ ∃ before after, items = before ++ item :: after ∧ ∀ other ∈ before, holds other

variable {holds : ι → Prop} {item first : ι} {rest items : List ι}

theorem FirstFails.cases_cons (fails : FirstFails holds (item :: rest) first) :
    item = first ∧ ¬holds item ∨ holds item ∧ FirstFails holds rest first := by
  obtain ⟨not, before, after, parts, others⟩ := fails
  cases before with
  | nil =>
    obtain ⟨rfl, _⟩ := List.cons.inj parts
    exact .inl ⟨rfl, not⟩
  | cons head before =>
    obtain ⟨rfl, tail⟩ := List.cons.inj parts
    rw [List.forall_mem_cons] at others
    exact .inr ⟨others.1, not, before, after, tail, others.2⟩

theorem FirstFails.not_nil : ¬FirstFails holds [] first := by
  rintro ⟨_, before, after, parts, _⟩
  cases before <;> cases parts

theorem firstFails_iff_find? [DecidablePred holds] :
    FirstFails holds items first ↔ items.find? (fun item => !holds item) = some first := by
  rw [FirstFails, List.find?_eq_some_iff_append]
  simp

theorem forall_or_firstFails (holds : ι → Prop) (items : List ι) :
    (∀ item ∈ items, holds item) ∨ ∃ first, FirstFails holds items first := by
  classical
  cases found : items.find? (fun item => !holds item) with
  | none =>
    left
    simpa using found
  | some first => exact .inr ⟨first, firstFails_iff_find?.mpr found⟩

end

namespace Settings

inductive Quantity where
  | access | refresh | timeout | memory | passes | lanes
  deriving Repr, DecidableEq

namespace Quantity

def all : List Quantity := [.access, .refresh, .timeout, .memory, .passes, .lanes]

theorem mem_all (quantity : Quantity) : quantity ∈ all := by cases quantity <;> decide

def variableName : Quantity → String
  | .access => "WD_ACCESS_TOKEN_LIFESPAN"
  | .refresh => "WD_REFRESH_TOKEN_LIFESPAN"
  | .timeout => "WD_REQUEST_TIMEOUT"
  | .memory => "WD_HASHER_MEMORY_COST"
  | .passes => "WD_HASHER_TIME_COST"
  | .lanes => "WD_HASHER_PARALLELISM"

def bounds : Quantity → IntegerBounds
  | .access | .refresh => .int64
  | .timeout => .nat64
  | .memory | .passes | .lanes => .nat32

def of (settings : Settings) : Quantity → Int
  | .access => settings.lifespans.access.toInt
  | .refresh => settings.lifespans.refresh.toInt
  | .timeout => settings.timeout.toNat
  | .memory => settings.hashCost.memory.toNat
  | .passes => settings.hashCost.passes.toNat
  | .lanes => settings.hashCost.lanes.toNat

/-- The value that a variable holds: the one that its text spells between blanks, if that is within bounds, or the
usual one while the variable is not set. -/
def Holds (lookup : String → Option String) (quantity : Quantity) (value : Int) : Prop :=
  match lookup quantity.variableName with
  | some text => quantity.bounds.Spells (trim text.toList) value ∧ quantity.bounds.contains value = true
  | none => value = quantity.of {}

/-- The variable is not set, or its text is an integer of its type. -/
def Readable (lookup : String → Option String) (quantity : Quantity) : Prop := ∃ value, quantity.Holds lookup value

/-- The value is what the variable is set to, in decimals between blanks. -/
def Written (lookup : String → Option String) (quantity : Quantity) (value : Int) : Prop :=
  ∃ before after, (∀ c ∈ before, isBlank c = true) ∧ (∀ c ∈ after, isBlank c = true) ∧
    lookup quantity.variableName = some (String.ofList (before ++ Json.printInt value ++ after))

variable {lookup : String → Option String} {quantity : Quantity} {value : Int}

theorem contains_zero (quantity : Quantity) : quantity.bounds.contains 0 = true := by cases quantity <;> decide

theorem contains_of (settings : Settings) (quantity : Quantity) :
    quantity.bounds.contains (quantity.of settings) = true := by
  cases quantity with
  | access | refresh => exact IntegerBounds.int64_contains _
  | timeout => exact IntegerBounds.nat64_contains _
  | memory | passes | lanes => exact IntegerBounds.nat32_contains _

theorem contains_of_holds (holds : quantity.Holds lookup value) : quantity.bounds.contains value = true := by
  rw [Holds] at holds
  split at holds
  · exact holds.2
  · exact holds ▸ contains_of {} quantity

theorem Written.holds (written : quantity.Written lookup value) (within : quantity.bounds.contains value = true) :
    quantity.Holds lookup value := by
  obtain ⟨before, after, leading, trailing, set⟩ := written
  have spells := IntegerBounds.spells_printInt within
  rw [Holds, set]
  dsimp only
  rw [String.toList_ofList, trim_padded leading trailing spells.unblank]
  exact ⟨spells, within⟩

def read (lookup : String → Option String) (quantity : Quantity) : Except SettingsError Int :=
  numberOf lookup quantity.variableName quantity.bounds (quantity.of {})

theorem read_eq_ok_iff : quantity.read lookup = .ok value ↔ quantity.Holds lookup value := by
  rw [read, numberOf, Holds]
  cases lookup quantity.variableName with
  | none => exact ⟨fun read => (Except.ok.inj read).symm, fun usual => congrArg Except.ok usual.symm⟩
  | some text =>
    dsimp only
    rw [← IntegerBounds.read_eq_ok_iff quantity.contains_zero]
    cases quantity.bounds.read (trim text.toList) with
    | error fault => exact ⟨nofun, nofun⟩
    | ok value => simp [Except.mapError]

/-- What cannot be read is reported by the name of the variable. -/
theorem error_of_read {error : SettingsError} (failed : quantity.read lookup = .error error) :
    ∃ fault, error = .badNumber quantity.variableName fault := by
  rw [read, numberOf] at failed
  cases set : lookup quantity.variableName with
  | none =>
    rw [set] at failed
    cases failed
  | some text =>
    rw [set] at failed
    dsimp only at failed
    cases result : quantity.bounds.read (trim text.toList) with
    | error fault =>
      rw [result] at failed
      exact ⟨fault, (Except.error.inj failed).symm⟩
    | ok value =>
      rw [result] at failed
      cases failed

end Quantity

def ofNumbers (scope : String) (number : Quantity → Int) : Settings where
  lifespans := ⟨.ofInt (number .access), .ofInt (number .refresh)⟩
  migrationScope := scope
  timeout := .ofNat (number .timeout).toNat
  hashCost :=
    ⟨.ofNat (number .memory).toNat, .ofNat (number .passes).toNat, .ofNat (number .lanes).toNat⟩

theorem ofNumbers_of (settings : Settings) :
    ofNumbers settings.migrationScope (Quantity.of settings) = settings := by
  simp [ofNumbers, Quantity.of]

theorem of_ofNumbers {scope : String} {number : Quantity → Int}
    (within : ∀ quantity : Quantity, quantity.bounds.contains (number quantity) = true) (quantity : Quantity) :
    quantity.of (ofNumbers scope number) = number quantity := by
  have within := within quantity
  cases quantity with
  | access | refresh => exact IntegerBounds.toInt_ofInt_of_contains within
  | timeout => exact IntegerBounds.toNat_ofNat_of_nat64 within
  | memory | passes | lanes => exact IntegerBounds.toNat_ofNat_of_nat32 within

/-- The settings that the variables hold. -/
structure Holds (lookup : String → Option String) (settings : Settings) : Prop where
  quantity (quantity : Quantity) : quantity.Holds lookup (quantity.of settings)
  scope : settings.migrationScope = (lookup "WD_MIGRATION_SCOPE").getD usualMigrationScope

structure Written (lookup : String → Option String) (settings : Settings) : Prop where
  quantity (quantity : Quantity) : quantity.Written lookup (quantity.of settings)
  scope : lookup "WD_MIGRATION_SCOPE" = some settings.migrationScope

theorem Written.holds {lookup : String → Option String} {settings : Settings} (written : Written lookup settings) :
    Holds lookup settings where
  quantity quantity := (written.quantity quantity).holds (quantity.contains_of settings)
  scope := by rw [written.scope, Option.getD_some]

inductive Rule where
  | accessPositive | accessWithin | refreshWithin | scopeGiven | timeoutPositive
  deriving Repr, DecidableEq

namespace Rule

def all : List Rule := [.accessPositive, .accessWithin, .refreshWithin, .scopeGiven, .timeoutPositive]

theorem mem_all (rule : Rule) : rule ∈ all := by cases rule <;> decide

def Holds (settings : Settings) : Rule → Prop
  | .accessPositive => 0 < settings.lifespans.access.toInt
  | .accessWithin => settings.lifespans.access.toInt ≤ greatestLifespan
  | .refreshWithin => -greatestLifespan ≤ settings.lifespans.refresh.toInt ∧
      settings.lifespans.refresh.toInt ≤ greatestLifespan
  | .scopeGiven => ∃ c ∈ settings.migrationScope.toList, isBlank c = false
  | .timeoutPositive => 0 < settings.timeout.toNat

def error : Rule → SettingsError
  | .accessPositive => .accessLifespanNotPositive
  | .accessWithin => .accessLifespanTooGreat
  | .refreshWithin => .refreshLifespanTooGreat
  | .scopeGiven => .migrationScopeBlank
  | .timeoutPositive => .timeoutZero

instance (settings : Settings) : DecidablePred (Holds settings)
  | .accessPositive => Int.decLt _ _
  | .accessWithin => Int.decLe _ _
  | .refreshWithin => instDecidableAnd
  | .scopeGiven => inferInstanceAs (Decidable (∃ c ∈ settings.migrationScope.toList, isBlank c = false))
  | .timeoutPositive => Nat.decLt _ _

/-- The error of the first broken rule is found rule by rule. -/
theorem findError_cons (settings : Settings) (rule : Rule) (rest : List Rule) :
    ((rule :: rest).find? fun rule => !rule.Holds settings).map error =
      if ¬rule.Holds settings then some rule.error
      else (rest.find? fun rule => !rule.Holds settings).map error := by
  by_cases holds : rule.Holds settings <;> simp [holds]

end Rule

variable {lookup : String → Option String} {settings : Settings}

theorem violation?_eq (settings : Settings) :
    settings.violation? = (Rule.all.find? fun rule => !rule.Holds settings).map Rule.error := by
  have positive : settings.lifespans.access.toInt ≤ 0 ↔ ¬Rule.accessPositive.Holds settings := Int.not_lt.symm
  have within : greatestLifespan < settings.lifespans.access.toInt ↔ ¬Rule.accessWithin.Holds settings :=
    Int.not_le.symm
  have refresh : settings.lifespans.refresh.toInt < -greatestLifespan ∨
      greatestLifespan < settings.lifespans.refresh.toInt ↔ ¬Rule.refreshWithin.Holds settings := by
    rw [Rule.Holds, not_and_or, Int.not_le, Int.not_le]
  have scope : (trim settings.migrationScope.toList).isEmpty = true ↔ ¬Rule.scopeGiven.Holds settings := by
    simp [Rule.Holds, trim_eq_nil_iff]
  have timeout : settings.timeout = 0 ↔ ¬Rule.timeoutPositive.Holds settings := by
    rw [Rule.Holds, Nat.pos_iff_ne_zero, not_not]
    exact UInt64.toNat_inj.symm
  simp only [violation?, Rule.all, Rule.findError_cons, positive, within, refresh, scope, timeout]
  rfl

theorem validate_of_holds (holds : ∀ rule : Rule, rule.Holds settings) : settings.validate = .ok settings := by
  have none : (Rule.all.find? fun rule => !rule.Holds settings) = none := by simp [holds]
  rw [validate, violation?_eq, none]
  rfl

theorem validate_of_firstFails {rule : Rule} (fails : FirstFails (Rule.Holds settings) Rule.all rule) :
    settings.validate = .error rule.error := by
  rw [validate, violation?_eq, firstFails_iff_find?.mp fails]
  rfl

theorem validate_eq_ok_iff : settings.validate = .ok settings ↔ ∀ rule : Rule, rule.Holds settings := by
  refine ⟨fun valid rule => ?_, validate_of_holds⟩
  rcases forall_or_firstFails (Rule.Holds settings) Rule.all with holds | ⟨first, fails⟩
  · exact holds rule rule.mem_all
  · rw [validate_of_firstFails fails] at valid
    cases valid

/-- The numbers are read one by one, and where a variable is not set, the usual number is given. -/
theorem load_eq (lookup : String → Option String) :
    load lookup = (do
      let access ← Quantity.access.read lookup
      let refresh ← Quantity.refresh.read lookup
      let timeout ← Quantity.timeout.read lookup
      let memory ← Quantity.memory.read lookup
      let passes ← Quantity.passes.read lookup
      let lanes ← Quantity.lanes.read lookup
      validate (ofNumbers ((lookup "WD_MIGRATION_SCOPE").getD usualMigrationScope) fun
        | .access => access
        | .refresh => refresh
        | .timeout => timeout
        | .memory => memory
        | .passes => passes
        | .lanes => lanes)) := rfl

/-- If every number can be read, it is the rules that decide. -/
theorem load_of_holds (holds : Holds lookup settings) : load lookup = settings.validate := by
  have read (quantity : Quantity) := Quantity.read_eq_ok_iff.mpr (holds.quantity quantity)
  have loaded : load lookup = validate (ofNumbers settings.migrationScope (Quantity.of settings)) := by
    rw [load_eq, holds.scope]
    simp only [read]
    rfl
  rw [loaded, ofNumbers_of]

/-- Numbers that can all be read make settings. -/
theorem exists_holds (readable : ∀ quantity : Quantity, quantity.Readable lookup) :
    ∃ settings, Holds lookup settings := by
  obtain ⟨number, holds⟩ := Classical.skolem.mp readable
  have within (quantity : Quantity) := Quantity.contains_of_holds (holds quantity)
  exact ⟨ofNumbers ((lookup "WD_MIGRATION_SCOPE").getD usualMigrationScope) number,
    fun quantity => (of_ofNumbers within quantity).symm ▸ holds quantity, rfl⟩

/-- The attempt fails for want of the number. -/
def FailsFor (quantity : Quantity) (result : Except SettingsError Settings) : Prop :=
  ∃ fault, result = .error (.badNumber quantity.variableName fault)

/-- A number that is not the first to fail has been read when the others are looked at. -/
theorem failsFor_bind {quantity first : Quantity} {rest : List Quantity} {next : Int → Except SettingsError Settings}
    (fails : FirstFails (Quantity.Readable lookup) (quantity :: rest) first)
    (onwards : ∀ value, FirstFails (Quantity.Readable lookup) rest first → FailsFor first (next value)) :
    FailsFor first (quantity.read lookup >>= next) := by
  cases read : quantity.read lookup with
  | error error =>
    rcases fails.cases_cons with ⟨rfl, _⟩ | ⟨⟨value, holds⟩, _⟩
    · obtain ⟨fault, rfl⟩ := Quantity.error_of_read read
      exact ⟨fault, rfl⟩
    · rw [Quantity.read_eq_ok_iff.mpr holds] at read
      cases read
  | ok value =>
    rcases fails.cases_cons with ⟨rfl, unreadable⟩ | ⟨_, later⟩
    · exact absurd ⟨value, Quantity.read_eq_ok_iff.mp read⟩ unreadable
    · exact onwards value later

theorem load_of_firstFails {first : Quantity}
    (fails : FirstFails (Quantity.Readable lookup) Quantity.all first) : FailsFor first (load lookup) := by
  rw [load_eq]
  refine failsFor_bind fails fun access fails => ?_
  refine failsFor_bind fails fun refresh fails => ?_
  refine failsFor_bind fails fun timeout fails => ?_
  refine failsFor_bind fails fun memory fails => ?_
  refine failsFor_bind fails fun passes fails => ?_
  refine failsFor_bind fails fun lanes fails => ?_
  exact absurd fails FirstFails.not_nil

variable (lookup) in
/-- What loading ends in, from the variables alone. -/
inductive Loads : Except SettingsError Settings → Prop
  | unreadable {quantity : Quantity} (fails : FirstFails (Quantity.Readable lookup) Quantity.all quantity)
      (fault : IntegerFault) : Loads (.error (.badNumber quantity.variableName fault))
  | invalid {settings : Settings} {rule : Rule} (holds : Holds lookup settings)
      (fails : FirstFails (Rule.Holds settings) Rule.all rule) : Loads (.error rule.error)
  | valid {settings : Settings} (holds : Holds lookup settings) (keeps : ∀ rule : Rule, rule.Holds settings) :
      Loads (.ok settings)

theorem loads_load (lookup : String → Option String) : Loads lookup (load lookup) := by
  rcases forall_or_firstFails (Quantity.Readable lookup) Quantity.all with readable | ⟨quantity, fails⟩
  · obtain ⟨settings, holds⟩ := exists_holds fun quantity => readable quantity quantity.mem_all
    rw [load_of_holds holds]
    rcases forall_or_firstFails (Rule.Holds settings) Rule.all with keeps | ⟨rule, fails⟩
    · have keeps (rule : Rule) := keeps rule rule.mem_all
      exact validate_of_holds keeps ▸ .valid holds keeps
    · exact validate_of_firstFails fails ▸ .invalid holds fails
  · obtain ⟨fault, failed⟩ := load_of_firstFails fails
    exact failed ▸ .unreadable fails fault

end Settings

theorem Lifespans.clamp_of_within {seconds : Int64} (low : -greatestLifespan ≤ seconds.toInt)
    (high : seconds.toInt ≤ greatestLifespan) : clamp seconds = seconds.toInt := by
  rw [clamp, Int.min_eq_right high, Int.max_eq_right low]

/-- Settings are valid if they keep all rules. They are loaded as they were written, and only valid ones are loaded:
otherwise the first number that cannot be read is named, or else the first rule that is broken. Lifespans that are
loaded are not cut. -/
theorem Settings.load_exact (lookup : String → Option String) :
    (∀ settings : Settings, settings.validate = .ok settings ↔ ∀ rule : Rule, rule.Holds settings) ∧
    (∀ settings : Settings, settings.validate = .ok settings → Written lookup settings →
      load lookup = .ok settings) ∧
    Loads lookup (load lookup) ∧
    ∀ settings : Settings, load lookup = .ok settings →
      settings.validate = .ok settings ∧ 0 < settings.lifespans.access.toInt ∧
        settings.lifespans.accessSeconds = settings.lifespans.access.toInt ∧
        settings.lifespans.refreshSeconds = settings.lifespans.refresh.toInt ∧
        (settings.lifespans.refreshIsPermanent = true ↔ settings.lifespans.refreshSeconds < 0) := by
  refine ⟨fun _ => validate_eq_ok_iff, fun settings valid written => ?_, loads_load lookup,
    fun settings loaded => ?_⟩
  · exact (load_of_holds written.holds).trans valid
  · have keeps : ∀ rule : Rule, rule.Holds settings := by
      have loads := loads_load lookup
      rw [loaded] at loads
      cases loads with
      | valid _ keeps => exact keeps
    have positive : 0 < settings.lifespans.access.toInt := keeps .accessPositive
    have within : settings.lifespans.access.toInt ≤ greatestLifespan := keeps .accessWithin
    have refresh : -greatestLifespan ≤ settings.lifespans.refresh.toInt ∧
        settings.lifespans.refresh.toInt ≤ greatestLifespan := keeps .refreshWithin
    have great : (0 : Int) ≤ greatestLifespan := by decide
    have uncut : settings.lifespans.refreshSeconds = settings.lifespans.refresh.toInt :=
      Lifespans.clamp_of_within refresh.1 refresh.2
    refine ⟨validate_of_holds keeps, positive, Lifespans.clamp_of_within (by omega) within, uncut, ?_⟩
    rw [uncut, Lifespans.refreshIsPermanent, decide_eq_true_iff]
    exact Int64.lt_iff_toInt_lt

def Specimen.settings : Settings where
  lifespans := ⟨60, -1⟩
  migrationScope := " legacy.import"
  timeout := 5
  hashCost := ⟨8, 1, 4⟩

def Specimen.variables : String → Option String
  | "WD_ACCESS_TOKEN_LIFESPAN" => some "60"
  | "WD_REFRESH_TOKEN_LIFESPAN" => some " -1\n"
  | "WD_MIGRATION_SCOPE" => some " legacy.import"
  | "WD_REQUEST_TIMEOUT" => some "\t5"
  | "WD_HASHER_MEMORY_COST" => some "8"
  | "WD_HASHER_TIME_COST" => some "1 "
  | "WD_HASHER_PARALLELISM" => some "4"
  | _ => none

theorem Specimen.written_settings : Settings.Written Specimen.variables Specimen.settings := by
  have blank {c : Char} (space : isBlank c = true) : ∀ other ∈ [c], isBlank other = true :=
    List.forall_mem_singleton.mpr space
  refine ⟨fun quantity => ?_, rfl⟩
  cases quantity with
  | access => exact ⟨[], [], nofun, nofun, by decide +kernel⟩
  | refresh => exact ⟨[' '], ['\n'], blank rfl, blank rfl, by decide +kernel⟩
  | timeout => exact ⟨['\t'], [], blank rfl, nofun, by decide +kernel⟩
  | memory => exact ⟨[], [], nofun, nofun, by decide +kernel⟩
  | passes => exact ⟨[], [' '], nofun, blank rfl, by decide +kernel⟩
  | lanes => exact ⟨[], [], nofun, nofun, by decide +kernel⟩

/-- Written settings are loaded, and their refresh tokens are permanent. -/
theorem Settings.load_specimen :
    Specimen.settings.validate = .ok Specimen.settings ∧ Written Specimen.variables Specimen.settings ∧
      load Specimen.variables = .ok Specimen.settings ∧
      (Specimen.settings.lifespans.refreshIsPermanent = true ↔ Specimen.settings.lifespans.refreshSeconds < 0) := by
  obtain ⟨_, written, _, loaded⟩ := load_exact Specimen.variables
  have valid : Specimen.settings.validate = .ok Specimen.settings := by decide +kernel
  have given := written Specimen.settings valid Specimen.written_settings
  exact ⟨valid, Specimen.written_settings, given, (loaded Specimen.settings given).2.2.2.2⟩

end TokenServer
