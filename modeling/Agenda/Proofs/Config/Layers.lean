import Mathlib.Data.List.Induction
import Agenda.Config.Basic

/-!
# The layers of the configuration

Of each field only the winning setting counts, the one of its highest source that sets it: it is the
value of the field if its type is right, and an error otherwise (`load?_by_winning_settings`). What
the sources below set, of whatever type, decides nothing.
-/

namespace Agenda

/-! ### Fields -/

/-- The fields of the configuration. -/
inductive Field where
  | databasePath
  | timezone
  | searchLimit
deriving DecidableEq

namespace Field

/-- The name that sources of settings know a field by. -/
def name : Field → String
  | databasePath => "database_path"
  | timezone => "timezone"
  | searchLimit => "search_limit"

/-- The settings of the right type: texts, and for the limit the numbers of 32 bits without a
sign. -/
def Takes : Field → Setting → Prop
  | databasePath, setting => ∃ value, setting = .text value
  | timezone, setting => ∃ value, setting = .text value
  | searchLimit, setting => ∃ n : Nat, setting = .integer n ∧ n < Text.limit32

end Field

/-- The value of a field, as a setting. -/
def Config.get (config : Config) : Field → Setting
  | .databasePath => .text config.databasePath
  | .timezone => .text config.timezone
  | .searchLimit => .integer config.searchLimit

namespace Layer

/-- The setting that a layer has for a field. -/
def get (layer : Layer) : Field → Option Setting
  | .databasePath => layer.databasePath
  | .timezone => layer.timezone
  | .searchLimit => layer.searchLimit

/-- The lower layer counts where the upper one has no setting. -/
theorem get_above (upper lower : Layer) (field : Field) :
    (upper.above lower).get field = (upper.get field).or (lower.get field) := by
  cases field <;> rfl

/-- A setting changes its own field only. -/
theorem get_set (layer : Layer) (changed field : Field) (setting : Setting) :
    (layer.set changed.name setting).get field =
      if changed = field then some setting else layer.get field := by
  cases changed <;> cases field <;> rfl

end Layer

/-! ### Variables -/

namespace Environment

/-- Whether a name is that of a variable for fields. -/
def isPrefixed (name : String) : Bool := (behind? "cadence_".toList (folded name)).isSome

/-- Whether a name is that of the variable for the field. -/
def isNameOf (field : Field) (name : String) : Bool :=
  (behind? "cadence_".toList (folded name)).map Text.trim = some field.name.toList

/-- Whether a name is that of the variable for the database, the field being the path of it. -/
def isDatabaseNameOf (field : Field) (name : String) : Bool :=
  field = .databasePath && folded name = "todo_dbfile".toList

/-- The value of the last variable whose name fits. -/
def lastValue? (fits : String → Bool) (environment : List (String × String)) : Option String :=
  (environment.reverse.find? fun entry ↦ fits entry.1).map Prod.snd

private theorem lastValue?_append_singleton (fits : String → Bool)
    (environment : List (String × String)) (name value : String) :
    lastValue? fits (environment ++ [(name, value)]) =
      if fits name then some value else lastValue? fits environment := by
  unfold lastValue?
  rw [List.reverse_append, List.reverse_singleton, List.singleton_append, List.find?_cons]
  cases fits name <;> rfl

private theorem get_foldl {step : Layer → String × String → Layer} {fits : String → Bool}
    {field : Field} {environment : List (String × String)}
    (hstep : ∀ layer, ∀ entry ∈ environment, (step layer entry).get field =
      if fits entry.1 then some (settingOf entry.2) else layer.get field) :
    (environment.foldl step {}).get field = (lastValue? fits environment).map settingOf := by
  -- The last variable goes over the ones before it, so it comes first here.
  induction environment using List.reverseRecOn with
  | nil => cases field <;> rfl
  | append_singleton before last ih =>
    have hbefore := ih fun layer entry hentry ↦
      hstep layer entry (List.mem_append_left [last] hentry)
    obtain ⟨name, value⟩ := last
    rw [List.foldl_append, List.foldl_cons, List.foldl_nil, lastValue?_append_singleton,
      hstep _ (name, value) (by simp), hbefore]
    cases fits name <;> rfl

private theorem splitOn_name (field : Field) :
    field.name.toList.splitOn '.' = [field.name.toList] := by
  cases field <;> decide

private theorem name_inj {field other : Field} :
    field.name.toList = other.name.toList ↔ field = other := by
  cases field <;> cases other <;> decide

private theorem prefixedSetting?_of_isNameOf {field : Field} {name : String}
    (h : isNameOf field name = true) (value : String) :
    prefixedSetting? name value = some (field.name, settingOf value) := by
  obtain ⟨key, hbehind, htrim⟩ := Option.map_eq_some_iff.1 (of_decide_eq_true h)
  simp only [prefixedSetting?, hbehind, htrim, splitOn_name]
  cases field <;> rfl

private theorem behind?_eq_none {name : String} (h : isPrefixed name = false) :
    behind? "cadence_".toList (folded name) = none := by
  rwa [isPrefixed, Option.isSome_eq_false_iff, Option.isNone_iff_eq_none] at h

private theorem prefixedSetting?_of_not_isPrefixed {name : String} (h : isPrefixed name = false)
    (value : String) : prefixedSetting? name value = none := by
  rw [prefixedSetting?, behind?_eq_none h]

private theorem isNameOf_of_not_isPrefixed {name : String} (h : isPrefixed name = false)
    (field : Field) : isNameOf field name = false := by
  rw [isNameOf, behind?_eq_none h]
  rfl

private theorem isNameOf_eq_decide {field : Field} {name : String} (h : isNameOf field name = true)
    (other : Field) : isNameOf other name = decide (field = other) := by
  have hname := of_decide_eq_true h
  simp only [isNameOf, hname, Option.some.injEq, name_inj]

/-- The variables of the fields set each field to its last value. -/
theorem get_prefixedLayer {environment : List (String × String)}
    (h : ∀ entry ∈ environment, isPrefixed entry.1 = true → ∃ field, isNameOf field entry.1 = true)
    (field : Field) :
    (prefixedLayer environment).get field =
      (lastValue? (isNameOf field) environment).map settingOf := by
  apply get_foldl
  intro layer ⟨name, value⟩ hentry
  by_cases hprefixed : isPrefixed name = true
  · obtain ⟨changed, hchanged⟩ := h (name, value) hentry hprefixed
    rw [isNameOf_eq_decide hchanged]
    simp only [prefixedSetting?_of_isNameOf hchanged, Layer.get_set, decide_eq_true_eq]
  · rw [Bool.not_eq_true] at hprefixed
    rw [isNameOf_of_not_isPrefixed hprefixed]
    simp only [prefixedSetting?_of_not_isPrefixed hprefixed]
    rfl

/-- The variable for the database sets the path of it alone. -/
theorem get_databaseLayer (environment : List (String × String)) (field : Field) :
    (databaseLayer environment).get field =
      (lastValue? (isDatabaseNameOf field) environment).map settingOf := by
  apply get_foldl
  intro layer ⟨name, value⟩ _
  dsimp only
  by_cases hname : folded name = "todo_dbfile".toList
  · have hfits : isDatabaseNameOf field name = decide (field = .databasePath) := by
      rw [isDatabaseNameOf, decide_eq_true hname, Bool.and_true]
    rw [if_pos hname, hfits]
    cases field <;> rfl
  · have hfits : isDatabaseNameOf field name = false := by
      rw [isDatabaseNameOf, decide_eq_false hname, Bool.and_false]
    rw [if_neg hname, hfits]
    rfl

end Environment

namespace Config

open Environment (isPrefixed isNameOf isDatabaseNameOf lastValue? settingOf)

/-! ### Sources -/

/-- The sources of settings, the highest first. -/
inductive Source where
  /-- The variable named for the field. -/
  | ownVariable
  | databaseVariable
  | file
  | defaults
deriving DecidableEq

/-- The sources above a source. -/
def Source.above : Source → List Source
  | ownVariable => []
  | databaseVariable => [ownVariable]
  | file => [ownVariable, databaseVariable]
  | defaults => [ownVariable, databaseVariable, file]

private theorem Source.mem_above_or (source other : Source) :
    source = other ∨ source ∈ other.above ∨ other ∈ source.above := by
  cases source <;> cases other <;> decide

/-- What the configuration is read from: the text of the file, if there is one, and what the machine
tells. -/
structure Surroundings extends Machine where
  file : Option String

namespace Surroundings

variable {surroundings : Surroundings} {field : Field} {source : Source} {setting : Setting}

/-- The configuration that the surroundings give. -/
def load? (surroundings : Surroundings) : Option Config :=
  Config.load? surroundings.file surroundings.toMachine

/-- The setting of a source for a field. -/
def setting? (surroundings : Surroundings) : Source → Field → Option Setting
  | .ownVariable, field => (lastValue? (isNameOf field) surroundings.environment).map settingOf
  | .databaseVariable, field =>
    (lastValue? (isDatabaseNameOf field) surroundings.environment).map settingOf
  | .file, field => surroundings.file.bind fun text ↦
    (Toml.read? text).bind fun entries ↦ (entries.lookup field.name).map settingOfValue
  | .defaults, field => some ((defaults surroundings.toMachine).get field)

/-- A file that is there can be read, and each variable for fields is named for one. -/
structure Regular (surroundings : Surroundings) : Prop where
  readable : ∀ text ∈ surroundings.file, (Toml.read? text).isSome
  named : ∀ entry ∈ surroundings.environment, isPrefixed entry.1 = true →
    ∃ field, isNameOf field entry.1 = true

/-- A source sets a field, and none above it does. -/
structure Wins (surroundings : Surroundings) (field : Field) (source : Source) (setting : Setting) :
    Prop where
  isSet : surroundings.setting? source field = some setting
  unsetAbove : ∀ upper ∈ source.above, surroundings.setting? upper field = none

instance : Decidable (surroundings.Wins field source setting) :=
  decidable_of_iff (surroundings.setting? source field = some setting ∧
      ∀ upper ∈ source.above, surroundings.setting? upper field = none)
    ⟨fun h ↦ ⟨h.1, h.2⟩, fun h ↦ ⟨h.isSet, h.unsetAbove⟩⟩

/-- The setting that holds for a field. -/
def holding (surroundings : Surroundings) (field : Field) : Setting :=
  ((surroundings.setting? .ownVariable field).or
    ((surroundings.setting? .databaseVariable field).or (surroundings.setting? .file field))).getD
      ((defaults surroundings.toMachine).get field)

/-- Some source wins each field. -/
theorem exists_wins (surroundings : Surroundings) (field : Field) :
    ∃ source, surroundings.Wins field source (surroundings.holding field) := by
  unfold holding
  cases hown : surroundings.setting? .ownVariable field with
  | some setting => exact ⟨.ownVariable, hown, by simp [Source.above]⟩
  | none =>
    cases hdatabase : surroundings.setting? .databaseVariable field with
    | some setting =>
      exact ⟨.databaseVariable, hdatabase, by simp [Source.above, hown]⟩
    | none =>
      cases hfile : surroundings.setting? .file field with
      | some setting => exact ⟨.file, hfile, by simp [Source.above, hown, hdatabase]⟩
      | none => exact ⟨.defaults, rfl, by simp [Source.above, hown, hdatabase, hfile]⟩

/-- One source wins a field, with one setting. -/
theorem Wins.unique {source' : Source} {setting' : Setting}
    (h : surroundings.Wins field source setting) (h' : surroundings.Wins field source' setting') :
    source = source' ∧ setting = setting' := by
  rcases Source.mem_above_or source source' with rfl | habove | habove
  · exact ⟨rfl, Option.some.inj (h.isSet.symm.trans h'.isSet)⟩
  · exact absurd (h.isSet.symm.trans (h'.unsetAbove source habove)) (by simp)
  · exact absurd (h'.isSet.symm.trans (h.unsetAbove source' habove)) (by simp)

/-- Each field has one winning source and setting. -/
theorem existsUnique_wins (surroundings : Surroundings) (field : Field) :
    ∃! winner : Source × Setting, surroundings.Wins field winner.1 winner.2 := by
  obtain ⟨source, hwins⟩ := surroundings.exists_wins field
  refine ⟨(source, surroundings.holding field), hwins, fun winner hwinner ↦ ?_⟩
  exact Prod.ext (hwinner.unique hwins).1 (hwinner.unique hwins).2

private theorem Wins.eq_holding (h : surroundings.Wins field source setting) :
    setting = surroundings.holding field := by
  obtain ⟨_, hwins⟩ := surroundings.exists_wins field
  exact (h.unique hwins).2

end Surroundings

/-! ### Loading -/

/-- The texts are the settings that are read as one. -/
theorem text?_eq_some_iff {setting : Setting} {value : String} :
    setting.text? = some value ↔ setting = .text value := by
  cases setting <;> simp [Setting.text?]

/-- The numbers of 32 bits without a sign are the settings that are read as a limit. -/
theorem limit?_eq_some_iff {setting : Setting} {n : Nat} :
    setting.limit? = some n ↔ setting = .integer n ∧ n < Text.limit32 := by
  cases setting with
  | text value => simp [Setting.limit?]
  | other => simp [Setting.limit?]
  | integer value =>
    simp only [Setting.limit?, Option.ite_none_right_eq_some, Option.some.injEq,
      Setting.integer.injEq]
    omega

section OfLayer

variable {layer : Layer} {config defaults : Config}

/-- The setting of a field, a default where the layer has none. -/
def settingIn (layer : Layer) (defaults : Config) (field : Field) : Setting :=
  (layer.get field).getD (defaults.get field)

private theorem takes_searchLimit_iff :
    Field.searchLimit.Takes (config.get .searchLimit) ↔ config.searchLimit < Text.limit32 := by
  constructor
  · rintro ⟨n, hn, hbound⟩
    rwa [Int.ofNat.inj (Setting.integer.inj hn)]
  · intro h
    exact ⟨config.searchLimit, rfl, h⟩

/-- The time zone of the machine is one that exists, whatever the machine tells. -/
theorem isName_machineTimezone (machine : Machine) :
    Timezone.isName (machineTimezone machine) = true := by
  unfold machineTimezone
  cases hfound : (zoneCandidates machine).find? Timezone.isName with
  | none => decide +kernel
  | some name => exact List.find?_some hfound

/-- The defaults are of the right types. -/
theorem takes_defaults (machine : Machine) (field : Field) :
    field.Takes ((Config.defaults machine).get field) := by
  cases field with
  | databasePath => exact ⟨_, rfl⟩
  | timezone => exact ⟨_, rfl⟩
  | searchLimit => exact takes_searchLimit_iff.2 (show defaultLimit < Text.limit32 by decide)

private theorem ofLayer?_eq_bind (hdefault : ∀ field : Field, field.Takes (defaults.get field)) :
    ofLayer? layer defaults =
      (settingIn layer defaults .databasePath).text?.bind fun databasePath ↦
        (settingIn layer defaults .timezone).text?.bind fun timezone ↦
          (settingIn layer defaults .searchLimit).limit?.bind fun searchLimit ↦
            some { databasePath, timezone, searchLimit } := by
  have hlimit : some defaults.searchLimit = (defaults.get .searchLimit).limit? :=
    (limit?_eq_some_iff.2 ⟨rfl, takes_searchLimit_iff.1 (hdefault .searchLimit)⟩).symm
  unfold ofLayer? settingIn
  rw [hlimit, Option.getD_map, ← Option.getD_map Setting.text?, ← Option.getD_map Setting.text?]
  rfl

/-- A layer gives the configuration whose fields are its settings, if these are of the right
types. -/
theorem ofLayer?_eq_some_iff (hdefault : ∀ field : Field, field.Takes (defaults.get field)) :
    ofLayer? layer defaults = some config ↔
      ∀ field : Field, field.Takes (settingIn layer defaults field) ∧
        config.get field = settingIn layer defaults field := by
  simp only [ofLayer?_eq_bind hdefault, Option.bind_eq_some_iff, text?_eq_some_iff,
    limit?_eq_some_iff]
  constructor
  · rintro ⟨databasePath, hpath, timezone, hzone, limit, ⟨hlimit, hbound⟩, hconfig⟩ field
    cases Option.some.inj hconfig
    cases field with
    | databasePath => exact ⟨⟨databasePath, hpath⟩, hpath.symm⟩
    | timezone => exact ⟨⟨timezone, hzone⟩, hzone.symm⟩
    | searchLimit => exact ⟨⟨limit, hlimit, hbound⟩, hlimit.symm⟩
  · intro h
    obtain ⟨htakes, hlimit⟩ := h .searchLimit
    rw [← hlimit] at htakes
    exact ⟨config.databasePath, (h .databasePath).2.symm, config.timezone, (h .timezone).2.symm,
      config.searchLimit, ⟨hlimit.symm, takes_searchLimit_iff.1 htakes⟩, rfl⟩

private theorem exists_get_eq {settings : Field → Setting}
    (h : ∀ field : Field, field.Takes (settings field)) :
    ∃ config : Config, ∀ field, config.get field = settings field := by
  obtain ⟨databasePath, hpath⟩ := h .databasePath
  obtain ⟨timezone, hzone⟩ := h .timezone
  obtain ⟨searchLimit, hlimit, _⟩ := h .searchLimit
  refine ⟨{ databasePath, timezone, searchLimit }, fun field ↦ ?_⟩
  cases field with
  | databasePath => exact hpath.symm
  | timezone => exact hzone.symm
  | searchLimit => exact hlimit.symm

end OfLayer

namespace Surroundings

variable {surroundings other : Surroundings} {config : Config}

private theorem exists_fileLayer? (h : surroundings.Regular) :
    ∃ layer, fileLayer? surroundings.file = some layer ∧
      ∀ field, layer.get field = surroundings.setting? .file field := by
  cases hfile : surroundings.file with
  | none =>
    refine ⟨{}, rfl, fun field ↦ ?_⟩
    simp only [setting?, hfile, Option.bind_none]
    cases field <;> rfl
  | some text =>
    obtain ⟨entries, hread⟩ := Option.isSome_iff_exists.1 (h.readable text hfile)
    refine ⟨layerOfEntries entries, by rw [fileLayer?, hread]; rfl, fun field ↦ ?_⟩
    simp only [setting?, hfile, hread, Option.bind_some]
    cases field <;> rfl

private theorem exists_layer? (h : surroundings.Regular) :
    ∃ layer, layer? surroundings.file surroundings.environment = some layer ∧
      ∀ field, settingIn layer (defaults surroundings.toMachine) field =
        surroundings.holding field := by
  obtain ⟨fileLayer, hfile, hget⟩ := exists_fileLayer? h
  refine ⟨_, by rw [layer?, hfile]; rfl, fun field ↦ ?_⟩
  rw [settingIn, Layer.get_above, Layer.get_above, hget,
    Environment.get_prefixedLayer h.named, Environment.get_databaseLayer]
  rfl

private theorem load?_eq_some_iff_holding (h : surroundings.Regular) :
    surroundings.load? = some config ↔
      ∀ field : Field, field.Takes (surroundings.holding field) ∧
        config.get field = surroundings.holding field := by
  obtain ⟨layer, hlayer, hholding⟩ := exists_layer? h
  rw [load?, Config.load?, hlayer, Option.bind_some]
  simp only [← hholding]
  exact ofLayer?_eq_some_iff (takes_defaults surroundings.toMachine)

private theorem load?_eq_none_iff_holding (h : surroundings.Regular) :
    surroundings.load? = none ↔ ∃ field : Field, ¬field.Takes (surroundings.holding field) := by
  constructor
  · intro hnone
    by_contra hall
    obtain ⟨config, hconfig⟩ := exists_get_eq (not_exists_not.1 hall)
    have hsome := (load?_eq_some_iff_holding h).2 fun field ↦
      ⟨not_exists_not.1 hall field, hconfig field⟩
    rw [hnone] at hsome
    cases hsome
  · rintro ⟨field, hwrong⟩
    refine Option.eq_none_iff_forall_ne_some.2 fun config hsome ↦ ?_
    exact hwrong ((load?_eq_some_iff_holding h).1 hsome field).1

/-- The configuration has the winning settings as its fields, all of the right types. -/
theorem load?_eq_some_iff (h : surroundings.Regular) :
    surroundings.load? = some config ↔
      ∀ field source setting, surroundings.Wins field source setting →
        field.Takes setting ∧ config.get field = setting := by
  rw [load?_eq_some_iff_holding h]
  constructor
  · intro hholding field source setting hwins
    rw [hwins.eq_holding]
    exact hholding field
  · intro hwinning field
    obtain ⟨source, hwins⟩ := surroundings.exists_wins field
    exact hwinning field source _ hwins

/-- It is an error exactly if a winning setting is of the wrong type. -/
theorem load?_eq_none_iff (h : surroundings.Regular) :
    surroundings.load? = none ↔
      ∃ field source setting, surroundings.Wins field source setting ∧ ¬field.Takes setting := by
  rw [load?_eq_none_iff_holding h]
  constructor
  · rintro ⟨field, hwrong⟩
    obtain ⟨source, hwins⟩ := surroundings.exists_wins field
    exact ⟨field, source, _, hwins, hwrong⟩
  · rintro ⟨field, source, setting, hwins, hwrong⟩
    exact ⟨field, hwins.eq_holding ▸ hwrong⟩

/-- Surroundings with the same winning settings give the same. -/
theorem load?_congr (h : surroundings.Regular) (hother : other.Regular)
    (hsame : ∀ field, ∃ source setting,
      surroundings.Wins field source setting ∧ other.Wins field source setting) :
    surroundings.load? = other.load? := by
  have hholding (field : Field) : surroundings.holding field = other.holding field := by
    obtain ⟨source, setting, hwins, hwins'⟩ := hsame field
    rw [← hwins.eq_holding, ← hwins'.eq_holding]
  apply Option.ext
  intro config
  simp only [load?_eq_some_iff_holding h, load?_eq_some_iff_holding hother, hholding]

end Surroundings

/-- Each field has one winning source and setting. The configuration has the winning settings as its
fields; it is an error exactly if one of them is of the wrong type. Surroundings in which the same
sources win with the same settings give the same, whatever their lower sources set. -/
theorem load?_by_winning_settings (surroundings : Surroundings) (h : surroundings.Regular) :
    (∀ field, ∃! winner : Source × Setting, surroundings.Wins field winner.1 winner.2) ∧
      (∀ config : Config, surroundings.load? = some config ↔
        ∀ field source setting, surroundings.Wins field source setting →
          field.Takes setting ∧ config.get field = setting) ∧
      (surroundings.load? = none ↔
        ∃ field source setting, surroundings.Wins field source setting ∧ ¬field.Takes setting) ∧
      ∀ other : Surroundings, other.Regular →
        (∀ field, ∃ source setting,
          surroundings.Wins field source setting ∧ other.Wins field source setting) →
        surroundings.load? = other.load? :=
  ⟨surroundings.existsUnique_wins, fun _ ↦ Surroundings.load?_eq_some_iff h,
    Surroundings.load?_eq_none_iff h, fun _ ↦ Surroundings.load?_congr h⟩

/-- A limit in the file that is no number does nothing below the variable of the limit, and the time
zone of the machine nothing below that of the file. -/
theorem load?_by_winning_settings_hidden_limit :
    let environment := [("Cadence_Search_Limit", "7"), ("TODO_DBFILE", "legacy.db")]
    let covered : Surroundings :=
      { environment, zoneFile := some "Etc/UTC\n",
        file := some "search_limit = true\ntimezone = \"Asia/Tokyo\"\n" }
    let alone : Surroundings := { environment, file := some "timezone = \"Asia/Tokyo\"" }
    covered.Regular ∧ alone.Regular ∧ covered.load? = alone.load? ∧
      covered.load? = some ⟨"legacy.db", "Asia/Tokyo", 7⟩ ∧
      Surroundings.load? { covered with file := none } = some ⟨"legacy.db", "Etc/UTC", 7⟩ := by
  intro environment covered alone
  have hnamed : ∀ entry ∈ environment, isPrefixed entry.1 = true →
      ∃ field, isNameOf field entry.1 = true := by
    intro entry hentry hprefixed
    rcases List.mem_cons.1 hentry with rfl | hentry
    · exact ⟨.searchLimit, by decide +kernel⟩
    · obtain rfl := List.mem_singleton.1 hentry
      exact absurd hprefixed (by decide +kernel)
  have hcovered : covered.Regular := ⟨by decide +kernel, hnamed⟩
  have halone : alone.Regular := ⟨by decide +kernel, hnamed⟩
  obtain ⟨_, _, _, hsame⟩ := load?_by_winning_settings covered hcovered
  refine ⟨hcovered, halone, hsame alone halone fun field ↦ ?_, ?_, ?_⟩
  · cases field with
    | databasePath => exact ⟨.databaseVariable, .text "legacy.db", by decide +kernel⟩
    | timezone => exact ⟨.file, .text "Asia/Tokyo", by decide +kernel⟩
    | searchLimit => exact ⟨.ownVariable, .integer 7, by decide +kernel⟩
  · decide +kernel
  · decide +kernel

end Config

end Agenda
