import AuditTrail.Config.Basic
import AuditTrail.Proofs.OneByOne
import AuditTrail.Proofs.Text.Separated

/-!
# Settings on top of each other

* `Setting`: one of the ten settings, and `Setting.value` what it is; `Setting.ext_value` says that
  there are no others.
* `StorageKind.NamedBy`, `LogFormat.NamedBy`, `Config.SpeltBy`, `Config.ListedBy`: what a text
  stands for, and that it is read so. `Setting.GivenBy` is that for the variable of each setting.
* `Overlay`: what a file (`Overlay.ofFile`) or the environment (`Overlay.ofEnvironment`) gives for
  each setting. `Overlay.Puts` says that settings are other ones with an overlay on top.
* `Config.merge_eq_ok_iff`, `Config.override_eq_ok_iff`: to merge a file, or to override by the
  environment, is to put on what it gives.
* `Config.Misnamed`, `Config.Misset`: what cannot be put on.
* `Config.OnTop`, `Config.override_merge`: a file and the environment on top of settings, setting by
  setting.
-/

namespace AuditTrail

/-! ## What texts stand for -/

/-- The names of a kind of storage. -/
def StorageKind.names : StorageKind → List String
  | .memory => ["memory", "mem"]
  | .sqlite => ["sqlite"]
  | .postgres => ["postgres", "postgresql", "pg"]

/-- The names of a format. -/
def LogFormat.names : LogFormat → List String
  | .pretty => ["pretty", "text"]
  | .json => ["json"]

/-- The text is one of the names, in any case and with white space around it. -/
def Text.IsOneOf (names : List String) (s : String) : Prop :=
  ∃ word, Trims s.toList word ∧ lowerCase (String.ofList word) ∈ names

theorem Text.isOneOf_iff {names : List String} {s : String} :
    IsOneOf names s ↔ lowerCase (trim s) ∈ names := by
  simp only [IsOneOf, ← trimChars_eq_iff, exists_eq_left']
  rfl

/-- The text is a name of the kind of storage. -/
def StorageKind.NamedBy (s : String) (kind : StorageKind) : Prop := Text.IsOneOf kind.names s

/-- The text is a name of the format. -/
def LogFormat.NamedBy (s : String) (format : LogFormat) : Prop := Text.IsOneOf format.names s

/-- The text spells the number, which has 64 bits, with white space around it. -/
def Config.SpeltBy (s : String) (n : Nat) : Prop :=
  ∃ word, Text.Trims s.toList word ∧ Text.NaturalSpeltBy Text.maxUnsigned n word

/-- The texts stand between the commas of the text, with white space around them; where nothing
else stands, there is none. -/
def Config.ListedBy (s : String) (texts : List String) : Prop :=
  ∃ words, List.Forall₂ Text.Trims (s.toList.splitOn ',') words ∧
    texts = (words.map String.ofList).filter (· ≠ "")

theorem StorageKind.parse_eq_ok_iff {s : String} {kind : StorageKind} :
    parse s = .ok kind ↔ NamedBy s kind := by
  have hword : ∀ word, ofWord? word = some kind ↔ word ∈ kind.names := fun word => by
    unfold ofWord?
    split_ifs with hmemory hsqlite hpostgres
    · rcases hmemory with rfl | rfl <;> cases kind <;> decide
    · obtain rfl := hsqlite
      cases kind <;> decide
    · rcases hpostgres with rfl | rfl | rfl <;> cases kind <;> decide
    · cases kind <;> simp_all [names]
  rw [NamedBy, Text.isOneOf_iff, ← hword, parse]
  cases ofWord? (Text.lowerCase (Text.trim s)) <;> simp

theorem LogFormat.parse_eq_ok_iff {s : String} {format : LogFormat} :
    parse s = .ok format ↔ NamedBy s format := by
  have hword : ∀ word, ofWord? word = some format ↔ word ∈ format.names := fun word => by
    unfold ofWord?
    split_ifs with hpretty hjson
    · rcases hpretty with rfl | rfl <;> cases format <;> decide
    · obtain rfl := hjson
      cases format <;> decide
    · cases format <;> simp_all [names]
  rw [NamedBy, Text.isOneOf_iff, ← hword, parse]
  cases ofWord? (Text.lowerCase (Text.trim s)) <;> simp

namespace Config

theorem readNumber_eq_ok_iff {name s : String} {n : Nat} :
    readNumber name s = .ok n ↔ SpeltBy s n := by
  simp only [SpeltBy, ← Text.trimChars_eq_iff, exists_eq_left']
  rw [readNumber, mapError_eq_ok, Text.readNatural_eq_ok_iff]

theorem listed_eq_iff {s : String} {texts : List String} :
    listed s = texts ↔ ListedBy s texts := by
  have hwords : ∀ words, List.Forall₂ Text.Trims (s.toList.splitOn ',') words ↔
      (s.toList.splitOn ',').map Text.trimChars = words := fun words => by
    rw [← List.forall₂_eq_eq_eq, List.forall₂_map_left_iff]
    simp only [Text.trimChars_eq_iff]
  simp only [ListedBy, hwords, exists_eq_left']
  rw [listed, Text.splitAll_eq_splitOn, List.map_map, eq_comm]
  rfl

end Config

/-! ## The settings one by one -/

/-- One of the settings. -/
inductive Setting
  | kind
  | sqlitePath
  | postgresUrl
  | table
  | poolSize
  | logLevel
  | logFormat
  | logFile
  | pageSize
  | contentTypes
  deriving DecidableEq, Repr

namespace Setting

/-- The values that a setting can have. -/
def Value : Setting → Type
  | kind => StorageKind
  | sqlitePath | table | logLevel => String
  | postgresUrl | logFile => Option String
  | poolSize => Option Nat
  | logFormat => LogFormat
  | pageSize => Nat
  | contentTypes => List String

/-- The value of a setting. -/
def value (c : Config) : (k : Setting) → k.Value
  | kind => c.storage.kind
  | sqlitePath => c.storage.sqlitePath
  | postgresUrl => c.storage.postgresUrl
  | table => c.storage.table
  | poolSize => c.storage.poolSize
  | logLevel => c.log.level
  | logFormat => c.log.format
  | logFile => c.log.file
  | pageSize => c.pageSize
  | contentTypes => c.contentTypes

/-- All settings, from the values of the ten. -/
def make (v : (k : Setting) → k.Value) : Config where
  storage := ⟨v kind, v sqlitePath, v postgresUrl, v table, v poolSize⟩
  log := ⟨v logLevel, v logFormat, v logFile⟩
  pageSize := v pageSize
  contentTypes := v contentTypes

@[simp] theorem value_make (v : (k : Setting) → k.Value) (k : Setting) :
    value (make v) k = v k := by
  cases k <;> rfl

/-- Settings are the same if each of the ten is. -/
theorem ext_value {c c' : Config} (h : ∀ k, value c k = value c' k) : c = c' :=
  congrArg make (funext h)

/-- The variable of the environment that gives a setting. -/
def variableName : Setting → String
  | kind => "AUDITLOG_STORAGE_BACKEND"
  | sqlitePath => "AUDITLOG_SQLITE_PATH"
  | postgresUrl => "AUDITLOG_POSTGRES_URL"
  | table => "AUDITLOG_TABLE"
  | poolSize => "AUDITLOG_POOL_MAX_SIZE"
  | logLevel => "AUDITLOG_LOG_LEVEL"
  | logFormat => "AUDITLOG_LOG_FORMAT"
  | logFile => "AUDITLOG_LOG_FILE"
  | pageSize => "AUDITLOG_PAGE_SIZE"
  | contentTypes => "AUDITLOG_CONTENT_TYPES"

/-- The value that the text of the variable stands for. -/
def GivenBy (s : String) : (k : Setting) → k.Value → Prop
  | kind => StorageKind.NamedBy s
  | sqlitePath | table | logLevel => Eq s
  | postgresUrl | logFile => Eq (some s)
  | poolSize => fun v => ∃ n, Config.SpeltBy s n ∧ some n = v
  | logFormat => LogFormat.NamedBy s
  | pageSize => Config.SpeltBy s
  | contentTypes => Config.ListedBy s

end Setting

/-! ## Overlays -/

/-- What is given for each setting: nothing, or something that stands for a value or for none. -/
abbrev Overlay : Type := (k : Setting) → Option (k.Value → Prop)

namespace Overlay

open Setting

/-- What a file gives. A section that is not there gives nothing. -/
def ofFile (layer : ConfigLayer) : Overlay
  | kind => (layer.storage.bind (·.kind)).map StorageKind.NamedBy
  | sqlitePath => (layer.storage.bind (·.sqlitePath)).map Eq
  | postgresUrl => (layer.storage.bind (·.postgresUrl)).map fun s => Eq (some s)
  | table => (layer.storage.bind (·.table)).map Eq
  | poolSize => (layer.storage.bind (·.poolSize)).map fun n => Eq (some n)
  | logLevel => (layer.log.bind (·.level)).map Eq
  | logFormat => (layer.log.bind (·.format)).map LogFormat.NamedBy
  | logFile => (layer.log.bind (·.file)).map fun s => Eq (some s)
  | pageSize => layer.pageSize.map Eq
  | contentTypes => layer.contentTypes.map Eq

/-- What the environment gives: the variables that do not hold white space only. -/
def ofEnvironment (lookup : String → Option String) : Overlay := fun k =>
  ((lookup k.variableName).filter fun s => s.toList.any fun c => !Text.isBlank c).map
    fun s => GivenBy s k

/-- The first overlay where it gives something, else the second. -/
def above (o p : Overlay) : Overlay := fun k => o k <|> p k

/-- Everything that is given stands for a value. -/
def IsSound (o : Overlay) : Prop := ∀ k given, o k = some given → ∃ v, given v

/-- The second settings are what is given, and as the first where nothing is. -/
def Puts (o : Overlay) (c c' : Config) : Prop :=
  ∀ k, (o k).elim (value c k = value c' k) fun given => given (value c' k)

variable {o p : Overlay} {c c' c'' : Config}

theorem IsSound.exists_value (h : o.IsSound) (k : Setting) :
    ∃ v, (o k).elim (value c k = v) fun given => given v := by
  cases hk : o k with
  | none => exact ⟨_, rfl⟩
  | some given => exact h k given hk

/-- An overlay can be put on settings if everything that it gives stands for a value. -/
theorem exists_puts_iff : (∃ c', o.Puts c c') ↔ o.IsSound := by
  constructor
  · rintro ⟨c', h⟩ k given hk
    have := h k
    rw [hk] at this
    exact ⟨_, this⟩
  · intro h
    choose v hv using h.exists_value (c := c)
    exact ⟨make v, fun k => by rw [value_make]; exact hv k⟩

/-- To put an overlay on settings twice is to put it on them once. -/
theorem Puts.again (h : o.Puts c c') : o.Puts c' c' := by
  intro k
  have := h k
  cases hk : o k with
  | none => exact rfl
  | some given => simpa [hk] using this

theorem IsSound.above (ho : o.IsSound) (hp : p.IsSound) : (p.above o).IsSound := by
  intro k given hk
  rw [Overlay.above] at hk
  cases h : p k with
  | none => exact ho k given (by simpa [h] using hk)
  | some _ => exact hp k given (by simpa [h] using hk)

/-- To put on one overlay after the other is to put on both as one. -/
theorem exists_puts_puts_iff :
    (∃ c', o.Puts c c' ∧ p.Puts c' c'') ↔ (o.IsSound ∧ p.IsSound) ∧ (p.above o).Puts c c'' := by
  constructor
  · rintro ⟨c', ho, hp⟩
    refine ⟨⟨exists_puts_iff.1 ⟨c', ho⟩, exists_puts_iff.1 ⟨c'', hp⟩⟩, fun k => ?_⟩
    have ho := ho k
    have hp := hp k
    rw [above]
    cases hk : p k with
    | none =>
      rw [hk] at hp
      rwa [show value c' k = value c'' k from hp] at ho
    | some given => rwa [hk] at hp
  · rintro ⟨⟨ho, -⟩, h⟩
    have hvalue : ∀ k, ∃ v, ((o k).elim (value c k = v) fun given => given v) ∧
        (p k).elim (v = value c'' k) fun given => given (value c'' k) := fun k => by
      have hk := h k
      rw [above] at hk
      cases hp : p k with
      | none => exact ⟨_, by rwa [hp] at hk, rfl⟩
      | some given =>
        -- What is beneath does not count, but has to stand for a value.
        obtain ⟨v, hv⟩ := ho.exists_value (c := c) k
        exact ⟨v, hv, by rwa [hp] at hk⟩
    choose v ho hp using hvalue
    exact ⟨make v, fun k => by rw [value_make]; exact ho k, fun k => by rw [value_make]; exact hp k⟩

/-! ## Files and the environment as overlays -/

/-- A section that is not there gives what an empty one does. -/
theorem ofFile_getD (layer : ConfigLayer) :
    ofFile { layer with
      storage := some (layer.storage.getD .empty)
      log := some (layer.log.getD .empty) } = ofFile layer := by
  obtain ⟨_ | storage, _ | log, pageSize, contentTypes⟩ := layer <;>
    exact funext fun k => by cases k <;> rfl

theorem elim_map_eq {α : Type} {new : Option α} {old v : α} :
    ((new.map Eq).elim (old = v) fun given => given v) ↔ new.getD old = v := by
  cases new <;> rfl

theorem elim_map_eq_some {α : Type} {new old v : Option α} :
    ((new.map fun s => Eq (some s)).elim (old = v) fun given => given v) ↔
      (new <|> old) = v := by
  cases new <;> rfl

end Overlay

namespace Config

open Setting Overlay

variable {c c' : Config} {layer : ConfigLayer} {lookup : String → Option String}

/-- A setting that is read is what its text stands for, or what it was. -/
theorem readSetting_eq_ok_iff {α : Type} {read : String → Except Error α}
    {stands : String → α → Prop} (h : ∀ {s v}, read s = .ok v ↔ stands s v) {old v : α}
    {text : Option String} :
    readSetting read old text = .ok v ↔ (text.map stands).elim (old = v) fun given => given v := by
  cases text with
  | none => simp [readSetting]
  | some s => exact h

/-- To merge a file is to put on what it gives. -/
theorem merge_eq_ok_iff : c.merge layer = .ok c' ↔ (ofFile layer).Puts c c' := by
  simp only [merge, bind_eq_ok, readSetting_eq_ok_iff StorageKind.parse_eq_ok_iff,
    readSetting_eq_ok_iff LogFormat.parse_eq_ok_iff, pure, Except.pure, Except.ok.injEq]
  rw [← ofFile_getD]
  constructor
  · rintro ⟨kind, hkind, format, hformat, rfl⟩ k
    cases k with
    | kind => exact hkind
    | logFormat => exact hformat
    | sqlitePath | table | logLevel | pageSize | contentTypes => exact elim_map_eq.2 rfl
    | postgresUrl | poolSize | logFile => exact elim_map_eq_some.2 rfl
  · intro h
    refine ⟨_, h .kind, _, h .logFormat, ext_value fun k => ?_⟩
    cases k with
    | kind | logFormat => rfl
    | sqlitePath | table | logLevel | pageSize | contentTypes => exact elim_map_eq.1 (h _)
    | postgresUrl => exact elim_map_eq_some.1 (h .postgresUrl)
    | poolSize => exact elim_map_eq_some.1 (h .poolSize)
    | logFile => exact elim_map_eq_some.1 (h .logFile)

theorem given_eq (name : String) : given lookup name =
    (lookup name).filter fun s => s.toList.any fun c => !Text.isBlank c := by
  simp only [given, Text.isAllBlank, List.not_all_eq_any_not]

theorem map_readNumber_eq_ok_iff {name s : String} {v : Option Nat} :
    (readNumber name s).map some = .ok v ↔ ∃ n, SpeltBy s n ∧ some n = v := by
  simp only [← @readNumber_eq_ok_iff name]
  cases readNumber name s <;> simp [Except.map]

theorem elim_map_listed {text : Option String} {old v : List String} :
    ((text.map ListedBy).elim (old = v) fun given => given v) ↔
      (text.map listed).getD old = v := by
  cases text with
  | none => rfl
  | some s => exact listed_eq_iff.symm

/-- To override settings by the environment is to put on what it gives. -/
theorem override_eq_ok_iff : c.override lookup = .ok c' ↔ (ofEnvironment lookup).Puts c c' := by
  simp only [override, Config.variableName, String.reduceAppend, bind_eq_ok, given_eq,
    readSetting_eq_ok_iff StorageKind.parse_eq_ok_iff,
    readSetting_eq_ok_iff LogFormat.parse_eq_ok_iff, readSetting_eq_ok_iff readNumber_eq_ok_iff,
    readSetting_eq_ok_iff map_readNumber_eq_ok_iff, pure, Except.pure, Except.ok.injEq]
  constructor
  · rintro ⟨kind, hkind, poolSize, hpool, format, hformat, pageSize, hpage, rfl⟩ k
    cases k with
    | kind => exact hkind
    | poolSize => exact hpool
    | logFormat => exact hformat
    | pageSize => exact hpage
    | sqlitePath | table | logLevel => exact elim_map_eq.2 rfl
    | postgresUrl | logFile => exact elim_map_eq_some.2 rfl
    | contentTypes => exact elim_map_listed.2 rfl
  · intro h
    refine ⟨_, h .kind, _, h .poolSize, _, h .logFormat, _, h .pageSize, ext_value fun k => ?_⟩
    cases k with
    | kind | poolSize | logFormat | pageSize => rfl
    | sqlitePath | table | logLevel => exact elim_map_eq.1 (h _)
    | postgresUrl => exact elim_map_eq_some.1 (h .postgresUrl)
    | logFile => exact elim_map_eq_some.1 (h .logFile)
    | contentTypes => exact elim_map_listed.1 (h .contentTypes)

/-! ## What cannot be put on -/

/-- The file names a kind of storage or a format that does not exist. -/
def Misnamed (layer : ConfigLayer) : Prop :=
  (∃ storage s, layer.storage = some storage ∧ storage.kind = some s ∧
    ¬ ∃ kind, StorageKind.NamedBy s kind) ∨
    ∃ log s, layer.log = some log ∧ log.format = some s ∧ ¬ ∃ format, LogFormat.NamedBy s format

/-- The variable is set to the text, which is not blank. -/
def Sets (lookup : String → Option String) (name s : String) : Prop :=
  lookup name = some s ∧ ∃ c ∈ s.toList, Text.isBlank c = false

/-- One of the four variables whose texts have to stand for something is set to one that stands for
nothing. -/
def Misset (lookup : String → Option String) : Prop :=
  (∃ s, Sets lookup "AUDITLOG_STORAGE_BACKEND" s ∧ ¬ ∃ kind, StorageKind.NamedBy s kind) ∨
    (∃ s, Sets lookup "AUDITLOG_LOG_FORMAT" s ∧ ¬ ∃ format, LogFormat.NamedBy s format) ∨
      (∃ s, Sets lookup "AUDITLOG_POOL_MAX_SIZE" s ∧ ¬ ∃ n, SpeltBy s n) ∨
        ∃ s, Sets lookup "AUDITLOG_PAGE_SIZE" s ∧ ¬ ∃ n, SpeltBy s n

theorem misnamed_iff : Misnamed layer ↔ ∃ k given, ofFile layer k = some given ∧ ¬ ∃ v, given v := by
  constructor
  · rintro (⟨storage, s, hstorage, hs, hname⟩ | ⟨log, s, hlog, hs, hname⟩)
    · refine ⟨kind, StorageKind.NamedBy s, ?_, hname⟩
      rw [ofFile, hstorage, Option.bind_some, hs]
      rfl
    · refine ⟨logFormat, LogFormat.NamedBy s, ?_, hname⟩
      rw [ofFile, hlog, Option.bind_some, hs]
      rfl
  · rintro ⟨k, given, hk, hnone⟩
    cases k with
    | kind =>
      obtain ⟨s, hs, rfl⟩ := Option.map_eq_some_iff.1 hk
      obtain ⟨storage, hstorage, hs⟩ := Option.bind_eq_some_iff.1 hs
      exact .inl ⟨storage, s, hstorage, hs, hnone⟩
    | logFormat =>
      obtain ⟨s, hs, rfl⟩ := Option.map_eq_some_iff.1 hk
      obtain ⟨log, hlog, hs⟩ := Option.bind_eq_some_iff.1 hs
      exact .inr ⟨log, s, hlog, hs, hnone⟩
    | _ =>
      obtain ⟨_, _, rfl⟩ := Option.map_eq_some_iff.1 hk
      exact absurd ⟨_, rfl⟩ hnone

theorem ofEnvironment_eq_some_iff {k : Setting} {given : k.Value → Prop} :
    ofEnvironment lookup k = some given ↔
      ∃ s, Sets lookup k.variableName s ∧ GivenBy s k = given := by
  simp [ofEnvironment, Sets, Option.filter_eq_some_iff, and_assoc]

theorem misset_iff :
    Misset lookup ↔ ∃ k given, ofEnvironment lookup k = some given ∧ ¬ ∃ v, given v := by
  have hnumber : ∀ {s}, (∃ n, SpeltBy s n) ↔ ∃ v, GivenBy s poolSize v :=
    ⟨fun ⟨n, hn⟩ => ⟨some n, n, hn, rfl⟩, fun ⟨_, n, hn, _⟩ => ⟨n, hn⟩⟩
  simp only [ofEnvironment_eq_some_iff]
  constructor
  · rintro (⟨s, hs, hnone⟩ | ⟨s, hs, hnone⟩ | ⟨s, hs, hnone⟩ | ⟨s, hs, hnone⟩)
    · exact ⟨kind, _, ⟨s, hs, rfl⟩, hnone⟩
    · exact ⟨logFormat, _, ⟨s, hs, rfl⟩, hnone⟩
    · exact ⟨poolSize, _, ⟨s, hs, rfl⟩, mt hnumber.2 hnone⟩
    · exact ⟨.pageSize, _, ⟨s, hs, rfl⟩, hnone⟩
  · rintro ⟨k, _, ⟨s, hs, rfl⟩, hnone⟩
    cases k with
    | kind => exact .inl ⟨s, hs, hnone⟩
    | logFormat => exact .inr (.inl ⟨s, hs, hnone⟩)
    | poolSize => exact .inr (.inr (.inl ⟨s, hs, mt hnumber.1 hnone⟩))
    | pageSize => exact .inr (.inr (.inr ⟨s, hs, hnone⟩))
    | contentTypes => exact absurd ⟨_, listed_eq_iff.1 rfl⟩ hnone
    | _ => exact absurd ⟨_, rfl⟩ hnone

/-! ## A file and the environment -/

/-- A file and the environment on top of settings. -/
structure OnTop (c : Config) (layer : ConfigLayer) (lookup : String → Option String) : Prop where
  /-- They fail exactly if something that is given stands for nothing. -/
  fails_iff : (∃ err, (c.merge layer >>= fun c => c.override lookup) = .error err) ↔
    Misnamed layer ∨ Misset lookup
  /-- Otherwise each setting is what the environment gives, else what the file gives, else what it
  was before. -/
  eq_ok_iff : ∀ c', (c.merge layer >>= fun c => c.override lookup) = .ok c' ↔
    ¬ (Misnamed layer ∨ Misset lookup) ∧ ((ofEnvironment lookup).above (ofFile layer)).Puts c c'
  /-- To merge the file once more changes nothing. -/
  merge_again : (c.merge layer >>= fun c => c.merge layer) = c.merge layer
  /-- To override by the environment once more changes nothing. -/
  override_again : (c.override lookup >>= fun c => c.override lookup) = c.override lookup

theorem exists_error_iff {α : Type} {x : Except Error α} :
    (∃ err, x = .error err) ↔ ¬ ∃ a, x = .ok a := by
  cases x <;> simp

/-- A step that changes nothing after itself can as well be done once. -/
theorem bind_self {f : Config → Except Error Config} (h : ∀ {c c'}, f c = .ok c' → f c' = .ok c')
    (c : Config) : (f c >>= f) = f c := by
  cases hf : f c with
  | error err => rfl
  | ok c' => exact h hf

theorem isSound_iff {o : Overlay} :
    o.IsSound ↔ ¬ ∃ k given, o k = some given ∧ ¬ ∃ v, given v := by
  simp [IsSound]

/-- Settings are overridden one by one, by a file and then by the environment. -/
theorem override_merge (c : Config) (layer : ConfigLayer) (lookup : String → Option String) :
    OnTop c layer lookup := by
  have hsound : ¬ (Misnamed layer ∨ Misset lookup) ↔
      (ofFile layer).IsSound ∧ (ofEnvironment lookup).IsSound := by
    rw [not_or, misnamed_iff, misset_iff, isSound_iff, isSound_iff]
  have hok : ∀ c', (c.merge layer >>= fun c => c.override lookup) = .ok c' ↔
      ¬ (Misnamed layer ∨ Misset lookup) ∧
        ((ofEnvironment lookup).above (ofFile layer)).Puts c c' := fun c' => by
    simp only [bind_eq_ok, merge_eq_ok_iff, override_eq_ok_iff]
    rw [exists_puts_puts_iff, hsound]
  refine ⟨?_, hok, ?_, ?_⟩
  · rw [exists_error_iff, not_iff_comm]
    simp only [hok, exists_and_left, iff_self_and]
    intro h
    obtain ⟨hfile, henvironment⟩ := hsound.1 h
    exact exists_puts_iff.2 (hfile.above henvironment)
  · exact bind_self (fun h => merge_eq_ok_iff.2 (merge_eq_ok_iff.1 h).again) c
  · exact bind_self (fun h => override_eq_ok_iff.2 (override_eq_ok_iff.1 h).again) c

/-- The kind of storage, the page size and the types are those of the environment. The table is that
of the file, since its variable is blank, and what neither gives stays. -/
theorem override_merge_spaced :
    ((initial "audit.db").merge
        ⟨some ⟨some " SQLite ", some "file.db", none, some "events", none⟩, none, some 7, none⟩ >>=
      fun c => c.override fun name => [("AUDITLOG_STORAGE_BACKEND", "PG "),
        ("AUDITLOG_TABLE", " \t"), ("AUDITLOG_PAGE_SIZE", " +30 "),
        ("AUDITLOG_CONTENT_TYPES", " a.B ,, c.D")].lookup name) =
      .ok ⟨⟨.postgres, "file.db", none, "events", none⟩, ⟨"info", .pretty, none⟩, 30,
        ["a.B", "c.D"]⟩ := by
  have hfile : StorageKind.NamedBy " SQLite " .sqlite := StorageKind.parse_eq_ok_iff.1 (by decide)
  have hkind : StorageKind.NamedBy "PG " .postgres := StorageKind.parse_eq_ok_iff.1 (by decide)
  have hpage : SpeltBy " +30 " 30 := (@readNumber_eq_ok_iff "").1 (by decide)
  have hlisted : ListedBy " a.B ,, c.D" ["a.B", "c.D"] := listed_eq_iff.1 (by decide)
  have htexts : ∀ k : Setting, (([("AUDITLOG_STORAGE_BACKEND", "PG "), ("AUDITLOG_TABLE", " \t"),
      ("AUDITLOG_PAGE_SIZE", " +30 "), ("AUDITLOG_CONTENT_TYPES", " a.B ,, c.D")].lookup
        k.variableName).filter fun s => s.toList.any fun c => !Text.isBlank c) =
      match k with
      | .kind => some "PG "
      | .pageSize => some " +30 "
      | .contentTypes => some " a.B ,, c.D"
      | _ => none := fun k => by cases k <;> decide
  refine ((override_merge _ _ _).eq_ok_iff _).2 ⟨?_, fun k => ?_⟩
  · rintro ((⟨_, _, ⟨⟩, ⟨⟩, hnone⟩ | ⟨_, _, hlog, _⟩) |
      ⟨s, hs, hnone⟩ | ⟨s, hs, _⟩ | ⟨s, hs, _⟩ | ⟨s, hs, hnone⟩)
    · exact hnone ⟨_, hfile⟩
    · cases hlog
    · obtain rfl : "PG " = s := Option.some.inj hs.1
      exact hnone ⟨_, hkind⟩
    · cases hs.1
    · cases hs.1
    · obtain rfl : " +30 " = s := Option.some.inj hs.1
      exact hnone ⟨_, hpage⟩
  · rw [Overlay.above, ofEnvironment, htexts]
    cases k with
    | kind => exact hkind
    | pageSize => exact hpage
    | contentTypes => exact hlisted
    | _ => rfl

end Config

end AuditTrail
