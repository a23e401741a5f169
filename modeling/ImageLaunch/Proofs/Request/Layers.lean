import Mathlib
import ImageLaunch.Request
import ImageLaunch.Proofs.Config.Schema
import ImageLaunch.Proofs.Text.Utf8

/-!
# ImageLaunch.Proofs.Request.Layers

Which layer a setting of a launch comes from: the command line, a variable, or the configuration
file that one of the two names.

The layers are stated as relations, one rule for each row of the table in `ImageLaunch.Request`:
`Chosen` for a setting that the command line or a variable gives, `Configured` and `Unusable` for
the file, `ChosenEngine` and `ChosenVerbosity` for what is put together.  What a file configures is
what its document conforms to (`Config.Conforms`).  `resolve_layers` says that resolving follows
these rules, and what it does not depend on.
-/

namespace ImageLaunch

/-! ## Names of verbosities -/

namespace Log.Verbosity

/-- The text is the verbosity's name, each letter large or small. -/
def NamedBy (verbosity : Verbosity) (text : String) : Prop :=
  List.Forall₂ (fun c letter => c = letter ∨ c = letter.toLower) text.toList
    verbosity.name.toList

theorem toUpper_eq_iff {c letter : Char} (h : letter.toUpper = letter) :
    c.toUpper = letter ↔ c = letter ∨ c = letter.toLower := by
  constructor
  · rintro rfl
    by_cases hlower : c.isLower
    · right
      rw [Char.toLower_toUpper_eq_toLower,
        Char.toLower_eq_of_not_isUpper (Char.not_isUpper_of_isLower hlower)]
    · left
      exact (Char.toUpper_eq_of_not_isLower hlower).symm
  · rintro (rfl | rfl)
    · exact h
    · rw [Char.toUpper_toLower_eq_toUpper, h]

/-- Large letters make up a name, and no two verbosities share one. -/
theorem name_toUpper (verbosity : Verbosity) :
    ∀ letter ∈ verbosity.name.toList, letter.toUpper = letter := by
  cases verbosity <;> simp [name]

theorem name_injective : ∀ verbosity ∈ all, ∀ other ∈ all,
    verbosity.name.toList = other.name.toList → verbosity = other := by
  decide

theorem mem_all (verbosity : Verbosity) : verbosity ∈ all := by
  cases verbosity <;> decide

/-- Letter by letter over a name made of large letters. -/
theorem forall₂_letter_iff {name : List Char} (h : ∀ letter ∈ name, letter.toUpper = letter)
    (chars : List Char) :
    List.Forall₂ (fun c letter => c = letter ∨ c = letter.toLower) chars name ↔
      chars.map Char.toUpper = name := by
  induction chars generalizing name with
  | nil => cases name <;> simp
  | cons c chars ih =>
      cases name with
      | nil => simp
      | cons letter name =>
          obtain ⟨hletter, hname⟩ := List.forall_mem_cons.mp h
          rw [List.forall₂_cons, List.map_cons, List.cons.injEq, toUpper_eq_iff hletter, ih hname]

theorem namedBy_iff {verbosity : Verbosity} {text : String} :
    verbosity.NamedBy text ↔ text.toList.map Char.toUpper = verbosity.name.toList :=
  forall₂_letter_iff verbosity.name_toUpper text.toList

/-- A text is read as a verbosity exactly if it is a name of it. -/
theorem ofName?_eq_some_iff {text : String} {verbosity : Verbosity} :
    ofName? text = some verbosity ↔ verbosity.NamedBy text := by
  rw [namedBy_iff]
  constructor
  · intro h
    simpa using List.find?_some h
  · intro h
    cases hfound : ofName? text with
    | none =>
        have hnone := List.find?_eq_none.mp hfound verbosity verbosity.mem_all
        simp [h] at hnone
    | some other =>
        have hother : text.toList.map Char.toUpper = other.name.toList := by
          simpa using List.find?_some hfound
        rw [name_injective other other.mem_all verbosity verbosity.mem_all (hother.symm.trans h)]

theorem ofName?_eq_none_iff {text : String} :
    ofName? text = none ↔ ∀ verbosity : Verbosity, ¬ verbosity.NamedBy text := by
  simp only [Option.eq_none_iff_forall_ne_some, ne_eq, ofName?_eq_some_iff]

end Log.Verbosity

/-! ## Files as texts -/

namespace Files

variable {files : Files} {path : Bytes}

/-- A file reads as a text exactly if its bytes are the encoding of the text. -/
theorem text_eq_ok_iff {text : String} :
    files.text path = .ok text ↔ files.contents path = .ok (Bytes.ofString text) := by
  rw [Files.text]
  cases hcontents : files.contents path with
  | error error => simp [bind, Except.bind]
  | ok bytes =>
      simp only [bind, Except.bind, Except.ok.injEq, ← Text.Utf8.decode?_eq_some_iff]
      cases Text.Utf8.decode? bytes <;> simp

/-- A file does not read as a text if it cannot be read, or its bytes encode no text. -/
theorem text_eq_error_iff {error : IoError} :
    files.text path = .error error ↔ files.contents path = .error error ∨
      ∃ bytes, files.contents path = .ok bytes ∧ (∀ text, bytes ≠ Bytes.ofString text) ∧
        error = .notText := by
  rw [Files.text]
  cases hcontents : files.contents path with
  | error error' => simp [bind, Except.bind]
  | ok bytes =>
      simp only [bind, Except.bind, reduceCtorEq, false_or, Except.ok.injEq, exists_eq_left',
        ne_eq, ← Text.Utf8.decode?_eq_some_iff, ← Option.eq_none_iff_forall_ne_some]
      cases Text.Utf8.decode? bytes <;> simp [eq_comm]

end Files

namespace Request

/-! ## The rules -/

/-- A setting that the command line gives, or else a variable that is not empty. -/
inductive Chosen (given outside : Option Bytes) : Option Bytes → Prop
  | given {value : Bytes} (h : given = some value) : Chosen given outside (some value)
  | outside {value : Bytes} (hgiven : given = none) (h : outside = some value)
      (hfilled : value ≠ []) : Chosen given outside (some value)
  | unset (hgiven : given = none) (h : outside = none ∨ outside = some []) :
      Chosen given outside none

/-- What is wrong with a configuration file: its bytes, its syntax, a document that conforms to no
configuration, or the name of the level.  Of a document the reader's complaint is passed on. -/
inductive Unusable (files : Files) (path : Bytes) : ConfigError → Prop
  | unreadable {error : IoError} (h : files.contents path = .error error) :
      Unusable files path (.read path error)
  | notText {bytes : Bytes} (h : files.contents path = .ok bytes)
      (hbytes : ∀ text, bytes ≠ Bytes.ofString text) : Unusable files path (.read path .notText)
  | malformed {text : String} {offset : Nat}
      (h : files.contents path = .ok (Bytes.ofString text))
      (hparse : Toml.parse text = .error offset) :
      Unusable files path (.syntaxError path text offset)
  | misplaced {text : String} {document : Toml.Entries} {misplaced : Misplaced}
      (h : files.contents path = .ok (Bytes.ofString text))
      (hparse : Toml.parse text = .ok document)
      (hnone : ∀ config, ¬ Config.Conforms Config.InEither document config)
      (hread : Config.ofDocument document = .error misplaced) :
      Unusable files path (.shape path text misplaced)
  | unknownLevel {text level : String} {document : Toml.Entries} {config : Config}
      (h : files.contents path = .ok (Bytes.ofString text))
      (hparse : Toml.parse text = .ok document)
      (hconforms : Config.Conforms Config.InEither document config)
      (hlevel : config.level = some level)
      (hnone : ∀ verbosity : Log.Verbosity, ¬ verbosity.NamedBy level) :
      Unusable files path (.invalidLevel level)

/-- What a launch is configured with: nothing, or what the document in a file conforms to. -/
inductive Configured (files : Files) : Option Bytes → Config → Prop
  | without : Configured files none {}
  | file {path : Bytes} {text : String} {document : Toml.Entries} {config : Config}
      (h : files.contents path = .ok (Bytes.ofString text))
      (hparse : Toml.parse text = .ok document)
      (hconforms : Config.Conforms Config.InEither document config) :
      Configured files (some path) config

/-- The verbosity that a configuration names, if it names one. -/
inductive NamedLevel (config : Config) : Option Log.Verbosity → Prop
  | unset (h : config.level = none) : NamedLevel config none
  | named {level : String} {verbosity : Log.Verbosity} (h : config.level = some level)
      (hnamed : verbosity.NamedBy level) : NamedLevel config (some verbosity)

/-- The engine: a program from outside the configuration goes without arguments, and the
configuration's arguments go with its own program only. -/
inductive ChosenEngine (given outside : Option Bytes) (config : Config) :
    Option EngineCommand → Prop
  | program {program : Bytes} (h : Chosen given outside (some program)) :
      ChosenEngine given outside config (some ⟨program, []⟩)
  | configured {program : String} (h : Chosen given outside none)
      (hprogram : config.program = some program) :
      ChosenEngine given outside config
        (some ⟨Bytes.ofString program, config.args.map Bytes.ofString⟩)
  | unset (h : Chosen given outside none) (hprogram : config.program = none) :
      ChosenEngine given outside config none

/-- The verbosity: the flags, then the configuration, then warnings. -/
inductive ChosenVerbosity (quiet verbose : Bool) :
    Option Log.Verbosity → Log.Verbosity → Prop
  | quiet {configured : Option Log.Verbosity} (h : quiet = true) :
      ChosenVerbosity quiet verbose configured .error
  | verbose {configured : Option Log.Verbosity} (hquiet : quiet = false) (h : verbose = true) :
      ChosenVerbosity quiet verbose configured .debug
  | configured {verbosity : Log.Verbosity} (hquiet : quiet = false) (hverbose : verbose = false) :
      ChosenVerbosity quiet verbose (some verbosity) verbosity
  | default (hquiet : quiet = false) (hverbose : verbose = false) :
      ChosenVerbosity quiet verbose none .warn

/-- A request that is put together from its layers. -/
structure Resolved (arguments : CommandLine.LaunchArguments) (lookup : Lookup) (files : Files)
    (request : Request) : Prop where
  segment_eq : request.segment = arguments.segment
  passthrough_eq : request.passthrough = arguments.args
  layered : ∃ path config level,
    Chosen arguments.config (lookup "IMAGE_LAUNCHER_CONFIG") path ∧
    Configured files path config ∧ NamedLevel config level ∧
    ChosenEngine arguments.engine (lookup "IMAGE_LAUNCHER_ENGINE") config request.engine ∧
    ChosenVerbosity arguments.quiet arguments.verbose level request.verbosity

variable {arguments : CommandLine.LaunchArguments} {lookup : Lookup} {files : Files}
  {path : Bytes} {config : Config}

/-! ## Each function by its rules -/

theorem chosen_iff {given outside value : Option Bytes} :
    Chosen given outside value ↔ given.or (outside.filter fun value => !value.isEmpty) = value := by
  constructor
  · rintro (rfl | ⟨rfl, rfl, hfilled⟩ | ⟨rfl, rfl | rfl⟩)
    · rfl
    · simp [hfilled]
    · rfl
    · rfl
  · rintro rfl
    rcases given with _ | value
    · rcases outside with _ | _ | ⟨byte, value⟩
      · exact .unset rfl (.inl rfl)
      · exact .unset rfl (.inr rfl)
      · exact .outside rfl rfl (by simp)
    · exact .given rfl

theorem namedLevel_iff {level : Option Log.Verbosity} :
    NamedLevel config level ↔ config.verbosity = .ok level := by
  rw [Config.verbosity]
  constructor
  · rintro (h | ⟨h, hnamed⟩)
    · simp only [h]
    · simp only [h, Log.Verbosity.ofName?_eq_some_iff.mpr hnamed]
  · cases hlevel : config.level with
    | none =>
        rintro ⟨⟩
        exact .unset hlevel
    | some text =>
        cases hname : Log.Verbosity.ofName? text with
        | none => simp [hname]
        | some verbosity =>
            simp only [hname, Except.ok.injEq]
            rintro rfl
            exact .named hlevel (Log.Verbosity.ofName?_eq_some_iff.mp hname)

theorem verbosity_eq_error_iff {error : ConfigError} :
    config.verbosity = .error error ↔ ∃ level, config.level = some level ∧
      (∀ verbosity : Log.Verbosity, ¬ verbosity.NamedBy level) ∧ error = .invalidLevel level := by
  rw [Config.verbosity]
  cases config.level with
  | none => simp
  | some text =>
      simp only [Option.some.injEq, exists_eq_left', ← Log.Verbosity.ofName?_eq_none_iff]
      cases Log.Verbosity.ofName? text <;> simp [eq_comm]

/-- The document of a text configures what it conforms to. -/
theorem ofDocument_iff_conforms {text : String} {document : Toml.Entries}
    (hparse : Toml.parse text = .ok document) :
    Config.ofDocument document = .ok config ↔ Config.Conforms Config.InEither document config :=
  Config.ofDocument_eq_ok_iff (Toml.proper_of_parse hparse)

theorem load_eq_ok_iff :
    Config.load files path = .ok config ↔ Configured files (some path) config := by
  rw [Config.load]
  constructor
  · intro h
    cases htext : files.text path with
    | error error => simp [htext] at h
    | ok text =>
        simp only [htext, Config.parse] at h
        cases hparse : Toml.parse text with
        | error offset => simp [hparse] at h
        | ok document =>
            cases hread : Config.ofDocument document with
            | error misplaced => simp [hparse, hread, Except.mapError] at h
            | ok read =>
                simp only [hparse, hread, Except.mapError, Except.ok.injEq] at h
                exact h ▸ .file (Files.text_eq_ok_iff.mp htext) hparse
                  ((ofDocument_iff_conforms hparse).mp hread)
  · rintro (_ | ⟨h, hparse, hconforms⟩)
    have hread := (ofDocument_iff_conforms hparse).mpr hconforms
    simp only [Files.text_eq_ok_iff.mpr h, Config.parse, hparse, hread, Except.mapError]

theorem chosenEngine_iff {given outside : Option Bytes} {engine : Option EngineCommand} :
    ChosenEngine given outside config engine ↔
      chooseEngine (given.or (outside.filter fun value => !value.isEmpty)) config = engine := by
  constructor
  · rintro (h | ⟨h, hprogram⟩ | ⟨h, hprogram⟩)
    · simp only [chosen_iff.mp h, chooseEngine]
    · simp only [chosen_iff.mp h, chooseEngine, hprogram]
    · simp only [chosen_iff.mp h, chooseEngine, hprogram]
  · rintro rfl
    cases hchosen : given.or (outside.filter fun value => !value.isEmpty) with
    | some program => exact .program (chosen_iff.mpr hchosen)
    | none =>
        cases hprogram : config.program with
        | some program =>
            simp only [chooseEngine, hprogram]
            exact .configured (chosen_iff.mpr hchosen) hprogram
        | none =>
            simp only [chooseEngine, hprogram]
            exact .unset (chosen_iff.mpr hchosen) hprogram

theorem chosenVerbosity_iff {quiet verbose : Bool} {level : Option Log.Verbosity}
    {verbosity : Log.Verbosity} :
    ChosenVerbosity quiet verbose level verbosity ↔
      Log.Verbosity.choose quiet verbose level = verbosity := by
  constructor
  · rintro (rfl | ⟨rfl, rfl⟩ | ⟨rfl, rfl⟩ | ⟨rfl, rfl⟩) <;> rfl
  · rintro rfl
    cases quiet with
    | true => exact .quiet rfl
    | false =>
        cases verbose with
        | true => exact .verbose rfl rfl
        | false =>
            cases level with
            | none => exact .default rfl rfl
            | some verbosity => exact .configured rfl rfl

theorem unusable_of_load {error : ConfigError} (hload : Config.load files path = .error error) :
    Unusable files path error := by
  rw [Config.load] at hload
  cases htext : files.text path with
  | error failure =>
      obtain rfl : ConfigError.read path failure = error := by simpa [htext] using hload
      obtain h | ⟨bytes, h, hbytes, rfl⟩ := Files.text_eq_error_iff.mp htext
      · exact .unreadable h
      · exact .notText h hbytes
  | ok text =>
      have h := Files.text_eq_ok_iff.mp htext
      simp only [htext, Config.parse] at hload
      cases hparse : Toml.parse text with
      | error offset =>
          obtain rfl : ConfigError.syntaxError path text offset = error := by
            simpa [hparse] using hload
          exact .malformed h hparse
      | ok document =>
          cases hread : Config.ofDocument document with
          | ok config => simp [hparse, hread, Except.mapError] at hload
          | error misplaced =>
              obtain rfl : ConfigError.shape path text misplaced = error := by
                simpa [hparse, hread, Except.mapError] using hload
              refine .misplaced h hparse (fun config hconforms => ?_) hread
              rw [(ofDocument_iff_conforms hparse).mpr hconforms] at hread
              cases hread

/-- A file is unusable exactly if loading it fails, or else reading its level. -/
theorem unusable_iff {error : ConfigError} :
    Unusable files path error ↔
      (Config.load files path).bind Config.verbosity = .error error := by
  constructor
  · rintro (h | ⟨h, hbytes⟩ | ⟨h, hparse⟩ | ⟨h, hparse, -, hread⟩ |
      ⟨h, hparse, hconforms, hlevel, hnone⟩)
    · simp only [Config.load, Files.text_eq_error_iff.mpr (.inl h), Except.bind]
    · simp only [Config.load, Files.text_eq_error_iff.mpr (.inr ⟨_, h, hbytes, rfl⟩), Except.bind]
    · simp only [Config.load, Files.text_eq_ok_iff.mpr h, Config.parse, hparse, Except.bind]
    · simp only [Config.load, Files.text_eq_ok_iff.mpr h, Config.parse, hparse, hread,
        Except.mapError, Except.bind]
    · rw [load_eq_ok_iff.mpr (.file h hparse hconforms)]
      exact verbosity_eq_error_iff.mpr ⟨_, hlevel, hnone, rfl⟩
  · intro h
    cases hload : Config.load files path with
    | error failure =>
        obtain rfl : failure = error := by simpa [hload, Except.bind] using h
        exact unusable_of_load hload
    | ok config =>
        rw [hload] at h
        obtain ⟨level, hlevel, hnone, rfl⟩ := verbosity_eq_error_iff.mp h
        obtain _ | ⟨hcontents, hparse, hconforms⟩ := load_eq_ok_iff.mp hload
        exact .unknownLevel hcontents hparse hconforms hlevel hnone

theorem ofParts_eq_error_iff {error : ConfigError} :
    ofParts arguments config = .error error ↔ config.verbosity = .error error := by
  rw [ofParts]
  cases config.verbosity <;> simp [bind, Except.bind, pure, Except.pure]

theorem ofParts_eq_ok_iff {request : Request} :
    ofParts arguments config = .ok request ↔ ∃ level, config.verbosity = .ok level ∧
      request = ⟨arguments.segment, arguments.args, chooseEngine arguments.engine config,
        Log.Verbosity.choose arguments.quiet arguments.verbose level⟩ := by
  rw [ofParts]
  cases config.verbosity <;> simp [bind, Except.bind, pure, Except.pure, eq_comm]

theorem Chosen.unique {given outside value other : Option Bytes}
    (h : Chosen given outside value) (hother : Chosen given outside other) : value = other :=
  (chosen_iff.mp h).symm.trans (chosen_iff.mp hother)

theorem exists_chosen (given outside : Option Bytes) : ∃ value, Chosen given outside value :=
  ⟨_, chosen_iff.mpr rfl⟩

/-- With a configuration file, what is resolved is what is in the file. -/
theorem resolve_with (h : Chosen arguments.config (lookup "IMAGE_LAUNCHER_CONFIG") (some path)) :
    resolve arguments lookup files =
      (Config.load files path).bind (ofParts (fillIn arguments lookup)) := by
  have hconfig : (fillIn arguments lookup).config = some path := chosen_iff.mp h
  simp only [resolve, hconfig, bind]

theorem resolve_without (h : Chosen arguments.config (lookup "IMAGE_LAUNCHER_CONFIG") none) :
    resolve arguments lookup files = ofParts (fillIn arguments lookup) {} := by
  have hconfig : (fillIn arguments lookup).config = none := chosen_iff.mp h
  simp only [resolve, hconfig, pure_bind]

theorem resolve_eq_error_iff {error : ConfigError} :
    resolve arguments lookup files = .error error ↔ ∃ path,
      Chosen arguments.config (lookup "IMAGE_LAUNCHER_CONFIG") (some path) ∧
      Unusable files path error := by
  obtain ⟨_ | path, hpath⟩ := exists_chosen arguments.config (lookup "IMAGE_LAUNCHER_CONFIG")
  case none =>
    -- without a file there is no level that could be unknown
    rw [resolve_without hpath, ofParts_eq_error_iff]
    constructor
    · rintro ⟨⟩
    · rintro ⟨path, hpath', -⟩
      cases hpath.unique hpath'
  case some =>
    rw [resolve_with hpath]
    have hresolve : (Config.load files path).bind (ofParts (fillIn arguments lookup)) =
        .error error ↔ Unusable files path error := by
      rw [unusable_iff]
      cases Config.load files path with
      | error failure => simp only [Except.bind, Except.error.injEq]
      | ok config => exact ofParts_eq_error_iff
    rw [hresolve]
    constructor
    · exact fun h => ⟨path, hpath, h⟩
    · rintro ⟨path', hpath', h⟩
      cases hpath.unique hpath'
      exact h

theorem resolve_eq_ok_iff {request : Request} :
    resolve arguments lookup files = .ok request ↔
      Resolved arguments lookup files request := by
  obtain ⟨path, hpath⟩ := exists_chosen arguments.config (lookup "IMAGE_LAUNCHER_CONFIG")
  have hresolve : resolve arguments lookup files = .ok request ↔ ∃ config,
      Configured files path config ∧ ofParts (fillIn arguments lookup) config = .ok request := by
    cases path with
    | none =>
        rw [resolve_without hpath]
        exact ⟨fun h => ⟨{}, .without, h⟩, fun ⟨_, .without, h⟩ => h⟩
    | some path =>
        simp only [resolve_with hpath, ← load_eq_ok_iff]
        cases Config.load files path <;> simp [Except.bind]
  rw [hresolve]
  constructor
  · rintro ⟨config, hconfig, hrequest⟩
    obtain ⟨level, hlevel, rfl⟩ := ofParts_eq_ok_iff.mp hrequest
    exact ⟨rfl, rfl, path, config, level, hpath, hconfig, namedLevel_iff.mpr hlevel,
      chosenEngine_iff.mpr rfl, chosenVerbosity_iff.mpr rfl⟩
  · rintro ⟨hsegment, hpassthrough, path', config, level, hpath', hconfig, hlevel, hengine,
      hverbosity⟩
    cases hpath.unique hpath'
    refine ⟨config, hconfig, ofParts_eq_ok_iff.mpr ⟨level, namedLevel_iff.mp hlevel, ?_⟩⟩
    obtain ⟨segment, passthrough, engine, verbosity⟩ := request
    cases hsegment
    cases hpassthrough
    cases chosenEngine_iff.mp hengine
    cases chosenVerbosity_iff.mp hverbosity
    rfl

/-- Lookups that agree up to an empty variable standing for none answer alike. -/
theorem setting?_congr {other : Lookup} {name : String}
    (h : (lookup name).getD [] = (other name).getD []) :
    setting? lookup name = setting? other name := by
  have hfilter (value : Option Bytes) : value.filter (fun value => !value.isEmpty) =
      if value.getD [] = [] then none else some (value.getD []) := by
    rcases value with _ | _ | _ <;> rfl
  rw [setting?, setting?, hfilter, hfilter, h]

/-! ## The layers -/

/-- **A launch is put together from the command line, the environment and the configuration file,
in this order.**  Resolving fails exactly if a configuration file is chosen and it cannot be read
as a text, is malformed, or names no level, whatever the flags and the engine are; otherwise every
setting comes from the first layer that has it.  Of the environment only two variables count, and
an empty one is as good as none. -/
theorem resolve_layers (arguments : CommandLine.LaunchArguments) (lookup : Lookup)
    (files : Files) :
    (∀ error, resolve arguments lookup files = .error error ↔ ∃ path,
      Chosen arguments.config (lookup "IMAGE_LAUNCHER_CONFIG") (some path) ∧
      Unusable files path error) ∧
    (∀ request, resolve arguments lookup files = .ok request ↔
      Resolved arguments lookup files request) ∧
    (∀ other : CommandLine.LaunchArguments, ∀ otherLookup : Lookup,
      other.config = arguments.config →
      otherLookup "IMAGE_LAUNCHER_CONFIG" = lookup "IMAGE_LAUNCHER_CONFIG" →
      ∀ error, resolve other otherLookup files = .error error ↔
        resolve arguments lookup files = .error error) ∧
    (∀ otherLookup : Lookup,
      (∀ name ∈ ["IMAGE_LAUNCHER_ENGINE", "IMAGE_LAUNCHER_CONFIG"],
        (otherLookup name).getD [] = (lookup name).getD []) →
      resolve arguments otherLookup files = resolve arguments lookup files) := by
  refine ⟨fun error => resolve_eq_error_iff, fun request => resolve_eq_ok_iff, ?_, ?_⟩
  · intro other otherLookup hconfig hvariable error
    rw [resolve_eq_error_iff, resolve_eq_error_iff, hconfig, hvariable]
  · intro otherLookup hagree
    have hfill : fillIn arguments otherLookup = fillIn arguments lookup := by
      rw [fillIn, fillIn, setting?_congr (hagree engineVariable (by simp [engineVariable])),
        setting?_congr (hagree configVariable (by simp [configVariable]))]
    rw [resolve, resolve, hfill]

/-- A file that a variable names gives the engine, its arguments and the verbosity; a variable for
the engine that is empty makes no difference to one that is not there. -/
theorem resolve_layers_configured :
    let files : Files := { entries := [([Bytes.ofString "l.toml"], .file (Bytes.ofString
      "[engine]\nprogram = \"vm\"\nargs = [\"--jit\"]\n[log]\nlevel = \"Debug\"\n"))] }
    let arguments : CommandLine.LaunchArguments :=
      ⟨none, none, false, false, Bytes.ofString "kernel.seg", [Bytes.ofString "-x"]⟩
    let lookup : Lookup := fun name =>
      if name = "IMAGE_LAUNCHER_CONFIG" then some (Bytes.ofString "l.toml") else none
    let emptied : Lookup := fun name =>
      if name = "IMAGE_LAUNCHER_ENGINE" then some [] else lookup name
    let request : Request := ⟨Bytes.ofString "kernel.seg", [Bytes.ofString "-x"],
      some ⟨Bytes.ofString "vm", [Bytes.ofString "--jit"]⟩, .debug⟩
    Resolved arguments lookup files request ∧ resolve arguments emptied files = .ok request := by
  intro files arguments lookup emptied request
  obtain ⟨-, hresolved, -, hsame⟩ := resolve_layers arguments lookup files
  have hresolve : resolve arguments lookup files = .ok request := by decide +kernel
  have hemptied : resolve arguments emptied files = resolve arguments lookup files :=
    hsame emptied (by decide)
  exact ⟨(hresolved request).mp hresolve, hemptied.trans hresolve⟩

end Request

end ImageLaunch
