import ImageLaunch.Config
import ImageLaunch.Proofs.Toml.Distinct
import Mathlib

/-!
# ImageLaunch.Proofs.Config.Schema

Which documents are configurations, and what they configure.

* `Conforms` — what the document has in each place, given how a section may be written;
* `foldlM_eq_ok_iff` — entries with distinct names, read one after the other, each fill the slot
  of their name;
* `parse_conforms_iff` — a document is read exactly if it conforms, with sections as tables or as
  sequences; sections as tables alone are a stricter schema.

The order of a document's entries does not matter then, though the reader follows it.
-/

namespace ImageLaunch.Config

open Toml

/-! ## The schema -/

/-- The value is a text. -/
inductive IsText : Node → String → Prop
  | intro {value : String} {span : Span} : IsText (.scalar (.text value) span) value

/-- The elements of a sequence, in brackets or under headers that repeat. -/
def elements? : Node → Option (List Node)
  | .array elements _ | .tables elements _ => some elements
  | _ => none

/-- The value is a sequence of texts. -/
def IsTexts (node : Node) (values : List String) : Prop :=
  ∃ elements, elements? node = some elements ∧ List.Forall₂ IsText elements values

/-- What a value stands for, or the default where there is none. -/
def Defaulted {α : Type} (Stands : Node → α → Prop) (default : α) : Option Node → α → Prop
  | none, value => value = default
  | some node, value => Stands node value

/-- How a section may be written: from what stands in its place to what its fields have. -/
abbrev Form := Section → Option Node → (String → Option Node) → Prop

/-- A section is a table that has no other names than those of its fields, or is left out. -/
inductive InTable (kind : Section) : Option Node → (String → Option Node) → Prop
  | absent : InTable kind none fun _ => none
  | present {origin : Origin} {span : Option Span} {entries : Entries}
      (hknown : ∀ name ∈ entries.names, name ∈ kind.fields) :
      InTable kind (some (.table origin span entries)) entries.find?

/-- A section is a sequence of at least one value.  The values are those of the fields, in
their order; what is left over belongs to no field. -/
inductive InSequence (kind : Section) : Option Node → (String → Option Node) → Prop
  | present {node : Node} {elements : List Node} (helements : elements? node = some elements)
      (hne : elements ≠ []) :
      InSequence kind (some node) fun name => (kind.fields.zip elements).lookup name

/-- A section is written in either way. -/
def InEither : Form := fun kind node? field =>
  InTable kind node? field ∨ InSequence kind node? field

/-- The document has no other sections than the two, both in the given form, and their fields
have what the configuration says. -/
structure Conforms (form : Form) (document : Entries) (config : Config) : Prop where
  known : ∀ name ∈ document.names, name = "engine" ∨ name = "log"
  engine : ∃ field, form .engine (document.find? "engine") field ∧
    Option.Rel IsText (field "program") config.program ∧
    Defaulted IsTexts [] (field "args") config.args
  log : ∃ field, form .log (document.find? "log") field ∧
    Option.Rel IsText (field "level") config.level

/-! ## Entries that fill slots -/

section Slots

variable {σ ε slot : Type} [DecidableEq slot] {Value : slot → Type} {get : σ → ∀ s, Value s}
  {label : slot → String} {slots : List slot} {read : σ → Key × Node → Except ε σ}
  {entries : Entries} {before after : σ}

/-- Let a state be given by the values in its slots, and let reading an entry fill the slot of its
name and leave the others alone.  Then entries with distinct names fill each its own slot, in any
order. -/
theorem foldlM_eq_ok_iff (Stands : ∀ s, Node → Value s → Value s → Prop)
    (hget : Function.Bijective get) (hlabel : Function.Injective label)
    (hread : ∀ entry ∈ entries, ∀ before after, read before entry = .ok after ↔
      ∃ s ∈ slots, label s = entry.1.name ∧ Stands s entry.2 (get before s) (get after s) ∧
        ∀ other ≠ s, get after other = get before other)
    (hdistinct : entries.names.Nodup) :
    entries.foldlM read before = .ok after ↔
      (∀ name ∈ entries.names, name ∈ slots.map label) ∧
      ∀ s, Defaulted (Stands s · (get before s)) (get before s) (entries.find? (label s))
        (get after s) := by
  induction entries generalizing before with
  | nil =>
      have hnone : ∀ s, Entries.find? [] (label s) = none := fun _ => rfl
      simp only [List.foldlM_nil, hnone, Defaulted, Entries.names_nil, List.not_mem_nil,
        false_implies, implies_true, true_and]
      constructor
      · intro h s
        cases h
        rfl
      · intro h
        exact congrArg Except.ok (hget.injective (funext fun s => (h s).symm))
  | cons entry rest ih =>
      obtain ⟨key, node⟩ := entry
      obtain ⟨hnew, hrest⟩ := List.nodup_cons.mp hdistinct
      have hfirst := hread (key, node) List.mem_cons_self
      have hlater : ∀ between, rest.foldlM read between = .ok after ↔
          (∀ name ∈ Entries.names rest, name ∈ slots.map label) ∧
          ∀ s, Defaulted (Stands s · (get between s)) (get between s)
            (Entries.find? rest (label s)) (get after s) :=
        fun between => ih (fun entry hmem => hread entry (List.mem_cons_of_mem _ hmem)) hrest
      -- the slot of the first entry is left alone by the others, and they find theirs without it
      have hown : ∀ s, label s = key.name → Entries.find? rest (label s) = none :=
        fun s hname => Entries.find?_eq_none_iff.mpr (hname ▸ hnew)
      have hfound : ∀ s, label s = key.name →
          Entries.find? ((key, node) :: rest) (label s) = some node :=
        fun s hname => by rw [Entries.find?_cons, if_pos hname.symm]
      have hpassed : ∀ s, label s ≠ key.name →
          Entries.find? ((key, node) :: rest) (label s) = Entries.find? rest (label s) :=
        fun s hname => by rw [Entries.find?_cons, if_neg hname.symm]
      rw [List.foldlM_cons, bind_eq_ok_iff]
      constructor
      · rintro ⟨between, hstep, hfold⟩
        obtain ⟨s, hs, hname, hstands, hothers⟩ := (hfirst before between).mp hstep
        obtain ⟨hknown, hfilled⟩ := (hlater between).mp hfold
        refine ⟨List.forall_mem_cons.mpr ⟨List.mem_map.mpr ⟨s, hs, hname⟩, hknown⟩, fun other => ?_⟩
        have hother := hfilled other
        by_cases heq : other = s
        · rw [heq, hown s hname] at hother
          have hkept : get after s = get between s := hother
          rw [heq, hfound s hname]
          exact hkept ▸ hstands
        · have hapart : label other ≠ key.name := fun h => heq (hlabel (h.trans hname.symm))
          rw [hpassed other hapart]
          rw [hothers other heq] at hother
          exact hother
      · rintro ⟨hknown, hfilled⟩
        obtain ⟨hmem, hknown⟩ := List.forall_mem_cons.mp hknown
        obtain ⟨s, hs, hname⟩ := List.mem_map.mp hmem
        obtain ⟨between, hbetween⟩ :=
          hget.surjective (Function.update (get before) s (get after s))
        have hkept : get between s = get after s := by rw [hbetween, Function.update_self]
        have hothers : ∀ other ≠ s, get between other = get before other :=
          fun other hne => by rw [hbetween, Function.update_of_ne hne]
        refine ⟨between, (hfirst before between).mpr ⟨s, hs, hname, ?_, hothers⟩,
          (hlater between).mpr ⟨hknown, fun other => ?_⟩⟩
        · have hstands := hfilled s
          rw [hfound s hname] at hstands
          exact hkept ▸ hstands
        · by_cases heq : other = s
          · rw [heq, hown s hname]
            exact hkept.symm
          · have hapart : label other ≠ key.name := fun h => heq (hlabel (h.trans hname.symm))
            have hother := hfilled other
            rw [hpassed other hapart] at hother
            rw [hothers other heq]
            exact hother

end Slots

/-! ## Values -/

variable {config config' : Config} {place : Span} {node : Node}

theorem readText_eq_ok_iff {wanted value : String} :
    readText wanted place node = .ok value ↔ IsText node value := by
  constructor
  · intro h
    rw [readText.eq_def] at h
    split at h
    · cases h
      exact .intro
    · cases h
  · intro h
    cases h
    rfl

theorem mapM_readText_eq_ok_iff {wanted : String} {elements : List Node} {values : List String} :
    elements.mapM (readText wanted place) = .ok values ↔ List.Forall₂ IsText elements values := by
  induction elements generalizing values with
  | nil => simp [pure, Except.pure, eq_comm]
  | cons element elements ih =>
      simp only [List.mapM_cons, bind_eq_ok_iff, readText_eq_ok_iff, ih, List.forall₂_cons_left_iff]
      constructor
      · rintro ⟨value, hvalue, rest, hrest, hvalues⟩
        cases hvalues
        exact ⟨value, rest, hvalue, hrest, rfl⟩
      · rintro ⟨value, rest, hvalue, hrest, rfl⟩
        exact ⟨value, hvalue, rest, hrest, rfl⟩

theorem readTexts_eq_ok_iff {values : List String} :
    readTexts place node = .ok values ↔ IsTexts node values := by
  cases node <;> simp [readTexts, IsTexts, elements?, mapM_readText_eq_ok_iff, wrongType]

/-! ## Fields -/

/-- The places of a configuration that a document may fill. -/
inductive Field
  | program
  | args
  | level
  deriving DecidableEq

namespace Field

/-- The name of a field in its section. -/
def name : Field → String
  | .program => "program"
  | .args => "args"
  | .level => "level"

/-- The section of a field. -/
def home : Field → Section
  | .program | .args => .engine
  | .level => .log

/-- The type of what a field has. -/
abbrev Value : Field → Type
  | .args => List String
  | .program | .level => Option String

/-- What a field has in a configuration. -/
def get (config : Config) : (field : Field) → field.Value
  | .program => config.program
  | .args => config.args
  | .level => config.level

/-- The value in a document stands for what the field has. -/
def Stands : (field : Field) → Node → field.Value → Prop
  | .args, node, values => IsTexts node values
  | .program, node, value? | .level, node, value? =>
      ∃ value, IsText node value ∧ value? = some value

theorem name_injective : Function.Injective name := by
  intro field other h
  cases field <;> cases other <;> simp_all [name]

theorem forall_iff {P : Field → Prop} :
    (∀ field, P field) ↔ P .program ∧ P .args ∧ P .level := by
  constructor
  · intro h
    exact ⟨h .program, h .args, h .level⟩
  · rintro ⟨hprogram, hargs, hlevel⟩ field
    cases field <;> assumption

theorem get_bijective : Function.Bijective get := by
  constructor
  · intro config config' h
    have hprogram := congrFun h .program
    have hargs := congrFun h .args
    have hlevel := congrFun h .level
    cases config
    cases config'
    simp_all [get]
  · intro values
    refine ⟨⟨values .program, values .args, values .level⟩, funext fun field => ?_⟩
    cases field <;> rfl

end Field

/-- The fields of a section, in order. -/
def members (kind : Section) : List Field :=
  [.program, .args, .level].filter (·.home = kind)

theorem mem_members_iff {kind : Section} {field : Field} :
    field ∈ members kind ↔ field.home = kind := by
  have hall : field ∈ [Field.program, .args, .level] := by cases field <;> simp
  simp only [members, List.mem_filter, hall, decide_eq_true_eq, true_and]

theorem fields_eq (kind : Section) : kind.fields = (members kind).map Field.name := by
  cases kind <;> rfl

/-- Only the names of its fields are names in a section. -/
theorem name_mem_fields_iff {kind : Section} {field : Field} :
    field.name ∈ kind.fields ↔ field.home = kind := by
  rw [fields_eq, List.mem_map_of_injective Field.name_injective, mem_members_iff]

/-- A field is read if its value is of the kind it wants, and no other field changes. -/
theorem readField_eq_ok_iff (field : Field) :
    readField config field.name place node = .ok config' ↔
      field.Stands node (field.get config') ∧
        ∀ other ≠ field, other.get config' = other.get config := by
  obtain ⟨program, args, level⟩ := config
  obtain ⟨program', args', level'⟩ := config'
  cases field <;>
    simp [readField, Field.name, map_eq_ok_iff, readText_eq_ok_iff, readTexts_eq_ok_iff,
      Field.Stands, Field.forall_iff, Field.get] <;>
    grind

/-! ## Sections -/

variable {kind : Section}

/-- Each field has what the value under its name stands for, or what it had. -/
def Filled (field? : String → Option Node) (config config' : Config) : Prop :=
  ∀ field : Field, Defaulted field.Stands (field.get config) (field? field.name) (field.get config')

theorem readEntry_eq_ok_iff {entry : Key × Node} :
    readEntry kind config entry = .ok config' ↔
      ∃ field ∈ members kind, field.name = entry.1.name ∧
        field.Stands entry.2 (field.get config') ∧
        ∀ other ≠ field, other.get config' = other.get config := by
  rw [readEntry, fields_eq]
  constructor
  · intro h
    split at h
    next hmem =>
      obtain ⟨field, hfield, hname⟩ := List.mem_map.mp hmem
      rw [← hname, readField_eq_ok_iff] at h
      exact ⟨field, hfield, hname, h⟩
    next => cases h
  · rintro ⟨field, hfield, hname, hread⟩
    rw [if_pos (List.mem_map.mpr ⟨field, hfield, hname⟩), ← hname, readField_eq_ok_iff]
    exact hread

/-- The entries of a section fill its fields. -/
theorem foldlM_readEntry_eq_ok_iff {entries : Entries} (hdistinct : entries.names.Nodup) :
    entries.foldlM (readEntry kind) config = .ok config' ↔
      (∀ name ∈ entries.names, name ∈ kind.fields) ∧ Filled entries.find? config config' := by
  rw [fields_eq]
  exact foldlM_eq_ok_iff (fun field node _ value => field.Stands node value)
    Field.get_bijective Field.name_injective (fun _ _ _ _ => readEntry_eq_ok_iff) hdistinct

/-- The entries that the elements of a sequence stand for, under the names of the fields. -/
def positioned (fields : List String) (place : Span) (elements : List Node) : Entries :=
  (fields.zip elements).map fun (name, node) => (⟨name, place⟩, node)

variable {elements : List Node} {fields : List String}

@[simp] theorem positioned_nil : positioned [] place elements = [] := rfl

@[simp] theorem positioned_cons {name : String} :
    positioned (name :: fields) place (node :: elements) =
      (⟨name, place⟩, node) :: positioned fields place elements := rfl

theorem names_positioned :
    (positioned fields place elements).names = fields.take elements.length := by
  induction fields generalizing elements with
  | nil => simp
  | cons name fields ih =>
      cases elements with
      | nil => rfl
      | cons node elements => simp [ih]

theorem find?_positioned {name : String} :
    (positioned fields place elements).find? name = (fields.zip elements).lookup name := by
  induction fields generalizing elements with
  | nil => rfl
  | cons first fields ih =>
      cases elements with
      | nil => rfl
      | cons node elements =>
          rw [positioned_cons, Entries.find?_cons, List.zip_cons_cons, List.lookup_cons, ih]
          by_cases hname : first = name
          · simp [hname]
          · simp [hname, beq_false_of_ne (Ne.symm hname)]

/-- A sequence is read as the entries that its elements stand for. -/
theorem foldlM_positioned (hfields : ∀ name ∈ fields, name ∈ kind.fields) :
    (positioned fields place elements).foldlM (readEntry kind) config =
      (fields.zip elements).foldlM
        (fun config (name, node) => readField config name place node) config := by
  induction fields generalizing elements config with
  | nil => rfl
  | cons name fields ih =>
      obtain ⟨hname, hrest⟩ := List.forall_mem_cons.mp hfields
      cases elements with
      | nil => rfl
      | cons node elements =>
          have hentry : readEntry kind config (⟨name, place⟩, node) =
              readField config name place node := if_pos hname
          rw [positioned_cons, List.zip_cons_cons, List.foldlM_cons, List.foldlM_cons, hentry]
          exact congrArg _ (funext fun _ => ih hrest)

theorem readElements_eq_ok_iff :
    readElements kind config place elements = .ok config' ↔ elements ≠ [] ∧
      Filled (fun name => (kind.fields.zip elements).lookup name) config config' := by
  rw [readElements]
  by_cases hempty : elements = []
  · simp [hempty]
  · have hnames : (positioned kind.fields place elements).names =
        kind.fields.take elements.length := names_positioned
    have hdistinct : (positioned kind.fields place elements).names.Nodup := by
      rw [hnames]
      have hfields : kind.fields.Nodup := by cases kind <;> decide
      exact hfields.sublist (List.take_sublist _ _)
    have hknown : ∀ name ∈ (positioned kind.fields place elements).names, name ∈ kind.fields := by
      rw [hnames]
      exact fun name hmem => List.mem_of_mem_take hmem
    have hfind : (positioned kind.fields place elements).find? =
        fun name => (kind.fields.zip elements).lookup name := funext fun _ => find?_positioned
    rw [if_neg hempty, ← foldlM_positioned fun _ hmem => hmem,
      foldlM_readEntry_eq_ok_iff hdistinct, hfind]
    exact and_congr_left fun _ => iff_of_true hknown hempty

/-- A section that stands in the document is read in either form. -/
theorem readSection_eq_ok_iff (hnode : node.Proper) :
    readSection kind config place node = .ok config' ↔
      ∃ field?, InEither kind (some node) field? ∧ Filled field? config config' := by
  constructor
  · intro h
    rw [readSection.eq_def] at h
    split at h
    next origin span entries =>
      have hdistinct := (Node.proper_table_iff.mp hnode).distinct
      obtain ⟨hknown, hfilled⟩ := (foldlM_readEntry_eq_ok_iff hdistinct).mp h
      exact ⟨_, .inl (.present hknown), hfilled⟩
    next elements span =>
      obtain ⟨hne, hfilled⟩ := readElements_eq_ok_iff.mp h
      exact ⟨_, .inr (.present rfl hne), hfilled⟩
    next elements span =>
      obtain ⟨hne, hfilled⟩ := readElements_eq_ok_iff.mp h
      exact ⟨_, .inr (.present rfl hne), hfilled⟩
    next => cases h
    next => cases h
  · rintro ⟨field?, htable | hsequence, hfilled⟩
    · cases htable with
      | present hknown =>
          have hdistinct := (Node.proper_table_iff.mp hnode).distinct
          exact (foldlM_readEntry_eq_ok_iff hdistinct).mpr ⟨hknown, hfilled⟩
    · cases hsequence with
      | present helements hne =>
          cases node with
          | array elements span =>
              cases helements
              exact readElements_eq_ok_iff.mpr ⟨hne, hfilled⟩
          | tables elements span =>
              cases helements
              exact readElements_eq_ok_iff.mpr ⟨hne, hfilled⟩
          | scalar value span => cases helements
          | table origin span entries => cases helements

/-! ## Documents -/

/-- The name of a section in a document. -/
def label : Section → String
  | .engine => "engine"
  | .log => "log"

theorem label_injective : Function.Injective label := by
  intro kind other h
  cases kind <;> cases other <;> simp_all [label]

theorem readTop_eq {key : Key} (hname : label kind = key.name) :
    readTop config (key, node) = readSection kind config key.span node := by
  cases kind <;> simp [readTop, ← hname, label]

/-- What stands in the place of a section has no other names than those of its fields. -/
theorem InEither.eq_none {node? : Option Node} {field? : String → Option Node} {name : String}
    (h : InEither kind node? field?) (hname : name ∉ kind.fields) : field? name = none := by
  obtain htable | hsequence := h
  · cases htable with
    | absent => rfl
    | present hknown => exact Entries.find?_eq_none_iff.mpr fun hmem => hname (hknown name hmem)
  · cases hsequence with
    | present helements hne =>
        rw [List.lookup_eq_none_iff]
        rintro ⟨other, element⟩ hmem
        have hother : other ∈ kind.fields := (List.of_mem_zip hmem).1
        have hne : name ≠ other := fun heq => hname (heq ▸ hother)
        simpa using hne

/-- Values for the fields of a section. -/
abbrev SectionValue (kind : Section) : Type := (field : Field) → field.home = kind → field.Value

/-- What the fields of a section have in a configuration. -/
def sectionOf (config : Config) (kind : Section) : SectionValue kind :=
  fun field _ => field.get config

/-- Each field has its place in one section. -/
theorem sectionOf_bijective : Function.Bijective sectionOf := by
  constructor
  · intro config config' h
    refine Field.get_bijective.injective (funext fun field => ?_)
    exact congrFun (congrFun (congrFun h field.home) field) rfl
  · intro values
    obtain ⟨config, hconfig⟩ :=
      Field.get_bijective.surjective fun field => values field.home field rfl
    refine ⟨config, funext fun kind => funext fun field => funext fun hhome => ?_⟩
    cases hhome
    exact congrFun hconfig field

/-- What stands in the place of a section gives its fields new values for the old ones. -/
def Makes (kind : Section) (node? : Option Node) (old new : SectionValue kind) : Prop :=
  ∃ field?, InEither kind node? field? ∧ ∀ (field : Field) (hhome : field.home = kind),
    Defaulted field.Stands (old field hhome) (field? field.name) (new field hhome)

/-- A section that is left out keeps the values of its fields. -/
theorem defaulted_makes_iff {node? : Option Node} {old new : SectionValue kind} :
    Defaulted (fun node new => Makes kind (some node) old new) old node? new ↔
      Makes kind node? old new := by
  cases node? with
  | some node => exact Iff.rfl
  | none =>
      constructor
      · intro h
        cases h
        exact ⟨_, .inl .absent, fun _ _ => rfl⟩
      · rintro ⟨field?, htable | hsequence, hfields⟩
        · cases htable
          exact funext fun field => funext fun hhome => hfields field hhome
        · cases hsequence

/-- A section changes its own fields and no others. -/
theorem readSection_eq_ok_iff_makes (hnode : node.Proper) :
    readSection kind config place node = .ok config' ↔
      Makes kind (some node) (sectionOf config kind) (sectionOf config' kind) ∧
        ∀ other ≠ kind, sectionOf config' other = sectionOf config other := by
  rw [readSection_eq_ok_iff hnode]
  constructor
  · rintro ⟨field?, hform, hfilled⟩
    refine ⟨⟨field?, hform, fun field _ => hfilled field⟩, fun other hne => ?_⟩
    refine funext fun field => funext fun hhome => ?_
    have hkept := hfilled field
    rw [hform.eq_none fun hmem => hne (hhome ▸ name_mem_fields_iff.mp hmem)] at hkept
    exact hkept
  · rintro ⟨⟨field?, hform, hown⟩, hothers⟩
    refine ⟨field?, hform, fun field => ?_⟩
    by_cases hhome : field.home = kind
    · exact hown field hhome
    · rw [hform.eq_none fun hmem => hhome (name_mem_fields_iff.mp hmem)]
      exact congrFun (congrFun (hothers field.home hhome) field) rfl

theorem readTop_eq_ok_iff {entry : Key × Node} (hnode : entry.2.Proper) :
    readTop config entry = .ok config' ↔
      ∃ kind ∈ [Section.engine, .log], label kind = entry.1.name ∧
        Makes kind (some entry.2) (sectionOf config kind) (sectionOf config' kind) ∧
        ∀ other ≠ kind, sectionOf config' other = sectionOf config other := by
  obtain ⟨key, node⟩ := entry
  constructor
  · intro h
    have hknown : ∃ kind, label kind = key.name := by
      by_contra hunknown
      have hengine : key.name ≠ "engine" := fun h => hunknown ⟨.engine, h.symm⟩
      have hlog : key.name ≠ "log" := fun h => hunknown ⟨.log, h.symm⟩
      simp [readTop, hengine, hlog] at h
    obtain ⟨kind, hname⟩ := hknown
    rw [readTop_eq hname, readSection_eq_ok_iff_makes hnode] at h
    exact ⟨kind, by cases kind <;> simp, hname, h⟩
  · rintro ⟨kind, -, hname, hmakes⟩
    rw [readTop_eq hname, readSection_eq_ok_iff_makes hnode]
    exact hmakes

/-- A text, or nothing where nothing stands. -/
theorem defaulted_text_iff {node? : Option Node} {value? : Option String} :
    Defaulted (fun node value? => ∃ value, IsText node value ∧ value? = some value) none node?
      value? ↔ Option.Rel IsText node? value? := by
  cases node? with
  | none => cases value? <;> simp [Defaulted]
  | some node => cases value? <;> simp [Defaulted]

theorem makes_engine_iff {node? : Option Node} :
    Makes .engine node? (sectionOf {} .engine) (sectionOf config .engine) ↔
      ∃ field?, InEither .engine node? field? ∧
        Option.Rel IsText (field? "program") config.program ∧
        Defaulted IsTexts [] (field? "args") config.args := by
  refine exists_congr fun field? => and_congr_right fun _ => ?_
  simp only [Field.forall_iff, Field.home, forall_true_left, reduceCtorEq, IsEmpty.forall_iff,
    and_true, ← defaulted_text_iff]
  exact Iff.rfl

theorem makes_log_iff {node? : Option Node} :
    Makes .log node? (sectionOf {} .log) (sectionOf config .log) ↔
      ∃ field?, InEither .log node? field? ∧
        Option.Rel IsText (field? "level") config.level := by
  refine exists_congr fun field? => and_congr_right fun _ => ?_
  simp only [Field.forall_iff, Field.home, forall_true_left, reduceCtorEq, IsEmpty.forall_iff,
    true_and, ← defaulted_text_iff]
  exact Iff.rfl

/-- A document is read exactly if it conforms to the schema. -/
theorem ofDocument_eq_ok_iff {document : Entries} (hdocument : document.Proper) :
    ofDocument document = .ok config ↔ Conforms InEither document config := by
  rw [ofDocument, foldlM_eq_ok_iff (fun kind node old new => Makes kind (some node) old new)
    sectionOf_bijective label_injective
    (fun entry hmem _ _ => readTop_eq_ok_iff (hdocument.values entry hmem)) hdocument.distinct]
  constructor
  · rintro ⟨hknown, hmade⟩
    constructor
    case known => simpa [label] using hknown
    case engine => exact makes_engine_iff.mp (defaulted_makes_iff.mp (hmade .engine))
    case log => exact makes_log_iff.mp (defaulted_makes_iff.mp (hmade .log))
  · intro h
    refine ⟨by simpa [label] using h.known, fun kind => defaulted_makes_iff.mpr ?_⟩
    cases kind with
    | engine => exact makes_engine_iff.mpr h.engine
    | log => exact makes_log_iff.mpr h.log

/-! ## Texts -/

theorem Conforms.of_forms {form form' : Form} {document : Entries}
    (hforms : ∀ kind field?, form kind (document.find? (label kind)) field? →
      form' kind (document.find? (label kind)) field?)
    (h : Conforms form document config) : Conforms form' document config where
  known := h.known
  engine := h.engine.imp fun field? => And.imp_left (hforms .engine field?)
  log := h.log.imp fun field? => And.imp_left (hforms .log field?)

theorem InTable.elements?_eq_none {field? : String → Option Node}
    (h : InTable kind (some node) field?) : elements? node = none := by
  cases h
  rfl

/-- A section that is no sequence is a table. -/
theorem InEither.inTable {node? : Option Node} {field? : String → Option Node}
    (h : InEither kind node? field?) (hnode : ∀ node, node? = some node → elements? node = none) :
    InTable kind node? field? := by
  obtain htable | hsequence := h
  · exact htable
  · cases hsequence with
    | present helements hne => simp [hnode _ rfl] at helements

/-- **Which documents are configurations, and of what.**  A document is read as a configuration
exactly if it conforms to the schema with each section in either form, and is refused for its
shape otherwise.  The schema with tables alone describes what is read exactly if no section of a
document that is read is a sequence. -/
theorem parse_conforms_iff {path : Bytes} {content : String} {document : Entries}
    (h : Toml.parse content = .ok document) :
    (∀ config, parse path content = .ok config ↔ Conforms InEither document config) ∧
    (∀ failure, parse path content = .error failure →
      ∃ misplaced, failure = .shape path content misplaced) ∧
    ((∀ config, parse path content = .ok config ↔ Conforms InTable document config) ↔
      ∀ config, parse path content = .ok config →
        ∀ kind node, document.find? (label kind) = some node → elements? node = none) := by
  have hparse : parse path content = (ofDocument document).mapError (.shape path content) := by
    rw [parse, h]
  have hread : ∀ config, parse path content = .ok config ↔ Conforms InEither document config := by
    intro config
    rw [hparse, mapError_eq_ok_iff, ofDocument_eq_ok_iff (proper_of_parse h)]
  refine ⟨hread, fun failure hfailure => ?_, ?_, ?_⟩
  · cases hmade : ofDocument document with
    | ok config => simp [hparse, hmade, Except.mapError] at hfailure
    | error misplaced =>
        simp only [hparse, hmade, Except.mapError, Except.error.injEq] at hfailure
        exact ⟨misplaced, hfailure.symm⟩
  · intro htables config hconfig kind node hnode
    have hconforms : Conforms InTable document config := (htables config).mp hconfig
    cases kind with
    | engine =>
        obtain ⟨field?, hform, -⟩ := hconforms.engine
        exact (hnode ▸ hform : InTable .engine (some node) field?).elements?_eq_none
    | log =>
        obtain ⟨field?, hform, -⟩ := hconforms.log
        exact (hnode ▸ hform : InTable .log (some node) field?).elements?_eq_none
  · intro hsequences config
    constructor
    · intro hconfig
      refine ((hread config).mp hconfig).of_forms fun kind field? hform => ?_
      exact hform.inTable (hsequences config hconfig kind)
    · exact fun hconforms => (hread config).mpr (hconforms.of_forms fun _ _ => .inl)

/-- A document with one section, a table: no section is a sequence, so what is read conforms to
the schema with tables alone. -/
theorem parse_conforms_iff_tables :
    let content := "[engine]\nargs = [\"--jit\"]\n"
    ∃ document, Toml.parse content = .ok document ∧
      Conforms InTable document { args := ["--jit"] } := by
  intro content
  let engine : Node := .table .header (some ⟨0, 25⟩)
    [(⟨"args", ⟨9, 13⟩⟩, .array [.scalar (.text "--jit") ⟨17, 24⟩] ⟨16, 25⟩)]
  have hdocument : Toml.parse content = .ok [(⟨"engine", ⟨1, 7⟩⟩, engine)] := by cbv
  have htables : ∀ kind node, Entries.find? [(⟨"engine", ⟨1, 7⟩⟩, engine)] (label kind) =
      some node → elements? node = none := by
    intro kind node hnode
    cases kind <;> cases hnode
    rfl
  refine ⟨_, hdocument, ?_⟩
  obtain ⟨-, -, htabular⟩ := @parse_conforms_iff [] content _ hdocument
  exact (htabular.mpr (fun _ _ => htables) _).mp (by decide +kernel)

/-- What a sequence has left over is ignored: the heap option is in no place of the
configuration. -/
theorem parse_leftover :
    let content := "engine = [\"vm\", [\"--jit\"], \"--heap=64m\"]\n"
    ∃ document, Toml.parse content = .ok document ∧
      parse (Bytes.ofString "launcher.toml") content =
        .ok { program := some "vm", args := ["--jit"] } ∧
      ∀ config, ¬ Conforms InTable document config := by
  refine ⟨[(⟨"engine", ⟨0, 6⟩⟩, .array
    [.scalar (.text "vm") ⟨10, 14⟩, .array [.scalar (.text "--jit") ⟨17, 24⟩] ⟨16, 25⟩,
      .scalar (.text "--heap=64m") ⟨27, 39⟩] ⟨9, 40⟩)], by cbv, by decide +kernel, ?_⟩
  intro config h
  obtain ⟨field?, hform, -⟩ := h.engine
  cases hform

end ImageLaunch.Config
