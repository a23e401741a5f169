import ImageLaunch.Toml.Document
import ImageLaunch.Proofs.Outcome
import Mathlib.Data.List.Nodup

/-!
# ImageLaunch.Proofs.Toml.Distinct

No table of a document has a name twice, however its entries came together: below a header,
through dotted keys, by headers that run through it, or between braces.

* `Node.Proper`, `Entries.Proper` — every table in a tree has distinct names;
* `keeps_assign`, `Keeps.within` — what is added under a path keeps a tree so;
* `Scan.Yields` — what a reader can answer, by one rule for each way to put readers together;
* `proper_of_parse` — the trees of documents are so.
-/

namespace ImageLaunch.Toml

/-! ## Trees with distinct names -/

/-- The names of some entries, in order. -/
def Entries.names (entries : Entries) : List String := entries.map (·.1.name)

/-- Every table in the tree has distinct names. -/
inductive Node.Proper : Node → Prop
  | scalar {value : Scalar} {span : Span} : Proper (.scalar value span)
  | array {elements : List Node} {span : Span} (helements : ∀ node ∈ elements, Proper node) :
      Proper (.array elements span)
  | tables {elements : List Node} {span : Span} (helements : ∀ node ∈ elements, Proper node) :
      Proper (.tables elements span)
  | table {origin : Origin} {span : Option Span} {entries : List (Key × Node)}
      (hdistinct : (Entries.names entries).Nodup) (hvalues : ∀ entry ∈ entries, Proper entry.2) :
      Proper (.table origin span entries)

/-- The names are distinct, and so are those of every table below them. -/
structure Entries.Proper (entries : Entries) : Prop where
  distinct : entries.names.Nodup
  values : ∀ entry ∈ entries, entry.2.Proper

variable {entries entries' : Entries} {key : Key} {name : String} {node value : Node}

theorem Node.proper_table_iff {origin : Origin} {span : Option Span} :
    Node.Proper (.table origin span entries) ↔ entries.Proper := by
  constructor
  · intro h
    cases h with
    | table hdistinct hvalues => exact ⟨hdistinct, hvalues⟩
  · intro h
    exact .table h.distinct h.values

theorem Node.proper_tables_iff {elements : List Node} {span : Span} :
    Node.Proper (.tables elements span) ↔ ∀ node ∈ elements, node.Proper := by
  constructor
  · intro h
    cases h with
    | tables helements => exact helements
  · exact .tables

namespace Entries

@[simp] theorem names_nil : names [] = [] := rfl

@[simp] theorem names_cons : names ((key, node) :: entries) = key.name :: entries.names := rfl

@[simp] theorem names_append : names (entries ++ entries') = entries.names ++ entries'.names :=
  List.map_append

@[simp] theorem names_replace : (entries.replace name node).names = entries.names := by
  simp only [names, replace, List.map_map]
  refine List.map_congr_left fun entry _ => ?_
  by_cases hname : entry.1.name = name <;> simp [hname]

theorem find?_cons : find? ((key, node) :: entries) name =
    if key.name = name then some node else entries.find? name := by
  by_cases hname : key.name = name <;> simp [find?, hname]

/-- Nothing is found under a name exactly if no entry has it. -/
theorem find?_eq_none_iff : entries.find? name = none ↔ name ∉ entries.names := by
  simp only [find?, names, Option.map_eq_none_iff, List.find?_eq_none, decide_eq_true_eq,
    List.mem_map, not_exists, not_and]

/-- What is found under a name stands among the entries. -/
theorem mem_of_find? (h : entries.find? name = some node) :
    ∃ entry ∈ entries, entry.2 = node := by
  obtain ⟨entry, hfound, hnode⟩ := Option.map_eq_some_iff.mp h
  exact ⟨entry, List.mem_of_find?_eq_some hfound, hnode⟩

namespace Proper

theorem nil : Proper [] where
  distinct := List.nodup_nil
  values := by simp

theorem find? (h : entries.Proper) (hfound : entries.find? name = some node) : node.Proper := by
  obtain ⟨entry, hmem, hnode⟩ := mem_of_find? hfound
  exact hnode ▸ h.values entry hmem

/-- A name that is free may be added at the end. -/
theorem append (h : entries.Proper) (hfree : entries.find? key.name = none)
    (hvalue : value.Proper) : Proper (entries ++ [(key, value)]) where
  distinct := by
    have hnew : key.name ∉ entries.names := find?_eq_none_iff.mp hfree
    have hconcat := (List.nodup_concat entries.names key.name).mpr ⟨hnew, h.distinct⟩
    simpa [List.concat_eq_append] using hconcat
  values := by
    intro entry hmem
    obtain hold | hnew := List.mem_append.mp hmem
    · exact h.values entry hold
    · cases List.mem_singleton.mp hnew
      exact hvalue

theorem replace (h : entries.Proper) (hvalue : value.Proper) :
    (entries.replace name value).Proper where
  distinct := by rw [names_replace]; exact h.distinct
  values := by
    intro entry hmem
    obtain ⟨⟨key, old⟩, hold, hentry⟩ := List.mem_map.mp hmem
    by_cases hname : key.name = name
    · rw [← hentry]
      simpa only [if_pos hname] using hvalue
    · rw [← hentry]
      simpa only [if_neg hname] using h.values _ hold

theorem erase (h : entries.Proper) : (entries.erase name).Proper where
  distinct := h.distinct.sublist (List.filter_sublist.map _)
  values := fun entry hmem => h.values entry (List.mem_of_mem_filter hmem)

end Proper

/-- A name that was taken out is free. -/
theorem find?_erase_self : (entries.erase name).find? name = none := by
  simp [find?_eq_none_iff, names, erase]

/-! ## Adding under a path -/

/-- The change makes proper entries out of proper ones, where it answers. -/
def Keeps (change : Entries → Option Entries) : Prop :=
  ∀ ⦃entries changed : Entries⦄, entries.Proper → change entries = some changed → changed.Proper

namespace Keeps

variable {change : Entries → Option Entries}

/-- A table that stands among proper entries may be changed in its place. -/
theorem replace_table (h : Keeps change) {inner changed : Entries} {origin : Origin}
    {span : Option Span} (hentries : entries.Proper)
    (hfound : entries.find? name = some (.table origin span inner))
    (hchanged : change inner = some changed) :
    (entries.replace name (.table origin span changed)).Proper := by
  have hinner : inner.Proper := Node.proper_table_iff.mp (hentries.find? hfound)
  exact hentries.replace (Node.proper_table_iff.mpr (h hinner hchanged))

theorem inLast (h : Keeps change) {nodes changed : List Node}
    (hnodes : ∀ node ∈ nodes, node.Proper) (hchanged : inLast change nodes = some changed) :
    ∀ node ∈ changed, node.Proper := by
  fun_induction Entries.inLast change nodes generalizing changed with
  | case1 => simp at hchanged
  | case2 origin span entries =>
      obtain ⟨inner, hinner, hsome⟩ := Option.bind_eq_some_iff.mp hchanged
      cases hsome
      have hnode := hnodes (.table origin span entries) (by simp)
      have hentries : Entries.Proper entries := Node.proper_table_iff.mp hnode
      have hproper : Node.Proper (.table origin span inner) :=
        Node.proper_table_iff.mpr (h hentries hinner)
      simpa using hproper
  | case3 node rest _ ih =>
      obtain ⟨after, hafter, hsome⟩ := Option.bind_eq_some_iff.mp hchanged
      cases hsome
      have hfirst := hnodes node (by simp)
      have hrest := ih (fun other hmem => hnodes other (by simp [hmem])) hafter
      simpa using ⟨hfirst, hrest⟩

/-- So may the last table of a sequence that stands among them. -/
theorem replace_tables (h : Keeps change) {elements changed : List Node} {span : Span}
    (hentries : entries.Proper) (hfound : entries.find? name = some (.tables elements span))
    (hchanged : Entries.inLast change elements = some changed) :
    (entries.replace name (.tables changed span)).Proper := by
  have helements := Node.proper_tables_iff.mp (hentries.find? hfound)
  exact hentries.replace (Node.proper_tables_iff.mpr (h.inLast helements hchanged))

end Keeps

/-- A value that is proper may be put under any path. -/
theorem keeps_assign (hvalue : value.Proper) (parents : List Key) :
    Keeps (assign key value parents) := by
  induction parents with
  | nil =>
      intro entries changed hentries hchanged
      rw [assign] at hchanged
      split at hchanged
      next hfree =>
        cases hchanged
        exact hentries.append hfree hvalue
      next => cases hchanged
  | cons parent rest ih =>
      intro entries changed hentries hchanged
      rw [assign] at hchanged
      split at hchanged
      next hfree =>
        obtain ⟨inner, hinner, hsome⟩ := Option.bind_eq_some_iff.mp hchanged
        cases hsome
        exact hentries.append hfree (Node.proper_table_iff.mpr (ih .nil hinner))
      next span inner hfound =>
        obtain ⟨after, hafter, hsome⟩ := Option.bind_eq_some_iff.mp hchanged
        cases hsome
        exact ih.replace_table hentries hfound hafter
      next span inner hfound =>
        split at hchanged
        · cases hchanged
        · obtain ⟨after, hafter, hsome⟩ := Option.bind_eq_some_iff.mp hchanged
          cases hsome
          exact ih.replace_table hentries hfound hafter
      next elements span hfound =>
        split at hchanged
        · cases hchanged
        · obtain ⟨after, hafter, hsome⟩ := Option.bind_eq_some_iff.mp hchanged
          cases hsome
          exact ih.replace_tables hentries hfound hafter
      next => cases hchanged

/-- A change that keeps tables proper may be made below any header. -/
theorem Keeps.within {change : Entries → Option Entries} (h : Keeps change)
    (parents : List Key) : Keeps (within change parents) := by
  induction parents with
  | nil => exact h
  | cons parent rest ih =>
      intro entries changed hentries hchanged
      rw [Entries.within] at hchanged
      split at hchanged
      next hfree =>
        obtain ⟨inner, hinner, hsome⟩ := Option.bind_eq_some_iff.mp hchanged
        cases hsome
        exact hentries.append hfree (Node.proper_table_iff.mpr (ih .nil hinner))
      next origin span inner hfound =>
        split at hchanged
        · cases hchanged
        · obtain ⟨after, hafter, hsome⟩ := Option.bind_eq_some_iff.mp hchanged
          cases hsome
          exact ih.replace_table hentries hfound hafter
      next elements span hfound =>
        obtain ⟨after, hafter, hsome⟩ := Option.bind_eq_some_iff.mp hchanged
        cases hsome
        exact ih.replace_tables hentries hfound hafter
      next => cases hchanged

end Entries

/-! ## Readers -/

/-- Whatever the reader answers has the property. -/
def Scan.Yields {α : Type} (Has : α → Prop) (scan : Scan α) : Prop :=
  ∀ ⦃cursor found after⦄, scan cursor = .ok (found, after) → Has found

variable {α β : Type} {Has : α → Prop} {Will : β → Prop}

namespace Scan.Yields

theorem pure {a : α} (h : Has a) : Yields Has (Pure.pure a) := by
  intro cursor found after hscan
  cases hscan
  exact h

theorem fail : Yields Has Scan.fail := by
  intro cursor found after hscan
  cases hscan

theorem anything (scan : Scan α) : Yields (fun _ => True) scan := fun _ _ _ _ => trivial

/-- A reader that goes on from what the first one has answered. -/
theorem bind {first : Scan α} {next : α → Scan β} (Has : α → Prop) (hfirst : Yields Has first)
    (hnext : ∀ a, Has a → Yields Will (next a)) : Yields Will (first >>= next) := by
  intro cursor found after hscan
  obtain ⟨⟨a, middle⟩, hread, hrest⟩ := bind_eq_ok_iff.mp hscan
  exact hnext a (hfirst hread) hrest

/-- A reader that is followed by another, whatever it answers. -/
theorem andThen {first : Scan α} {next : α → Scan β} (hnext : ∀ a, Yields Will (next a)) :
    Yields Will (first >>= next) :=
  bind (fun _ => True) (anything first) fun a _ => hnext a

theorem lift {result : Except Nat α} (h : ∀ a, result = .ok a → Has a) :
    Yields Has (StateT.lift result) := by
  intro cursor found after hscan
  obtain ⟨a, hresult, hfound⟩ := bind_eq_ok_iff.mp hscan
  cases hfound
  exact h _ hresult

theorem spanned {scan : Scan α} (Has : α → Prop) (h : Yields Has scan) :
    Yields (fun found => Has found.1) (Scan.spanned scan) := by
  intro cursor found after hscan
  obtain ⟨reached, hread, hfound⟩ := bind_eq_ok_iff.mp hscan
  cases hfound
  exact h hread

/-- What is collected has the property that every round's answer has. -/
theorem collect {step : Scan (Option α)} (h : Yields (∀ a ∈ ·, Has a) step) :
    Yields (∀ a ∈ ·, Has a) (Scan.collect step) := by
  have hrounds : ∀ rounds, Yields (∀ a ∈ ·, Has a) (collectWithin step rounds) := by
    intro rounds
    induction rounds with
    | zero => exact fail
    | succ rounds ih =>
        refine bind _ h fun found hfound => ?_
        cases found with
        | none => exact pure (by simp)
        | some a =>
            refine bind _ ih fun rest hrest => pure (List.forall_mem_cons.mpr ⟨?_, hrest⟩)
            simpa using hfound
  exact fun cursor found after hscan => hrounds _ hscan

end Scan.Yields

/-! ## Values and lines -/

/-- Every value of some pairs is proper. -/
def ProperPairs (pairs : List (Path × Node)) : Prop := ∀ pair ∈ pairs, pair.2.Proper

theorem Entries.Proper.enter (hentries : entries.Proper) {pair : Path × Node}
    (hpair : pair.2.Proper) (h : entries.enter pair = .ok entries') : entries'.Proper := by
  rw [Entries.enter] at h
  split at h
  next changed hchanged =>
    cases h
    exact Entries.keeps_assign hpair pair.1.parents hentries hchanged
  next => cases h

/-- What each step keeps proper is proper after all of them. -/
theorem Entries.Proper.foldlM (Has : α → Prop) {step : Entries → α → Except Nat Entries}
    (hstep : ∀ a, Has a → ∀ entries entries' : Entries,
      entries.Proper → step entries a = .ok entries' → entries'.Proper)
    {all : List α} (hall : ∀ a ∈ all, Has a) (hentries : entries.Proper)
    (h : all.foldlM step entries = .ok entries') : entries'.Proper := by
  induction all generalizing entries with
  | nil =>
      cases h
      exact hentries
  | cons a all ih =>
      obtain ⟨ha, hrest⟩ := List.forall_mem_cons.mp hall
      rw [List.foldlM_cons] at h
      obtain ⟨changed, hfirst, hlater⟩ := bind_eq_ok_iff.mp h
      exact ih hrest (hstep a ha entries changed hentries hfirst) hlater

theorem Entries.Proper.foldlM_enter {pairs : List (Path × Node)} (hpairs : ProperPairs pairs)
    (hentries : entries.Proper) (h : pairs.foldlM Entries.enter entries = .ok entries') :
    entries'.Proper :=
  hentries.foldlM (fun pair : Path × Node => pair.2.Proper)
    (fun _ hpair _ _ hproper => hproper.enter hpair) hpairs h

open Scan (Yields)

variable {element : Scan Node}

/-- The elements of an array are answers of the reader for an element. -/
theorem yields_scanArray (h : Yields Node.Proper element) :
    Yields Node.Proper (Node.scanArray element) := by
  unfold Node.scanArray
  refine Yields.bind _ (Yields.spanned (∀ node ∈ ·, node.Proper) ?_) ?_
  · refine Yields.andThen fun _ => Yields.collect ?_
    refine Yields.andThen fun _ => Yields.andThen fun closed => ?_
    split
    · exact Yields.pure (by simp)
    · refine Yields.bind _ h fun node hnode => ?_
      have hanswer : Yields (∀ node ∈ ·, node.Proper) (pure (some node)) :=
        Yields.pure (by simpa using hnode)
      refine Yields.andThen fun _ => Yields.andThen fun last => ?_
      dsimp only
      split
      · exact hanswer
      · exact Yields.andThen fun _ => hanswer
  · exact fun found hfound => Yields.pure (.array hfound)

theorem yields_scanPair (h : Yields Node.Proper element) :
    Yields (fun pair => pair.2.Proper) (Node.scanPair element) := by
  unfold Node.scanPair
  refine Yields.andThen fun path => Yields.andThen fun _ => Yields.andThen fun _ => ?_
  exact Yields.bind _ h fun value hvalue => Yields.pure hvalue

/-- The entries of an inline table are entered one after the other. -/
theorem yields_scanInline (h : Yields Node.Proper element) :
    Yields Node.Proper (Node.scanInline element) := by
  unfold Node.scanInline
  refine Yields.bind _ (Yields.spanned ProperPairs ?_) ?_
  · refine Yields.andThen fun _ => Yields.andThen fun _ => Yields.andThen fun closed => ?_
    split
    · exact Yields.pure (by simp [ProperPairs])
    · refine Yields.bind _ (yields_scanPair h) fun first hfirst => Yields.andThen fun _ => ?_
      refine Yields.bind ProperPairs (Yields.collect (Yields.andThen fun comma => ?_)) ?_
      · split
        · refine Yields.bind _ (yields_scanPair h) fun pair hpair => Yields.andThen fun _ => ?_
          exact Yields.pure (by simpa using hpair)
        · exact Yields.pure (by simp)
      · intro more hmore
        exact Yields.andThen fun _ => Yields.pure (List.forall_mem_cons.mpr ⟨hfirst, hmore⟩)
  · intro found hfound
    have hentries : Yields Entries.Proper (StateT.lift (found.1.foldlM Entries.enter [])) :=
      Yields.lift fun entries hentries => .foldlM_enter hfound .nil hentries
    exact Yields.bind _ hentries fun entries hproper =>
      Yields.pure (Node.proper_table_iff.mpr hproper)

theorem yields_scanScalar : Yields Node.Proper (do
    let (value, span) ← Scan.spanned Scalar.scan
    return .scalar value span) :=
  Yields.andThen fun _ => Yields.pure .scalar

/-- A value is proper, however deep it may nest. -/
theorem yields_scan (depth : Nat) : Yields Node.Proper (Node.scan depth) := by
  induction depth with
  | zero => exact yields_scanScalar
  | succ depth ih =>
      rw [Node.scan]
      refine Yields.andThen fun next => ?_
      split
      · exact yields_scanArray ih
      · exact yields_scanInline ih
      · exact yields_scanScalar

/-- The pair on a line, if there is one, is proper. -/
def Line.Proper : Line → Prop
  | .pair entry => entry.2.Proper
  | .header _ _ _ => True

theorem yields_scanHeader : Yields Line.Proper Line.scanHeader := by
  unfold Line.scanHeader
  exact Yields.andThen fun _ => Yields.pure trivial

theorem yields_scanLine : Yields (∀ line ∈ ·, line.Proper) Line.scan := by
  unfold Line.scan
  refine Yields.andThen fun _ => Yields.andThen fun next => ?_
  split
  · exact Yields.pure (by simp)
  · refine Yields.bind _ yields_scanHeader fun line hline => Yields.andThen fun _ => ?_
    exact Yields.pure (by simpa using hline)
  · refine Yields.bind _ (yields_scanPair (yields_scan depthLimit)) fun pair hpair => ?_
    exact Yields.andThen fun _ => Yields.pure (by simpa [Line.Proper] using hpair)

theorem yields_scanAll : Yields (∀ line ∈ ·, line.Proper) Line.scanAll := by
  unfold Line.scanAll
  exact Yields.andThen fun _ => Yields.collect yields_scanLine

/-! ## Documents -/

/-- Cutting lines at the headers keeps the pairs as they are. -/
theorem properPairs_blocks {lines : List Line} (h : ∀ line ∈ lines, line.Proper) :
    ProperPairs (blocks lines).1 ∧ ∀ block ∈ (blocks lines).2, ProperPairs block.pairs := by
  induction lines with
  | nil => simp [blocks, ProperPairs]
  | cons line lines ih =>
      obtain ⟨hline, hlines⟩ := List.forall_mem_cons.mp h
      obtain ⟨hpairs, hblocks⟩ := ih hlines
      cases line with
      | pair pair => exact ⟨List.forall_mem_cons.mpr ⟨hline, hpairs⟩, hblocks⟩
      | header path repeated span =>
          exact ⟨by simp [blocks, ProperPairs], List.forall_mem_cons.mpr ⟨hpairs, hblocks⟩⟩

namespace HeaderBlock

variable {block : HeaderBlock}

/-- What stands below a header makes a proper table. -/
theorem proper_table (hpairs : ProperPairs block.pairs) (hentries : entries.Proper)
    (h : block.table entries = .ok node) : node.Proper := by
  rw [HeaderBlock.table] at h
  obtain ⟨inner, hinner, hnode⟩ := bind_eq_ok_iff.mp h
  cases hnode
  exact Node.proper_table_iff.mpr (.foldlM_enter hpairs hentries hinner)

/-- A block's table may be put where the header says. -/
theorem keeps_place {known : Entries → Option Node}
    (hknown : ∀ ⦃entries node⦄, Entries.Proper entries → known entries = some node → node.Proper) :
    Entries.Keeps (block.place known) := by
  intro entries changed hentries hchanged
  rw [HeaderBlock.place] at hchanged
  split at hchanged
  next hfree _ =>
    obtain ⟨table, htable, hsome⟩ := Option.bind_eq_some_iff.mp hchanged
    cases hsome
    have hproper := hknown .nil htable
    exact hentries.append hfree (.tables (by simpa using hproper))
  next elements span hfound _ =>
    obtain ⟨table, htable, hsome⟩ := Option.bind_eq_some_iff.mp hchanged
    cases hsome
    have helements := Node.proper_tables_iff.mp (hentries.find? hfound)
    have hproper := hknown .nil htable
    exact hentries.replace (.tables (by grind))
  next hfree _ =>
    obtain ⟨table, htable, hsome⟩ := Option.bind_eq_some_iff.mp hchanged
    cases hsome
    exact hentries.append hfree (hknown .nil htable)
  next span inner hfound _ =>
    obtain ⟨table, htable, hsome⟩ := Option.bind_eq_some_iff.mp hchanged
    cases hsome
    have hinner := Node.proper_table_iff.mp (hentries.find? hfound)
    exact hentries.erase.append Entries.find?_erase_self (hknown hinner htable)
  next => cases hchanged

theorem proper_add (hpairs : ProperPairs block.pairs) (hentries : entries.Proper)
    (h : block.add entries = .ok entries') : entries'.Proper := by
  rw [HeaderBlock.add] at h
  split at h
  next changed hchanged =>
    cases h
    have hkeeps : Entries.Keeps (block.place fun known => (block.table known).toOption) := by
      refine keeps_place fun known node hknown htable => ?_
      cases hblock : block.table known with
      | error offset => simp [hblock, Except.toOption] at htable
      | ok table =>
          simp only [hblock, Except.toOption, Option.some.injEq] at htable
          exact proper_table hpairs hknown (htable ▸ hblock)
    exact hkeeps.within block.path.parents hentries hchanged
  next => cases h

end HeaderBlock

/-- **The tables of a document have distinct names**, at every depth. -/
theorem proper_of_parse {content : String} {document : Entries}
    (h : Toml.parse content = .ok document) : document.Proper := by
  rw [Toml.parse] at h
  obtain ⟨⟨lines, after⟩, hlines, h⟩ := bind_eq_ok_iff.mp h
  obtain ⟨top, htop, hadded⟩ := bind_eq_ok_iff.mp h
  obtain ⟨hpairs, hblocks⟩ := properPairs_blocks (yields_scanAll hlines)
  have hproper : top.Proper := .foldlM_enter hpairs .nil htop
  exact hproper.foldlM (fun block => ProperPairs block.pairs)
    (fun _ hblock _ _ => HeaderBlock.proper_add hblock) hblocks hadded

end ImageLaunch.Toml
