import ImageLaunch.Files
import ImageLaunch.Proofs.Outcome

/-!
# ImageLaunch.Proofs.Files.Replacing

What replacing a whole file changes: the one place that its path names.

* `Names` — a path leads to a place, whether or not something is there;
* `Replaced` — what holds of the files afterwards, place by place;
* `onlyReplaced_of_write` — the same, path by path.

No path leads through the place, before or afterwards: there was no directory, and there is none
now.  So every path is followed through the same directories, and differs at its end only.
-/

namespace ImageLaunch.Files

variable {before after : Files} {path contents : Bytes} {place : List Bytes}

/-- The path leads to a place. -/
def Names (files : Files) (path : Bytes) (place : List Bytes) : Prop :=
  ∃ entry slash, files.locate path = .ok (.named place entry, slash)

/-- At one place, where no directory was, there is now a file with the given contents. -/
structure Replaced (before after : Files) (place : List Bytes) (contents : Bytes) : Prop where
  home_eq : after.home = before.home
  no_directory : before.entry? place ≠ some .directory
  here : after.entry? place = some (.file contents)
  elsewhere : ∀ components, components ≠ place → after.entry? components = before.entry? components

/-! ## Putting an entry in place -/

theorem lookup_filter_ne {entries : List (List Bytes × Entry)} {components : List Bytes}
    (h : components ≠ place) :
    (entries.filter (·.1 ≠ place)).lookup components = entries.lookup components := by
  induction entries with
  | nil => rfl
  | cons entry entries ih =>
      by_cases hplace : entry.1 = place
      · have hne : (components == entry.1) = false := by
          rw [hplace]
          exact beq_false_of_ne h
        rw [List.filter_cons_of_neg (by simp [hplace]), ih, List.lookup_cons, hne]
      · rw [List.filter_cons_of_pos (by simp [hplace]), List.lookup_cons, List.lookup_cons, ih]

/-- A file put where no directory was. -/
theorem replaced_put (contents : Bytes) (h : before.entry? place ≠ some .directory) :
    Replaced before (before.put place (.file contents)) place contents where
  home_eq := rfl
  no_directory := h
  here := by
    rw [Files.entry?] at h ⊢
    split at h
    · exact absurd rfl h
    · rename_i hplace
      rw [if_neg (by simpa only [put] using hplace), put, List.lookup_cons_self]
  elsewhere := by
    intro components hne
    rw [Files.entry?, Files.entry?, put, List.lookup_cons, beq_false_of_ne hne,
      lookup_filter_ne hne]

/-! ## Following a path -/

theorem named?_of_long {files : Files} {standing : Standing} {name : Bytes}
    (h : nameLimit < name.length) : files.named? standing name = .error .nameTooLong := by
  unfold named?
  exact if_pos h

theorem named?_inside {files : Files} {components : List Bytes} {name : Bytes}
    (h : ¬ nameLimit < name.length) :
    files.named? (.inside components) name = .ok (files.entry? (components ++ [name])) := by
  unfold named?
  exact if_neg h

theorem named?_outside {files : Files} {name : Bytes} (h : ¬ nameLimit < name.length) :
    files.named? .outside name = .ok none := by
  unfold named?
  exact if_neg h

/-- A name other than dots is entered exactly if a directory is there. -/
theorem enter_eq_ok_iff {files : Files} {standing next : Standing} {name : Bytes}
    (hdot : name ≠ [0x2E]) (hdots : name ≠ [0x2E, 0x2E]) :
    files.enter standing name = .ok next ↔ ∃ components, standing = .inside components ∧
      ¬ nameLimit < name.length ∧ files.entry? (components ++ [name]) = some .directory ∧
      next = .inside (components ++ [name]) := by
  simp only [enter, if_neg hdot, if_neg hdots, bind_eq_ok_iff]
  by_cases hlong : nameLimit < name.length
  · simp [named?_of_long hlong, hlong]
  cases standing with
  | outside => simp [named?_outside hlong]
  | inside components =>
      simp only [named?_inside hlong, Except.ok.injEq, exists_eq_left', Standing.inside.injEq,
        hlong, not_false_eq_true, true_and]
      rcases files.entry? (components ++ [name]) with _ | _ | _ <;> simp [eq_comm]

/-- What a path ends in once the file is there. -/
def Target.withFile (place : List Bytes) (contents : Bytes) : Target → Target
  | .named components entry =>
    .named components (if components = place then some (.file contents) else entry)
  | target => target

namespace Replaced

variable (h : Replaced before after place contents)

include h

theorem entry?_eq (components : List Bytes) :
    after.entry? components =
      if components = place then some (.file contents) else before.entry? components := by
  split
  · next heq => rw [heq, h.here]
  · next hne => exact h.elsewhere components hne

/-- The directories are the same. -/
theorem directory_iff {components : List Bytes} :
    after.entry? components = some .directory ↔ before.entry? components = some .directory := by
  rw [h.entry?_eq]
  split
  · next heq => simp [heq, h.no_directory]
  · rfl

theorem enter_iff {standing next : Standing} {name : Bytes} :
    after.enter standing name = .ok next ↔ before.enter standing name = .ok next := by
  by_cases hdot : name = [0x2E]
  · simp only [enter, if_pos hdot]
  by_cases hdots : name = [0x2E, 0x2E]
  · simp only [enter, if_neg hdot, if_pos hdots]
  simp only [enter_eq_ok_iff hdot hdots, h.directory_iff]

/-- A path is followed through the same directories. -/
theorem follow_iff {slash : Bool} {standing : Standing} {names : List Bytes} {trail : Trail} :
    after.follow slash standing names = .ok trail ↔
      before.follow slash standing names = .ok trail := by
  fun_induction follow after slash standing names with
  | case1 standing => rfl
  | case2 standing name => rfl
  | case3 standing name rest hrest ih =>
      -- the first name is entered in both or in neither, and leads to the same place
      rw [follow]
      · simp only [bind_eq_ok_iff, h.enter_iff, ih]
      · exact hrest

theorem trail_iff {trail : Trail} :
    after.trail path = .ok trail ↔ before.trail path = .ok trail := by
  unfold Files.trail
  rw [h.home_eq]
  split
  · rfl
  split
  · rfl
  split
  · rfl
  exact h.follow_iff

theorem target_eq (trail : Trail) :
    after.target trail = (before.target trail).map (Target.withFile place contents) := by
  unfold target
  cases trail.name with
  | none => rfl
  | some name =>
      by_cases hlong : nameLimit < name.length
      · simp only [named?_of_long hlong]
        rfl
      · cases trail.standing with
        | outside =>
            simp only [named?_outside hlong]
            rfl
        | inside components =>
            simp only [named?_inside hlong, h.entry?_eq]
            rfl

/-- A path ends where it ended before; only what is there may be the file now. -/
theorem locate_iff {target : Target} {slash : Bool} :
    after.locate path = .ok (target, slash) ↔ ∃ found,
      before.locate path = .ok (found, slash) ∧ found.withFile place contents = target := by
  simp only [locate, bind_eq_ok_iff, h.trail_iff, h.target_eq, Except.ok.injEq, Prod.mk.injEq]
  constructor
  · rintro ⟨trail, htrail, target, htarget, rfl, rfl⟩
    cases hfound : before.target trail with
    | error error => simp [hfound, Except.map] at htarget
    | ok found =>
        simp only [hfound, Except.map, Except.ok.injEq] at htarget
        exact ⟨found, ⟨trail, htrail, found, hfound, rfl, rfl⟩, htarget⟩
  · rintro ⟨found, ⟨trail, htrail, _, hfound, rfl, rfl⟩, rfl⟩
    exact ⟨trail, htrail, _, by rw [hfound]; rfl, rfl, rfl⟩

end Replaced

/-! ## Opening a path -/

/-- A path opens to a directory that dots lead to, or to what is at the place it names; only a
directory is opened with a slash behind it. -/
theorem opened_eq_ok_iff {files : Files} {entry : Entry} :
    files.opened path = .ok entry ↔
      (∃ slash, files.locate path = .ok (.directory, slash) ∧ entry = .directory) ∨
      ∃ place slash, files.locate path = .ok (.named place (some entry), slash) ∧
        (slash = true → entry = .directory) := by
  rw [opened, bind_eq_ok_iff]
  constructor
  · rintro ⟨⟨target, slash⟩, hlocate, hentry⟩
    rcases target with _ | ⟨place, _ | bytes | _⟩ | _
    · cases hentry
      exact .inl ⟨slash, hlocate, rfl⟩
    · cases hentry
    · cases slash with
      | false =>
          cases hentry
          exact .inr ⟨place, false, hlocate, nofun⟩
      | true => cases hentry
    · cases hentry
      exact .inr ⟨place, slash, hlocate, fun _ => rfl⟩
    · cases hentry
  · rintro (⟨slash, hlocate, rfl⟩ | ⟨place, slash, hlocate, hslash⟩)
    · exact ⟨_, hlocate, rfl⟩
    · refine ⟨_, hlocate, ?_⟩
      cases entry with
      | directory => rfl
      | file bytes =>
          cases slash with
          | false => rfl
          | true => cases hslash rfl

theorem contents_eq_ok_iff {files : Files} :
    files.contents path = .ok contents ↔ files.opened path = .ok (.file contents) := by
  rw [Files.contents, bind_eq_ok_iff]
  constructor
  · rintro ⟨_ | _, hopened, hcontents⟩
    · cases hcontents
      exact hopened
    · cases hcontents
  · exact fun hopened => ⟨_, hopened, rfl⟩

/-! ## Replacing a file -/

theorem target_named {files : Files} {trail : Trail} {entry : Option Entry}
    (h : files.target trail = .ok (.named place entry)) : entry = files.entry? place := by
  unfold target at h
  split at h
  · cases h
  · next name _ =>
      obtain ⟨found, hfound, h⟩ := bind_eq_ok_iff.mp h
      by_cases hlong : nameLimit < name.length
      · simp [named?_of_long hlong] at hfound
      · cases hstanding : trail.standing with
        | outside => simp [hstanding] at h
        | inside components =>
            rw [hstanding, named?_inside hlong] at hfound
            cases hfound
            simp only [hstanding, Except.ok.injEq, Target.named.injEq] at h
            obtain ⟨rfl, rfl⟩ := h
            rfl

/-- A file that is written is put where its path leads, and no directory was there. -/
theorem put_of_write (h : before.write path contents = .ok after) : ∃ place entry,
    before.locate path = .ok (.named place entry, false) ∧
      before.entry? place ≠ some .directory ∧ after = before.put place (.file contents) := by
  rw [write, bind_eq_ok_iff] at h
  obtain ⟨trail, htrail, h⟩ := h
  cases hslash : trail.slash with
  | true => simp [hslash] at h
  | false =>
      simp only [hslash, Bool.false_eq_true, if_false, bind_eq_ok_iff] at h
      obtain ⟨target, htarget, h⟩ := h
      cases target with
      | directory => cases h
      | missing => cases h
      | named place entry =>
          have hlocate : before.locate path = .ok (.named place entry, false) := by
            simp only [locate, htrail, htarget, hslash, bind, Except.bind]
          have hentry := target_named htarget
          refine ⟨place, entry, hlocate, ?_⟩
          rcases entry with _ | bytes | _
          · exact ⟨by simp [← hentry], by simpa [eq_comm] using h⟩
          · exact ⟨by simp [← hentry], by simpa [eq_comm] using h⟩
          · cases h

namespace Replaced

variable (h : Replaced before after place contents) {other : Bytes}

include h

/-- A path that does not name the place ends where it ended, in what was there. -/
theorem locate_iff_of_not_names (hother : ¬ before.Names other place) {target : Target}
    {slash : Bool} :
    after.locate other = .ok (target, slash) ↔ before.locate other = .ok (target, slash) := by
  have hkeep : ∀ found, before.locate other = .ok (found, slash) →
      found.withFile place contents = found := by
    rintro (_ | ⟨components, entry⟩ | _) hfound
    · rfl
    · have hne : components ≠ place := by
        rintro rfl
        exact hother ⟨entry, slash, hfound⟩
      rw [Target.withFile, if_neg hne]
    · rfl
  rw [h.locate_iff]
  constructor
  · rintro ⟨found, hfound, rfl⟩
    rwa [hkeep found hfound]
  · exact fun hlocate => ⟨target, hlocate, hkeep target hlocate⟩

/-- Elsewhere the same opens as before. -/
theorem opened_iff_of_not_names (hother : ¬ before.Names other place) {entry : Entry} :
    after.opened other = .ok entry ↔ before.opened other = .ok entry := by
  simp only [opened_eq_ok_iff, h.locate_iff_of_not_names hother]

/-- Every path that names the place without a slash behind it leads to the file. -/
theorem contents_eq {entry : Option Entry}
    (hother : before.locate other = .ok (.named place entry, false)) :
    after.contents other = .ok contents := by
  refine contents_eq_ok_iff.mpr (opened_eq_ok_iff.mpr (.inr ⟨place, false, ?_, nofun⟩))
  exact h.locate_iff.mpr ⟨_, hother, by rw [Target.withFile, if_pos rfl]⟩

end Replaced

/-- Nothing has changed but the place that a path names, and the path shows the contents now. -/
structure OnlyReplaced (before after : Files) (path contents : Bytes) : Prop where
  shown : after.contents path = .ok contents
  elsewhere : ∃ place, before.Names path place ∧
    (∀ components, components ≠ place → after.entry? components = before.entry? components) ∧
    ∀ other, ¬ before.Names other place →
      ∀ entry, after.opened other = .ok entry ↔ before.opened other = .ok entry

/-- **Writing replaces one file** and changes nothing else, under whatever names it goes. -/
theorem onlyReplaced_of_write (h : before.write path contents = .ok after) :
    OnlyReplaced before after path contents := by
  obtain ⟨place, entry, hlocate, hnone, rfl⟩ := put_of_write h
  have hreplaced := replaced_put contents hnone
  exact ⟨hreplaced.contents_eq hlocate, place, ⟨entry, false, hlocate⟩, hreplaced.elsewhere,
    fun other hother entry => hreplaced.opened_iff_of_not_names hother⟩

end ImageLaunch.Files
