import ImageLaunch.Tool
import ImageLaunch.Segment.Source
import ImageLaunch.Proofs.Numeral.Writing
import ImageLaunch.Proofs.Segment.Loading

/-!
# ImageLaunch.Proofs.Tool.Agreement

The tool, which compares a file's length with the declared size, and the launcher, which reads
the file, agree on which files are segments and on what is wrong with the others.

`Verdict` pairs what the two say about the bytes of a file; `readHeader_agrees` says it of every
path.
-/

namespace ImageLaunch.Tool

open Segment (headerSize)

/-! ## Root causes -/

/-- What is at the bottom of a failure: a failed operation, a broken rule, or a complaint of the
tool's own. -/
inductive RootCause
  | io (error : IoError)
  | segment (fault : Segment.Fault)
  | complaint (text : String)
  deriving DecidableEq, Repr

/-- The root cause of a failure. -/
def Failure.rootCause : Failure → RootCause
  | .io _ _ error => .io error
  | .pack (.layout _ _ fault) => .segment fault
  | .pack .emptyPayload => .complaint Segment.PackFault.emptyPayload.message
  | .selfCheck fault => .segment fault
  | .decode _ fault => .segment fault
  | .truncated path declared actual => .complaint (Failure.truncated path declared actual).message

/-- The complaint about a truncated file tells the declared size. -/
theorem declared_of_truncated_message {path : Bytes} {declared other : UInt64} {actual : Nat}
    (h : (Failure.truncated path declared actual).message =
      (Failure.truncated path other actual).message) : declared = other := by
  simp only [Failure.message, Failure.outermost, String.append_left_inj,
    String.append_right_inj] at h
  exact UInt64.toNat_inj.mp (Numeral.decimal_injective h)

/-! ## Two verdicts on the bytes of a file -/

/-- What the tool and the launcher say about the same bytes. -/
inductive Verdict (path contents : Bytes) :
    Except Failure Segment.Header → Except Segment.LoadError Segment.Loaded → Prop
  | short (hend : contents.length < headerSize) :
      Verdict path contents (.error (.io .readHeader path .shortRead)) (.error (.truncated 48))
  | corrupt (fault : Segment.Fault) :
      Verdict path contents (.error (.decode path fault)) (.error (.corrupt fault))
  | overstated (declared : UInt64) (hfront : headerSize ≤ contents.length)
      (hend : contents.length < declared.toNat) :
      Verdict path contents (.error (.truncated path declared contents.length))
        (.error (.truncated declared))
  | segment (segment : Segment.Loaded) :
      Verdict path contents (.ok segment.header) (.ok segment)

theorem verdict (path contents : Bytes) :
    Verdict path contents (headerOf path contents) (Segment.outcome contents 0) := by
  rw [headerOf, Segment.outcome, Segment.headerAt, List.drop_zero]
  cases hblock : Bytes.block? headerSize contents with
  | none => exact .short (Bytes.block?_eq_none_iff.mp hblock)
  | some found =>
      have hfront : headerSize ≤ contents.length := by
        rw [← Nat.not_lt, ← Bytes.block?_eq_none_iff, hblock]
        simp
      cases hdecode : Segment.Header.decode found.1 with
      | error fault =>
          simp only [hdecode, Except.mapError]
          exact .corrupt fault
      | ok header =>
          simp only [hdecode, Except.mapError]
          by_cases hend : contents.length < header.size.toNat
          · simp only [if_pos hend]
            exact .overstated header.size hfront hend
          · simp only [if_neg hend]
            exact .segment ⟨header, contents.take header.size.toNat⟩

namespace Verdict

variable {path contents : Bytes} {shown : Except Failure Segment.Header}
  {acquired : Except Segment.LoadError Segment.Loaded}

theorem ok_iff (h : Verdict path contents shown acquired) (header : Segment.Header) :
    shown = .ok header ↔ ∃ segment, acquired = .ok segment ∧ segment.header = header := by
  cases h <;> simp

theorem short_iff (h : Verdict path contents shown acquired) :
    shown.mapError Failure.rootCause = .error (.io .shortRead) ↔
      acquired = .error (.truncated 48) := by
  cases h with
  | short hend => simp [Except.mapError, Failure.rootCause]
  | corrupt fault => simp [Except.mapError, Failure.rootCause]
  | overstated declared hfront hend =>
      -- a declared size that the file does not reach is more than a header
      have hmore : declared ≠ 48 := by
        rintro rfl
        exact Nat.lt_irrefl 48 (Nat.lt_of_le_of_lt hfront hend)
      simp [Except.mapError, Failure.rootCause, hmore]
  | segment segment => simp [Except.mapError]

theorem corrupt_iff (h : Verdict path contents shown acquired) (fault : Segment.Fault) :
    shown.mapError Failure.rootCause = .error (.segment fault) ↔
      acquired = .error (.corrupt fault) := by
  cases h <;> simp [Except.mapError, Failure.rootCause]

theorem overstated_iff (h : Verdict path contents shown acquired) (declared : UInt64) :
    shown.mapError Failure.rootCause =
        .error (.complaint (Failure.truncated path declared contents.length).message) ↔
      acquired = .error (.truncated declared) ∧ 48 ≤ contents.length := by
  cases h with
  | short hend =>
      have hend : ¬ 48 ≤ contents.length := Nat.not_le_of_lt hend
      simp [Except.mapError, Failure.rootCause, hend]
  | corrupt fault => simp [Except.mapError, Failure.rootCause]
  | overstated found hfront hend =>
      have hfront : 48 ≤ contents.length := hfront
      simp only [Except.mapError, Failure.rootCause, Except.error.injEq,
        RootCause.complaint.injEq, Segment.LoadError.truncated.injEq, hfront, and_true]
      constructor
      · exact declared_of_truncated_message
      · rintro rfl
        rfl
  | segment segment => simp [Except.mapError]

end Verdict

/-! ## Two verdicts on a path -/

/-- The path under which a load failed says nothing about the failure. -/
theorem mapError_load_eq_iff {path : Bytes} {acquired : Except Segment.LoadError Segment.Loaded}
    {error : Segment.LoadError} :
    acquired.mapError (Segment.AcquireError.load path) = .error (.load path error) ↔
      acquired = .error error := by
  cases acquired <;> simp [Except.mapError]

/-- What does not open as a file is refused by both. -/
theorem refused_of_not_file {files : Files} {path : Bytes}
    (h : ∀ contents, files.opened path ≠ .ok (.file contents)) :
    (∃ failure, readHeader files path = .error failure) ∧
      ∃ error, Segment.acquire files path = .error error := by
  cases hopened : files.opened path with
  | error error =>
      refine ⟨⟨.io .open path error, by simp only [readHeader, hopened]⟩, ?_⟩
      simp only [Segment.acquire, hopened]
      split
      · exact ⟨_, rfl⟩
      · exact ⟨_, rfl⟩
  | ok entry =>
      cases entry with
      | file contents => exact absurd hopened (h contents)
      | directory =>
          exact ⟨⟨.io .readHeader path .isDirectory, by simp only [readHeader, hopened]⟩,
            ⟨.load path (.io .isDirectory), by simp only [Segment.acquire, hopened]; rfl⟩⟩

/-- **The tool and the launcher agree.**  A path shows a header to the tool exactly if it yields
a segment with that header to the launcher.  On a file the refusals correspond by their root
causes: an end inside the header, a broken rule of the header, and a declared size that the file
does not reach. -/
theorem readHeader_agrees (files : Files) (path : Bytes) :
    let shown := readHeader files path
    let acquired := (Segment.fileSource.acquire path files).value
    (∀ header, shown = .ok header ↔ ∃ segment, acquired = .ok segment ∧ segment.header = header) ∧
    ∀ contents, files.opened path = .ok (.file contents) →
      (shown.mapError Failure.rootCause = .error (.io .shortRead) ↔
        acquired = .error (.load path (.truncated 48))) ∧
      (∀ fault, shown.mapError Failure.rootCause = .error (.segment fault) ↔
        acquired = .error (.load path (.corrupt fault))) ∧
      ∀ declared,
        shown.mapError Failure.rootCause =
            .error (.complaint (Failure.truncated path declared contents.length).message) ↔
          acquired = .error (.load path (.truncated declared)) ∧ 48 ≤ contents.length := by
  have hfile : ∀ contents, files.opened path = .ok (.file contents) →
      readHeader files path = headerOf path contents := by
    intro contents hopened
    simp only [readHeader, hopened]
  simp only [Segment.fileSource_acquire_value]
  constructor
  · intro header
    by_cases hopens : ∃ contents, files.opened path = .ok (.file contents)
    · obtain ⟨contents, hopened⟩ := hopens
      simp only [hfile contents hopened, Segment.acquire_of_file hopened,
        mapError_eq_ok_iff]
      exact (verdict path contents).ok_iff header
    · obtain ⟨⟨failure, hshown⟩, error, hacquired⟩ :=
        refused_of_not_file (not_exists.mp hopens)
      simp [hshown, hacquired]
  · intro contents hopened
    have hverdict := verdict path contents
    simp only [hfile contents hopened, Segment.acquire_of_file hopened, mapError_load_eq_iff]
    exact ⟨hverdict.short_iff, hverdict.corrupt_iff, hverdict.overstated_iff⟩

/-- A file that ends right behind a header that declares one byte more. -/
theorem readHeader_agrees_overstated :
    let path := Bytes.ofString "./short.seg"
    let contents := (Segment.Header.ofLayout 4096 49 49 48).bytes
    let files : Files := { entries := [([Bytes.ofString "short.seg"], .file contents)] }
    files.opened path = .ok (.file contents) ∧
      readHeader files path = .error (.truncated path 49 48) ∧
      (Segment.fileSource.acquire path files).value = .error (.load path (.truncated 49)) := by
  intro path contents files
  have hopened : files.opened path = .ok (.file contents) := by decide +kernel
  have hshown : readHeader files path = .error (.truncated path 49 48) := by decide +kernel
  obtain ⟨-, hrefused⟩ := readHeader_agrees files path
  obtain ⟨-, -, htruncated⟩ := hrefused contents hopened
  have hcause : (readHeader files path).mapError Failure.rootCause =
      .error (.complaint (Failure.truncated path 49 contents.length).message) := by
    rw [hshown]
    rfl
  exact ⟨hopened, hshown, ((htruncated 49).mp hcause).1⟩

end ImageLaunch.Tool
