import ImageLaunch.Segment.Load
import ImageLaunch.Proofs.Outcome
import ImageLaunch.Proofs.Segment.HeaderCodec
import ImageLaunch.Proofs.Segment.Reading
import ImageLaunch.Proofs.Segment.Validity

/-!
# ImageLaunch.Proofs.Segment.Loading

What loading a stream comes to.  `outcome` says what bytes load as, from a position for the
header, without any stream; `load_loads` says that a stream with these bytes loads as that,
however it splits its answers, unless it fails before the last byte that is needed.

* `load_determined` — the result, the position afterwards, and what faults do;
* `load_consistent_iff` — the header that was checked stands in front of the contents exactly
  if the bytes at the position are those at the start.
-/

namespace ImageLaunch.Segment

/-! ## What bytes load as -/

/-- The header that stands at a position. -/
def headerAt (data : Bytes) (position : Nat) : Except LoadError Header :=
  match Bytes.block? headerSize (data.drop position) with
  | none => .error (.truncated (UInt64.ofNat headerSize))
  | some (raw, _) => (Header.decode raw).mapError .corrupt

/-- What bytes load as if the header is taken from a position: the bytes from their start, as
many as the header declares. -/
def outcome (data : Bytes) (position : Nat) : Except LoadError Loaded :=
  match headerAt data position with
  | .error error => .error error
  | .ok header =>
    if data.length < header.size.toNat then .error (.truncated header.size)
    else .ok ⟨header, data.take header.size.toNat⟩

variable {data rest : Bytes} {position : Nat} {header : Header} {segment : Loaded}

theorem headerAt_of_short (h : (data.drop position).length < headerSize) :
    headerAt data position = .error (.truncated (UInt64.ofNat headerSize)) := by
  rw [headerAt, Bytes.block?_eq_none_iff.mpr h]

theorem headerAt_of_append {raw : Block headerSize} (h : data.drop position = raw.1 ++ rest) :
    headerAt data position = (Header.decode raw).mapError .corrupt := by
  rw [headerAt, h, Bytes.block?_append]

/-- A header is found where 48 bytes stand that decode to it. -/
theorem headerAt_eq_ok_iff :
    headerAt data position = .ok header ↔
      ∃ raw : Block headerSize, raw.1 = (data.drop position).take headerSize ∧
        Header.decode raw = .ok header := by
  constructor
  · intro h
    rw [headerAt] at h
    cases hblock : Bytes.block? headerSize (data.drop position) with
    | none => simp [hblock] at h
    | some found =>
        obtain ⟨raw, rest⟩ := found
        rw [hblock] at h
        refine ⟨raw, ?_, mapError_eq_ok_iff.mp h⟩
        rw [Bytes.block?_eq_some_iff.mp hblock, List.take_left' raw.2]
  · rintro ⟨raw, hraw, hdecode⟩
    have hnext : data.drop position = raw.1 ++ (data.drop position).drop headerSize := by
      rw [hraw, List.take_append_drop]
    rw [headerAt_of_append hnext, hdecode]
    rfl

/-- A header that is found is valid. -/
theorem valid_of_headerAt (h : headerAt data position = .ok header) : header.Valid := by
  obtain ⟨raw, -, hdecode⟩ := headerAt_eq_ok_iff.mp h
  exact (Header.decode_eq_ok_iff.mp hdecode).2

theorem outcome_eq_ok_iff :
    outcome data position = .ok segment ↔
      headerAt data position = .ok segment.header ∧
        segment.header.size.toNat ≤ data.length ∧
        segment.contents = data.take segment.header.size.toNat := by
  rw [outcome]
  cases hheader : headerAt data position with
  | error error => simp
  | ok header =>
      obtain ⟨found, contents⟩ := segment
      by_cases hshort : data.length < header.size.toNat
      · simp only [if_pos hshort, reduceCtorEq, Except.ok.injEq, false_iff]
        rintro ⟨rfl, hle, -⟩
        omega
      · simp only [if_neg hshort, Except.ok.injEq, Loaded.mk.injEq]
        constructor
        · rintro ⟨rfl, rfl⟩
          exact ⟨rfl, Nat.le_of_not_lt hshort, rfl⟩
        · rintro ⟨rfl, -, rfl⟩
          exact ⟨rfl, rfl⟩

theorem outcome_ne_tooLarge (size : UInt64) : outcome data position ≠ .error (.tooLarge size) := by
  rw [outcome, headerAt]
  cases Bytes.block? headerSize (data.drop position) with
  | none => simp
  | some found =>
      cases hdecode : Header.decode found.1 with
      | error fault => simp [hdecode, Except.mapError]
      | ok header =>
          simp only [hdecode, Except.mapError]
          split <;> simp

/-! ## What a stream loads as -/

namespace Reader

variable {reader after : Reader} {size : Nat}

/-- The stream can be rewound, and the first `size` bytes lie before the failing position. -/
def Rewinds (reader : Reader) (size : Nat) : Prop :=
  reader.habits.seekFails = none ∧ ∀ failing ∈ reader.habits.failAt, size ≤ failing.1

/-- No fault comes in the way of a segment of `size` bytes. -/
def Spares (reader : Reader) (size : Nat) : Prop :=
  reader.Clear headerSize ∧ reader.Rewinds size

/-- What reading a header brings. -/
inductive ReadsHeader (reader : Reader) : Except LoadError Header × Reader → Prop
  | failed {error : LoadError} {after : Reader} (hfault : ¬ reader.Clear headerSize)
      (herror : ∀ size, error ≠ .tooLarge size) : ReadsHeader reader (.error error, after)
  | refused {error : LoadError} {after : Reader}
      (hheader : headerAt reader.data reader.position = .error error) :
      ReadsHeader reader (.error error, after)
  | found {header : Header} {after : Reader}
      (hheader : headerAt reader.data reader.position = .ok header)
      (hclear : reader.Clear headerSize) (hmoved : Moved reader after headerSize) :
      ReadsHeader reader (.ok header, after)

theorem readHeader_readsHeader (h : reader.habits.Forthcoming) :
    ReadsHeader reader (readHeader reader) := by
  have hread := reader.readBlock_readsBlock h (by decide : 0 < headerSize)
  rw [readHeader]
  cases hblock : reader.readBlock headerSize with
  | mk answer after =>
      rw [hblock] at hread
      cases hread with
      | @failed error _ hfault =>
          cases error <;> exact .failed hfault (by simp)
      | short hend => exact .refused (headerAt_of_short hend)
      | @found raw rest _ hnext hclear hmoved =>
          have hheader := headerAt_of_append hnext
          cases hdecode : Header.decode raw with
          | error fault =>
              rw [hdecode] at hheader
              simp only [hdecode]
              exact .refused hheader
          | ok header =>
              rw [hdecode] at hheader
              simp only [hdecode]
              exact .found hheader hclear hmoved

/-- What reading the contents brings. -/
inductive ReadsContents (reader : Reader) (header : Header) :
    Except LoadError Loaded × Reader → Prop
  | failed {error : IoError} {after : Reader} (hfault : ¬ reader.Rewinds header.size.toNat) :
      ReadsContents reader header (.error (.io error), after)
  | short {after : Reader} (hend : reader.data.length < header.size.toNat) :
      ReadsContents reader header (.error (.truncated header.size), after)
  | whole {after : Reader} (hlength : header.size.toNat ≤ reader.data.length)
      (hrewinds : reader.Rewinds header.size.toNat)
      (hposition : after.position = header.size.toNat) :
      ReadsContents reader header (.ok ⟨header, reader.data.take header.size.toNat⟩, after)

theorem readContents_readsContents (reader : Reader) (h : reader.habits.Forthcoming)
    {header : Header} (hsize : 0 < header.size.toNat) :
    ReadsContents reader header (readContents header reader) := by
  rw [readContents, rewind]
  cases hseek : reader.habits.seekFails with
  | some error => exact .failed (fun hrewinds => by simp [hrewinds.1] at hseek)
  | none =>
      have hclear : Clear { reader with position := 0 } header.size.toNat ↔
          reader.Rewinds header.size.toNat := by
        simp only [Clear, Rewinds, hseek, true_and, Nat.zero_add]
      -- from here on only the outcome of the loop matters
      have hcollected := readUpTo_collected { reader with position := 0 } h header.size.toNat
      simp only
      generalize readUpTo { reader with position := 0 } header.size.toNat = gathered at hcollected ⊢
      cases hfailure : gathered.failure with
      | some error => exact .failed (mt hclear.mpr (hcollected.fault (by simp [hfailure])))
      | none =>
          have hbytes : gathered.bytes = reader.data.take header.size.toNat :=
            hcollected.bytes hfailure
          by_cases hshort : gathered.bytes.length < header.size.toNat
          · simp only [if_pos hshort]
            rw [hbytes, List.length_take] at hshort
            exact .short (by omega)
          · have hlength : header.size.toNat ≤ reader.data.length := by
              rw [hbytes, List.length_take] at hshort
              omega
            have hall : gathered.bytes.length = header.size.toNat := by
              rw [hbytes, List.length_take, Nat.min_eq_left hlength]
            have hposition : gathered.reader.position = header.size.toNat := by
              rw [hcollected.moved.position, hall, Nat.zero_add]
            have hrewinds := hclear.mp (hcollected.clear hfailure hsize hall)
            simp only [if_neg hshort]
            rw [hbytes]
            exact .whole hlength hrewinds hposition

/-- What loading brings: a failure that a fault is behind, or what the bytes load as, read
without meeting a fault. -/
inductive Loads (reader : Reader) : Except LoadError Loaded × Reader → Prop
  | failed {error : LoadError} {after : Reader}
      (hfault : ¬ reader.Clear headerSize ∨ ∃ header,
        headerAt reader.data reader.position = .ok header ∧ ¬ reader.Rewinds header.size.toNat)
      (herror : ∀ size, error ≠ .tooLarge size) : Loads reader (.error error, after)
  | refused {error : LoadError} {after : Reader}
      (houtcome : outcome reader.data reader.position = .error error) :
      Loads reader (.error error, after)
  | loaded {segment : Loaded} {after : Reader}
      (houtcome : outcome reader.data reader.position = .ok segment)
      (hspares : reader.Spares segment.header.size.toNat)
      (hposition : after.position = segment.header.size.toNat) :
      Loads reader (.ok segment, after)

theorem load_loads (h : reader.habits.Forthcoming) : Loads reader (load reader) := by
  have hread := readHeader_readsHeader h
  rw [load]
  cases hresult : readHeader reader with
  | mk answer after =>
      rw [hresult] at hread
      cases hread with
      | failed hfault herror =>
          exact .failed (.inl hfault) herror
      | refused hheader => exact .refused (by rw [outcome, hheader])
      | @found header _ hheader hclear hmoved =>
          have hsize : 48 ≤ header.size.toNat := (valid_of_headerAt hheader).reached.large
          have hcontents := after.readContents_readsContents (hmoved.habits ▸ h)
            (by omega : 0 < header.size.toNat)
          have hrewinds : after.Rewinds header.size.toNat ↔ reader.Rewinds header.size.toNat := by
            rw [Rewinds, Rewinds, hmoved.habits]
          simp only [lengthLimit, header.size.toNat_lt_size, if_true]
          cases hresult : readContents header after with
          | mk answer last =>
              rw [hresult] at hcontents
              cases hcontents with
              | failed hfault =>
                  exact .failed (.inr ⟨header, hheader, mt hrewinds.mpr hfault⟩) (by simp)
              | short hend =>
                  rw [hmoved.data] at hend
                  exact .refused (by rw [outcome, hheader]; exact if_pos hend)
              | whole hlength hrewound hposition =>
                  rw [hmoved.data] at hlength
                  have hloaded : outcome reader.data reader.position =
                      .ok ⟨header, after.data.take header.size.toNat⟩ :=
                    outcome_eq_ok_iff.mpr ⟨hheader, hlength, by rw [hmoved.data]⟩
                  exact .loaded hloaded ⟨hclear, hrewinds.mp hrewound⟩ hposition

/-- The same stream without faults. -/
def faultless (reader : Reader) : Reader :=
  { reader with habits := { reader.habits with failAt := none, seekFails := none } }

theorem spares_faultless (reader : Reader) (size : Nat) : reader.faultless.Spares size :=
  ⟨clear_of_failAt_eq_none rfl, rfl, fun _ hmem => nomatch hmem⟩

/-- Without faults, a stream loads as its bytes do. -/
theorem load_faultless (reader : Reader) (h : reader.habits.Forthcoming) :
    (load reader.faultless).1 = outcome reader.data reader.position := by
  have hloads : Loads reader.faultless (load reader.faultless) := load_loads h
  cases hload : load reader.faultless with
  | mk answer after =>
      rw [hload] at hloads
      cases hloads with
      | failed hfault herror =>
          rcases hfault with hfault | ⟨header, -, hfault⟩
          · exact absurd (reader.spares_faultless 0).1 hfault
          · exact absurd (reader.spares_faultless _).2 hfault
      | refused houtcome => exact houtcome.symm
      | loaded houtcome => exact houtcome.symm

/-- A stream loads as its bytes do exactly if no fault comes in the way. -/
theorem load_eq_ok_iff (h : reader.habits.Forthcoming) {segment : Loaded} :
    (load reader).1 = .ok segment ↔
      outcome reader.data reader.position = .ok segment ∧
        reader.Spares segment.header.size.toNat := by
  have hloads : Loads reader (load reader) := load_loads h
  cases hload : load reader with
  | mk answer after =>
      rw [hload] at hloads
      cases hloads with
      | failed hfault herror =>
          simp only [reduceCtorEq, false_iff]
          rintro ⟨houtcome, hspares⟩
          have hheader := (outcome_eq_ok_iff.mp houtcome).1
          rcases hfault with hfault | ⟨header, hfound, hfault⟩
          · exact hfault hspares.1
          · rw [hfound, Except.ok.injEq] at hheader
            exact hfault (hheader ▸ hspares.2)
      | refused houtcome => simp [houtcome]
      | loaded houtcome hspares =>
          simp only [houtcome, Except.ok.injEq]
          constructor
          · rintro rfl
            exact ⟨rfl, hspares⟩
          · exact And.left

end Reader

/-- A file loads as its bytes do. -/
theorem acquire_of_file {files : Files} {path contents : Bytes}
    (h : files.opened path = .ok (.file contents)) :
    acquire files path = (outcome contents 0).mapError (.load path) := by
  have hload : (load { data := contents }).1 = outcome contents 0 :=
    Reader.load_faultless { data := contents } fun _ _ hmost => nomatch hmost
  simp only [acquire, h, loadEntry, hload]

/-- What is acquired stands in a file that loads. -/
theorem acquire_eq_ok_iff {files : Files} {path : Bytes} :
    acquire files path = .ok segment ↔
      ∃ contents, files.opened path = .ok (.file contents) ∧ outcome contents 0 = .ok segment := by
  constructor
  · intro hacquired
    rcases hopened : files.opened path with error | ⟨contents | _⟩
    · simp only [acquire, hopened] at hacquired
      split at hacquired <;> cases hacquired
    · rw [acquire_of_file hopened, mapError_eq_ok_iff] at hacquired
      exact ⟨contents, rfl, hacquired⟩
    · simp [acquire, hopened, loadEntry, Except.mapError] at hacquired
  · rintro ⟨contents, hopened, houtcome⟩
    rw [acquire_of_file hopened, houtcome]
    rfl

/-- **What loading a stream comes to is settled by its bytes and its position.**  However the
answers are split and interrupted, a stream without faults loads as its bytes do; with faults it
loads as the same segment exactly if it can be rewound and no read has to reach the failing
position; a loaded stream is left right behind the segment; and no size is too large. -/
theorem load_determined (reader : Reader) (h : reader.habits.Forthcoming) :
    (load reader.faultless).1 = outcome reader.data reader.position ∧
    (∀ segment, (load reader).1 = .ok segment ↔
      (load reader.faultless).1 = .ok segment ∧ reader.habits.seekFails = none ∧
        ∀ failing ∈ reader.habits.failAt,
          reader.position + 48 ≤ failing.1 ∧ segment.header.size.toNat ≤ failing.1) ∧
    (∀ segment, (load reader).1 = .ok segment →
      (load reader).2.position = segment.header.size.toNat) ∧
    ∀ size, (load reader).1 ≠ .error (.tooLarge size) := by
  have hloads := Reader.load_loads h
  refine ⟨reader.load_faultless h, ?_, ?_, ?_⟩
  · intro segment
    rw [Reader.load_eq_ok_iff h, reader.load_faultless h]
    refine and_congr_right fun _ => ?_
    constructor
    · rintro ⟨hclear, hseek, hrewinds⟩
      exact ⟨hseek, fun failing hmem => ⟨hclear failing hmem, hrewinds failing hmem⟩⟩
    · rintro ⟨hseek, hfault⟩
      exact ⟨fun failing hmem => (hfault failing hmem).1, hseek,
        fun failing hmem => (hfault failing hmem).2⟩
  · intro segment hload
    generalize load reader = result at hloads hload
    cases hloads with
    | failed | refused => simp at hload
    | loaded houtcome hspares hposition =>
        cases hload
        exact hposition
  · intro size hload
    generalize load reader = result at hloads hload
    cases hloads with
    | failed hfault herror =>
        cases hload
        exact herror size rfl
    | refused houtcome =>
        cases hload
        exact outcome_ne_tooLarge size houtcome
    | loaded => simp at hload

/-- Short answers, each interrupted first, from a stream that fails right behind the segment and
holds one byte more. -/
theorem load_determined_up_to_fault :
    let header := Header.ofLayout 4096 49 49 48
    let reader : Reader := {
      data := header.bytes ++ [0xAB, 0xCD]
      habits := {
        most := fun _ => some 7
        pauses := fun _ => 1
        failAt := some (49, .system 5) } }
    reader.habits.Forthcoming ∧
      (load reader).1 = .ok ⟨header, header.bytes ++ [0xAB]⟩ ∧
      (load reader).2.position = 49 := by
  intro header reader
  have hforthcoming : reader.habits.Forthcoming := by
    rintro _ _ ⟨⟩
    decide
  obtain ⟨hfaultless, hok, hposition, -⟩ := load_determined reader hforthcoming
  have hload : (load reader).1 = .ok ⟨header, header.bytes ++ [0xAB]⟩ := by
    refine (hok _).mpr ⟨hfaultless.trans (by decide +kernel), rfl, ?_⟩
    intro failing hmem
    cases hmem
    decide
  exact ⟨hforthcoming, hload, hposition _ hload⟩

/-! ## The header in front of the contents -/

namespace Loaded

/-- The contents begin with the header that was checked. -/
def Consistent (segment : Loaded) : Prop :=
  ∃ raw : Block headerSize, raw.1 = segment.contents.take headerSize ∧
    Header.decode raw = .ok segment.header

end Loaded

/-- **A loaded segment holds as many bytes as its header declares, and it begins with that
header exactly if the 48 bytes at the position are the first 48 of the stream.**  The header is
read where the stream stands, the contents always from its start. -/
theorem load_consistent_iff {reader : Reader} (h : reader.habits.Forthcoming) {segment : Loaded}
    (hload : (load reader).1 = .ok segment) :
    segment.contents.length = segment.header.size.toNat ∧
      (segment.Consistent ↔
        (reader.data.drop reader.position).take 48 = reader.data.take 48) := by
  obtain ⟨hheader, hlength, hcontents⟩ :=
    outcome_eq_ok_iff.mp ((Reader.load_eq_ok_iff h).mp hload).1
  have hlarge : 48 ≤ segment.header.size.toNat := (valid_of_headerAt hheader).reached.large
  obtain ⟨raw, hraw, hdecode⟩ := headerAt_eq_ok_iff.mp hheader
  have hfront : segment.contents.take headerSize = reader.data.take headerSize := by
    rw [hcontents, List.take_take, headerSize, Nat.min_eq_left hlarge]
  refine ⟨by rw [hcontents, List.length_take, Nat.min_eq_left hlength], ?_⟩
  constructor
  · rintro ⟨found, hfound, hagain⟩
    have hsame : raw = found := Header.eq_of_decode hdecode hagain
    calc (reader.data.drop reader.position).take 48
      _ = raw.1 := hraw.symm
      _ = segment.contents.take headerSize := by rw [hsame, hfound]
      _ = reader.data.take 48 := hfront
  · intro hsame
    exact ⟨raw, by rw [hfront, hraw]; exact hsame, hdecode⟩

/-- The same segment twice, loaded from its second copy in short answers. -/
theorem load_consistent_copy :
    let header := Header.ofLayout 4096 49 49 48
    let image := header.bytes ++ [0xAB]
    let reader : Reader := {
      data := image ++ image, position := 49, habits := { most := fun _ => some 5 } }
    reader.habits.Forthcoming ∧ (load reader).1 = .ok ⟨header, image⟩ ∧
      Loaded.Consistent ⟨header, image⟩ := by
  intro header image reader
  have hforthcoming : reader.habits.Forthcoming := by
    rintro _ _ ⟨⟩
    decide
  have hload : (load reader).1 = .ok ⟨header, image⟩ := by decide +kernel
  have hsame : (reader.data.drop reader.position).take 48 = reader.data.take 48 := by
    decide +kernel
  exact ⟨hforthcoming, hload, (load_consistent_iff hforthcoming hload).2.mpr hsame⟩

/-- Two segments one after the other, loaded from where the second one starts: its header, with
the contents of the first. -/
theorem load_inconsistent :
    let first := Header.ofLayout 4096 49 49 48
    let second := Header.ofLayout 8192 49 49 48
    let reader : Reader := {
      data := first.bytes ++ [0xAB] ++ (second.bytes ++ [0xCD]), position := 49 }
    reader.habits.Forthcoming ∧
      (load reader).1 = .ok ⟨second, first.bytes ++ [0xAB]⟩ ∧
      ¬ Loaded.Consistent ⟨second, first.bytes ++ [0xAB]⟩ := by
  intro first second reader
  refine ⟨fun _ _ hmost => (nomatch hmost), by decide +kernel, ?_⟩
  rintro ⟨raw, hraw, hdecode⟩
  have hfirst : raw = first.encode Header.blank := Subtype.ext (hraw.trans (by decide +kernel))
  have hother : Header.decode (first.encode Header.blank) ≠ .ok second := by decide +kernel
  exact hother (hfirst ▸ hdecode)

end ImageLaunch.Segment
