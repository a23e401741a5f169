import ImageLaunch.Tool
import ImageLaunch.Proofs.Files.Replacing
import ImageLaunch.Proofs.Segment.Packing

/-!
# ImageLaunch.Proofs.Tool.Atomicity

A command of the tool does its work or leaves everything as it was.

Acts are put together from steps that only look at the world, steps that cannot fail, and the
replacing of a file.  An act stays atomic if what is put before it only looks, and if what is put
behind it cannot fail; the tool's commands are all put together so.

* `command_atomic` — a command that fails leaves the world as it was;
* `writeSegment_eq_ok_iff` — what packing does if it succeeds, which its check of itself never
  prevents (`writeSegment_ne_selfCheck`);
* `run_atomic` — both, for a run of the tool.
-/

namespace ImageLaunch.Tool

namespace Act

variable {ε ε' α β : Type} {act : Act ε α} {next : α → Act ε β} {world after : World}

/-! ## Running acts -/

theorem run_look {question : Files → Except ε α} :
    (look question).run world =
      match question world.files with
      | .ok value => .ok value world
      | .error error => .error error world := by
  rw [look, EStateM.run_bind, EStateM.run_get]
  show EStateM.run (match question world.files with
    | .ok value => pure value
    | .error error => throw error) world = _
  cases question world.files <;> rfl

theorem run_look_eq_ok_iff {question : Files → Except ε α} {value : α} :
    (look question).run world = .ok value after ↔
      question world.files = .ok value ∧ after = world := by
  rw [run_look]
  cases question world.files <;> simp [eq_comm]

theorem run_look_eq_error_iff {question : Files → Except ε α} {error : ε} :
    (look question).run world = .error error after ↔
      question world.files = .error error ∧ after = world := by
  rw [run_look]
  cases question world.files <;> simp [eq_comm]

/-- A failure under another name. -/
theorem run_look_mapError_eq_error_iff {question : Files → Except ε α} {rename : ε → ε'}
    {error : ε'} :
    (look fun files => (question files).mapError rename).run world = .error error after ↔
      (∃ cause, question world.files = .error cause ∧ rename cause = error) ∧ after = world := by
  rw [run_look_eq_error_iff]
  cases question world.files <;> simp [Except.mapError]

theorem run_bind_eq_ok_iff {value : β} :
    (act >>= next).run world = .ok value after ↔ ∃ first between,
      act.run world = .ok first between ∧ (next first).run between = .ok value after := by
  rw [EStateM.run_bind]
  cases act.run world <;> simp

theorem run_bind_eq_error_iff {error : ε} :
    (act >>= next).run world = .error error after ↔
      act.run world = .error error after ∨ ∃ first between,
        act.run world = .ok first between ∧ (next first).run between = .error error after := by
  rw [EStateM.run_bind]
  cases act.run world <;> simp

/-! ## Acts that leave the world as it is -/

/-- The act leaves the world as it is. -/
structure Looks (act : Act ε α) : Prop where
  ok : ∀ {world value after}, act.run world = .ok value after → after = world
  error : ∀ {world error after}, act.run world = .error error after → after = world

/-- The act does not fail. -/
def Sure (act : Act ε α) : Prop := ∀ world error after, act.run world ≠ .error error after

/-- If the act fails, it leaves the world as it is. -/
def Atomic (act : Act ε α) : Prop :=
  ∀ world error after, act.run world = .error error after → after = world

theorem looks_look (question : Files → Except ε α) : Looks (look question) where
  ok h := (run_look_eq_ok_iff.mp h).2
  error h := (run_look_eq_error_iff.mp h).2

theorem sure_pure (value : α) : Sure (pure value : Act ε α) := nofun

theorem sure_modify (change : World → World) : Sure (modify change : Act ε Unit) := nofun

theorem Sure.bind (hact : Sure act) (hnext : ∀ value, Sure (next value)) :
    Sure (act >>= next) := by
  intro world error after herror
  obtain hfirst | ⟨first, between, -, hrest⟩ := run_bind_eq_error_iff.mp herror
  · exact hact world error after hfirst
  · exact hnext first between error after hrest

theorem Looks.atomic (hact : Looks act) : Atomic act := fun _ _ _ => hact.error

/-- Looking beforehand does no harm. -/
theorem Looks.bind (hact : Looks act) (hnext : ∀ value, Atomic (next value)) :
    Atomic (act >>= next) := by
  intro world error after herror
  obtain hfirst | ⟨first, between, hfirst, hrest⟩ := run_bind_eq_error_iff.mp herror
  · exact hact.error hfirst
  · rw [hnext first between error after hrest, hact.ok hfirst]

/-- What cannot fail does no harm afterwards. -/
theorem Atomic.bind (hact : Atomic act) (hnext : ∀ value, Sure (next value)) :
    Atomic (act >>= next) := by
  intro world error after herror
  obtain hfirst | ⟨first, between, -, hrest⟩ := run_bind_eq_error_iff.mp herror
  · exact hact world error after hfirst
  · exact absurd hrest (hnext first between error after)

theorem Atomic.adaptExcept (hact : Atomic act) (rename : ε → ε') :
    Atomic (EStateM.adaptExcept rename act) := by
  intro world error after herror
  rw [EStateM.run_adaptExcept] at herror
  cases hrun : act.run world with
  | ok value between => simp [hrun] at herror
  | error failure between =>
      rw [hrun] at herror
      cases herror
      exact hact world failure _ hrun

/-! ## Replacing a file -/

/-- Whether a file can be replaced turns out before anything is changed. -/
theorem atomic_replace (path contents : Bytes) : Atomic (replace path contents) :=
  (looks_look _).atomic.bind fun _ => sure_modify _

theorem run_replace_eq_ok_iff {path contents : Bytes} {done : Unit} :
    (replace path contents).run world = .ok done after ↔ ∃ files,
      world.files.write path contents = .ok files ∧ after = { world with files := files } := by
  simp only [replace, run_bind_eq_ok_iff, run_look_eq_ok_iff, mapError_eq_ok_iff,
    EStateM.run_modify, EStateM.Result.ok.injEq, true_and]
  constructor
  · rintro ⟨files, world, ⟨hwrite, rfl⟩, rfl⟩
    exact ⟨files, hwrite, rfl⟩
  · rintro ⟨files, hwrite, rfl⟩
    exact ⟨files, world, ⟨hwrite, rfl⟩, rfl⟩

end Act

/-! ## Commands that fail -/

theorem writeSegment_atomic (arguments : CommandLine.PackArguments) :
    (writeSegment arguments).Atomic :=
  (Act.looks_look _).bind fun _ =>
    (Act.looks_look _).bind fun _ =>
      (Act.looks_look _).bind fun _ =>
        (Act.atomic_replace _ _).bind fun _ => Act.sure_pure _

theorem perform_atomic (request : CommandLine.ToolRequest) : (perform request).Atomic := by
  cases request with
  | pack arguments => exact (writeSegment_atomic arguments).bind fun _ => Act.sure_modify _
  | inspect path =>
      exact (Act.looks_look _).atomic.bind fun _ =>
        (Act.sure_modify _).bind fun _ => Act.sure_modify _

/-- A command that fails leaves the world as it was. -/
theorem command_atomic (argv : List Bytes) : (command argv).Atomic :=
  (Act.looks_look _).bind fun request => (perform_atomic request).adaptExcept _

/-! ## Packing -/

variable {arguments : CommandLine.PackArguments} {world after : World}

/-- Packing succeeds if the payload is read, packed and written; the check of itself adds
nothing. -/
theorem writeSegment_eq_ok_iff {header : Segment.Header} :
    (writeSegment arguments).run world = .ok header after ↔ ∃ payload image files,
      world.files.contents arguments.payload = .ok payload ∧
      Segment.pack payload arguments.base arguments.reserve arguments.moduleOffset = .ok image ∧
      world.files.write arguments.output image = .ok files ∧
      header = Segment.headerFor payload arguments.base arguments.reserve
        arguments.moduleOffset ∧ after = { world with files := files } := by
  simp only [writeSegment, Act.settle, Act.run_bind_eq_ok_iff, Act.run_look_eq_ok_iff,
    Act.run_replace_eq_ok_iff, mapError_eq_ok_iff, EStateM.run_pure,
    EStateM.Result.ok.injEq]
  constructor
  · rintro ⟨payload, _, ⟨hpayload, rfl⟩, image, _, ⟨himage, rfl⟩, header, _, ⟨hheader, rfl⟩, _,
      _, ⟨files, hwrite, rfl⟩, rfl, rfl⟩
    refine ⟨payload, image.1, files, hpayload, Segment.packImage_eq_ok_iff.mp himage, hwrite, ?_,
      rfl⟩
    exact Except.ok.inj (hheader.symm.trans (Segment.decode_front himage))
  · rintro ⟨payload, image, files, hpayload, hpack, hwrite, rfl, rfl⟩
    have himage := Segment.packImage_of_pack hpack
    exact ⟨payload, world, ⟨hpayload, rfl⟩, _, world, ⟨himage, rfl⟩, _, world,
      ⟨Segment.decode_front himage, rfl⟩, (), _, ⟨files, hwrite, rfl⟩, rfl, rfl⟩

/-- What fails is the reading, the packing or the writing: the image that is there decodes. -/
theorem writeSegment_ne_selfCheck {fault : Segment.Fault} :
    (writeSegment arguments).run world ≠ .error (.selfCheck fault) after := by
  intro herror
  obtain hread | ⟨payload, _, -, herror⟩ := Act.run_bind_eq_error_iff.mp herror
  · obtain ⟨⟨cause, -, ⟨⟩⟩, -⟩ := Act.run_look_mapError_eq_error_iff.mp hread
  obtain hpack | ⟨image, _, hpack, herror⟩ := Act.run_bind_eq_error_iff.mp herror
  · obtain ⟨⟨cause, -, ⟨⟩⟩, -⟩ := Act.run_look_mapError_eq_error_iff.mp hpack
  obtain hcheck | ⟨header, _, -, herror⟩ := Act.run_bind_eq_error_iff.mp herror
  · obtain ⟨⟨cause, hdecode, -⟩, -⟩ := Act.run_look_mapError_eq_error_iff.mp hcheck
    have himage := mapError_eq_ok_iff.mp (Act.run_look_eq_ok_iff.mp hpack).1
    cases (Segment.decode_front himage).symm.trans hdecode
  obtain hreplace | ⟨_, _, -, ⟨⟩⟩ := Act.run_bind_eq_error_iff.mp herror
  obtain hwrite | ⟨_, _, -, ⟨⟩⟩ := Act.run_bind_eq_error_iff.mp hreplace
  obtain ⟨⟨cause, -, ⟨⟩⟩, -⟩ := Act.run_look_mapError_eq_error_iff.mp hwrite

/-! ## Reading the header back -/

variable {files : Files} {path contents : Bytes}

theorem readHeader_of_contents (h : files.contents path = .ok contents) :
    readHeader files path = headerOf path contents := by
  simp only [readHeader, Files.contents_eq_ok_iff.mp h]

/-- A packed image shows the header that its payload got. -/
theorem headerOf_pack {payload image : Bytes} {base : UInt64}
    {reserve moduleOffset : Option UInt64} (path : Bytes)
    (h : Segment.pack payload base reserve moduleOffset = .ok image) :
    headerOf path image = .ok (Segment.headerFor payload base reserve moduleOffset) := by
  have hblock := Segment.Image.block?_eq ⟨image, Segment.headerSize_le_of_pack h⟩
  have hsize := Nat.not_lt_of_le (Segment.size_le_length_of_pack h)
  simp only [headerOf, hblock, Segment.decode_front (Segment.packImage_of_pack h),
    if_neg hsize]

/-- Packing that succeeds changes the output and nothing else, and the output shows the header
that is returned. -/
theorem onlyReplaced_of_writeSegment {header : Segment.Header}
    (h : (writeSegment arguments).run world = .ok header after) : ∃ payload image,
      world.files.contents arguments.payload = .ok payload ∧
      Segment.pack payload arguments.base arguments.reserve arguments.moduleOffset = .ok image ∧
      world.files.OnlyReplaced after.files arguments.output image ∧
      readHeader after.files arguments.output = .ok header ∧
      after = { world with files := after.files } := by
  obtain ⟨payload, image, files, hpayload, himage, hwrite, rfl, rfl⟩ :=
    writeSegment_eq_ok_iff.mp h
  have honly := Files.onlyReplaced_of_write hwrite
  refine ⟨payload, image, hpayload, himage, honly, ?_, rfl⟩
  rw [readHeader_of_contents honly.shown, headerOf_pack arguments.output himage]

/-! ## The tool -/

theorem files_of_print {ε : Type} {text : String} {done : Unit}
    (h : (Act.print text : Act ε Unit).run world = .ok done after) : after.files = world.files := by
  cases h
  rfl

/-- A run succeeds with the arguments read and the request carried out. -/
theorem performed_of_run {argv : List Bytes} (h : run files argv = .ok () world) :
    ∃ request, CommandLine.parseTool argv = .ok request ∧
      (perform request).run { files := files } = .ok () world := by
  rw [run, command, Act.run_bind_eq_ok_iff] at h
  obtain ⟨request, start, hparse, h⟩ := h
  obtain ⟨hrequest, rfl⟩ := Act.run_look_eq_ok_iff.mp hparse
  refine ⟨request, mapError_eq_ok_iff.mp hrequest, ?_⟩
  rw [EStateM.run_adaptExcept] at h
  cases hperform : (perform request).run { files := files } with
  | error failure between => simp [hperform] at h
  | ok done between => simpa [hperform] using h

/-- **A run of the tool is all or nothing.**  If it fails, the files are as they were and nothing
has been printed.  If it succeeds, it has inspected a segment and the files are as they were, or
it has packed what the payload file held at the start, and nothing but the output has changed,
whether or not there was a file before and whether or not it was the payload file: the output
holds the image now, and shows the header that packing has returned. -/
theorem run_atomic (files : Files) (argv : List Bytes) :
    (∀ error world, run files argv = .error error world →
      world.files = files ∧ world.printed = "") ∧
    (∀ world, run files argv = .ok () world →
      (∃ path, CommandLine.parseTool argv = .ok (.inspect path) ∧ world.files = files) ∨
      ∃ arguments payload image header,
        CommandLine.parseTool argv = .ok (.pack arguments) ∧
        files.contents arguments.payload = .ok payload ∧
        Segment.pack payload arguments.base arguments.reserve arguments.moduleOffset =
          .ok image ∧
        files.OnlyReplaced world.files arguments.output image ∧
        (writeSegment arguments).run { files := files } = .ok header { files := world.files } ∧
        readHeader world.files arguments.output = .ok header) := by
  constructor
  · intro error world herror
    rw [command_atomic argv _ error world herror]
    exact ⟨rfl, rfl⟩
  · intro world hrun
    obtain ⟨request, hparse, hperform⟩ := performed_of_run hrun
    cases request with
    | inspect path =>
        obtain ⟨header, between, hlook, hprint⟩ := Act.run_bind_eq_ok_iff.mp hperform
        obtain ⟨-, rfl⟩ := Act.run_look_eq_ok_iff.mp hlook
        obtain ⟨_, between, hfirst, hsecond⟩ := Act.run_bind_eq_ok_iff.mp hprint
        exact .inl ⟨path, hparse, (files_of_print hsecond).trans (files_of_print hfirst)⟩
    | pack arguments =>
        obtain ⟨header, between, hwrite, hprint⟩ := Act.run_bind_eq_ok_iff.mp hperform
        obtain ⟨payload, image, hpayload, himage, honly, hshown, hbetween⟩ :=
          onlyReplaced_of_writeSegment hwrite
        -- what is printed afterwards leaves the files as packing has left them
        rw [files_of_print hprint]
        refine .inr ⟨arguments, payload, image, header, hparse, hpayload, himage, honly, ?_, hshown⟩
        rw [hwrite]
        exact congrArg _ hbetween

/-- A payload file that is packed over itself. -/
theorem run_atomic_over_payload :
    let path := Bytes.ofString "payload"
    let files : Files := { entries := [([path], .file [0xAB])] }
    let argv := ["segment-tool", "pack", "-p", "payload", "-o", "payload"].map Bytes.ofString
    ∃ world image, run files argv = .ok () world ∧
      Segment.pack [0xAB] Segment.defaultBase none none = .ok image ∧
      world.files.contents path = .ok image := by
  intro path files argv
  have hparse : CommandLine.parseTool argv =
      .ok (.pack ⟨path, path, Segment.defaultBase, none, none⟩) := by decide +kernel
  have hpayload : files.contents path = .ok [0xAB] := by decide +kernel
  have hsucceeds : (match run files argv with
      | .ok () _ => true
      | .error _ _ => false) = true := by decide +kernel
  cases hrun : run files argv with
  | error error world => simp [hrun] at hsucceeds
  | ok done world =>
      obtain ⟨_, hinspect, -⟩ | ⟨arguments, payload, image, header, hpack, hcontents, himage,
        honly, -, -⟩ := (run_atomic files argv).2 world hrun
      · cases hparse.symm.trans hinspect
      · cases hparse.symm.trans hpack
        cases hpayload.symm.trans hcontents
        exact ⟨world, image, rfl, himage, honly.shown⟩

end ImageLaunch.Tool
