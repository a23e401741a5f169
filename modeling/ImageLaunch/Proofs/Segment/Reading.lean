import ImageLaunch.Segment.Reader

/-!
# ImageLaunch.Proofs.Segment.Reading

What a loop of reads collects, however the stream splits its answers and however often it is
interrupted.

* `Answers` — what one answered read brings: a failure at the failing position, or some of the
  bytes that are next;
* `gather_collected` — a loop of reads brings the bytes that are next, as many as are wanted,
  unless the failing position lies among them;
* `readBlock_readsBlock` — the same for a block of fixed length.
-/

namespace ImageLaunch.Segment

/-- An answered read may return at least one byte, so that none means the end. -/
def Habits.Forthcoming (habits : Habits) : Prop :=
  ∀ turn most, habits.most turn = some most → 0 < most

namespace Reader

variable {reader after : Reader} {wanted count : Nat}

/-! ## Where reads fail -/

/-- The next `count` bytes lie before the failing position, if there is one. -/
def Clear (reader : Reader) (count : Nat) : Prop :=
  ∀ failing ∈ reader.habits.failAt, reader.position + count ≤ failing.1

theorem Clear.mono {less : Nat} (h : reader.Clear count) (hle : less ≤ count) :
    reader.Clear less :=
  fun failing hmem => Nat.le_trans (Nat.add_le_add_left hle _) (h failing hmem)

theorem clear_of_failAt_eq_none (h : reader.habits.failAt = none) : reader.Clear count := by
  intro failing hmem
  rw [h] at hmem
  cases hmem

/-! ## One read -/

/-- The same stream, so many bytes further on. -/
structure Moved (before after : Reader) (count : Nat) : Prop where
  data : after.data = before.data
  habits : after.habits = before.habits
  position : after.position = before.position + count

theorem Moved.trans {last : Reader} {more : Nat} (h : Moved reader after count)
    (hmore : Moved after last more) : Moved reader last (count + more) where
  data := hmore.data.trans h.data
  habits := hmore.habits.trans h.habits
  position := by rw [hmore.position, h.position, Nat.add_assoc]

theorem Moved.clear_iff (h : Moved reader after count) (more : Nat) :
    after.Clear more ↔ reader.Clear (count + more) := by
  rw [Clear, Clear, h.habits, h.position, Nat.add_assoc]

/-- What an answered read brings: a failure where the failing position is reached, or bytes
that are next, none of them only at the end. -/
inductive Answers (reader : Reader) (wanted : Nat) : Except IoError Bytes × Reader → Prop
  | failed {error : IoError} {after : Reader} (hfault : ¬ reader.Clear 1)
      (hmoved : Moved reader after 0) :
      Answers reader wanted (.error error, after)
  | read {bytes rest : Bytes} {after : Reader}
      (hnext : reader.data.drop reader.position = bytes ++ rest)
      (hlength : bytes.length ≤ wanted)
      (hprogress : bytes = [] → rest = [])
      (hclear : reader.Clear bytes.length)
      (hmoved : Moved reader after bytes.length) :
      Answers reader wanted (.ok bytes, after)

/-- Where reads do not fail, one may return something, and never more than was asked for. -/
theorem allowance_bounds (h : reader.habits.Forthcoming) (hwanted : 0 < wanted)
    (hclear : reader.Clear 1) :
    0 < reader.allowance wanted ∧ reader.allowance wanted ≤ wanted := by
  have hroom : ∀ failing, reader.habits.failAt = some failing →
      0 < failing.1 - reader.position := by
    intro failing hfail
    have := hclear failing hfail
    omega
  rw [allowance]
  cases hturn : reader.habits.most reader.turn with
  | none =>
      cases hfail : reader.habits.failAt with
      | none => exact ⟨hwanted, Nat.le_refl _⟩
      | some failing => exact ⟨Nat.lt_min.mpr ⟨hwanted, hroom failing hfail⟩, Nat.min_le_left _ _⟩
  | some most =>
      have hmost : 0 < min wanted most := Nat.lt_min.mpr ⟨hwanted, h reader.turn most hturn⟩
      cases hfail : reader.habits.failAt with
      | none => exact ⟨hmost, Nat.min_le_left _ _⟩
      | some failing =>
          exact ⟨Nat.lt_min.mpr ⟨hmost, hroom failing hfail⟩,
            Nat.le_trans (Nat.min_le_left _ _) (Nat.min_le_left _ _)⟩

/-- No read crosses the failing position. -/
theorem clear_allowance (hclear : reader.Clear 1) : reader.Clear (reader.allowance wanted) := by
  intro failing hmem
  have hle : reader.allowance wanted ≤ failing.1 - reader.position := by
    rw [Option.mem_def] at hmem
    simp only [allowance, hmem]
    exact Nat.min_le_right _ _
  have := hclear failing hmem
  omega

/-- The bytes that are allowed are an answer. -/
theorem answers_allowance (h : reader.habits.Forthcoming) (hwanted : 0 < wanted)
    (hclear : reader.Clear 1)
    (hmoved : Moved reader after
      ((reader.data.drop reader.position).take (reader.allowance wanted)).length) :
    Answers reader wanted
      (.ok ((reader.data.drop reader.position).take (reader.allowance wanted)), after) := by
  obtain ⟨hpos, hle⟩ := allowance_bounds h hwanted hclear
  have hlength := List.length_take_le (reader.allowance wanted) (reader.data.drop reader.position)
  refine .read (List.take_append_drop _ _).symm (Nat.le_trans hlength hle) ?_
    ((clear_allowance hclear).mono hlength) hmoved
  intro hnone
  rcases List.take_eq_nil_iff.mp hnone with hzero | hend
  · omega
  · rw [hend, List.drop_nil]

/-- One call is interrupted, if it is to be, or answered. -/
theorem call_cases (h : reader.habits.Forthcoming) (hwanted : 0 < wanted) :
    (reader.paused < reader.habits.pauses reader.turn ∧
      reader.call wanted = (.interrupted, { reader with paused := reader.paused + 1 })) ∨
    ∃ answer after, Answers reader wanted (answer, after) ∧
      reader.call wanted = (match answer with
        | .ok bytes => .read bytes
        | .error error => .failed error, after) := by
  by_cases hpaused : reader.paused < reader.habits.pauses reader.turn
  · exact .inl ⟨hpaused, by rw [call, if_pos hpaused]⟩
  · right
    rw [call, if_neg hpaused]
    cases hfail : reader.habits.failAt with
    | none =>
        refine ⟨.ok _, _, ?_, rfl⟩
        exact answers_allowance h hwanted (clear_of_failAt_eq_none hfail) ⟨rfl, rfl, rfl⟩
    | some failing =>
        by_cases hreached : failing.1 ≤ reader.position
        · have hfault : ¬ reader.Clear 1 := by
            intro hclear
            have := hclear failing hfail
            omega
          refine ⟨.error failing.2, _, ?_, by simp only [if_pos hreached]; rfl⟩
          exact .failed hfault ⟨rfl, rfl, rfl⟩
        · have hclear : reader.Clear 1 := by
            intro other hmem
            rw [hfail, Option.mem_some_iff] at hmem
            subst hmem
            omega
          refine ⟨.ok _, _, ?_, by simp only [if_neg hreached]; rfl⟩
          exact answers_allowance h hwanted hclear ⟨rfl, rfl, rfl⟩

/-- An interruption changes nothing about the answer. -/
theorem Answers.of_paused {paused : Nat} {result : Except IoError Bytes × Reader}
    (h : Answers { reader with paused := paused } wanted result) :
    Answers reader wanted result := by
  cases h with
  | failed hfault hmoved => exact .failed hfault ⟨hmoved.data, hmoved.habits, hmoved.position⟩
  | read hnext hlength hprogress hclear hmoved =>
      exact .read hnext hlength hprogress hclear ⟨hmoved.data, hmoved.habits, hmoved.position⟩

/-- Enough patience outlasts the interruptions. -/
theorem callAgain_answers (h : reader.habits.Forthcoming) (hwanted : 0 < wanted) {patience : Nat}
    (hpatience : reader.habits.pauses reader.turn ≤ reader.paused + patience) :
    Answers reader wanted (reader.callAgain wanted patience) := by
  induction patience generalizing reader with
  | zero =>
      rcases call_cases h hwanted with ⟨hpaused, -⟩ | ⟨answer, after, hanswers, hcall⟩
      · omega
      · cases answer <;> simpa only [callAgain, hcall] using hanswers
  | succ patience ih =>
      rcases call_cases h hwanted with ⟨hpaused, hcall⟩ | ⟨answer, after, hanswers, hcall⟩
      · have hagain : Answers { reader with paused := reader.paused + 1 } wanted _ :=
          ih h (by simp only; omega)
        simp only [callAgain, hcall]
        exact hagain.of_paused
      · cases answer <;> simpa only [callAgain, hcall] using hanswers

theorem read_answers (h : reader.habits.Forthcoming) (hwanted : 0 < wanted) :
    Answers reader wanted (reader.read wanted) :=
  callAgain_answers h hwanted (Nat.le_add_left _ _)

/-! ## A loop of reads -/

/-- What a loop of reads for `wanted` bytes has to show for itself: it fails only over a
failing position among these bytes, and otherwise has the bytes that are next.  If it has all of
them, there is no such position. -/
structure Collected (reader : Reader) (wanted : Nat) (gathered : Gathered) : Prop where
  moved : Moved reader gathered.reader gathered.bytes.length
  fault : gathered.failure ≠ none → ¬ reader.Clear wanted
  bytes : gathered.failure = none →
    gathered.bytes = (reader.data.drop reader.position).take wanted
  clear : gathered.failure = none → 0 < wanted → gathered.bytes.length = wanted →
    reader.Clear wanted

/-- What one read and the loop after it bring, put together. -/
theorem Collected.cons {bytes rest : Bytes} {gathered : Gathered}
    (hnext : reader.data.drop reader.position = bytes ++ rest) (hlength : bytes.length ≤ wanted)
    (hclear : reader.Clear bytes.length) (hmoved : Moved reader after bytes.length)
    (h : Collected after (wanted - bytes.length) gathered) :
    Collected reader wanted
      ⟨bytes ++ gathered.bytes, gathered.failure, gathered.reader⟩ where
  moved := by
    simp only [List.length_append]
    exact hmoved.trans h.moved
  fault := by
    intro hfailure hall
    refine h.fault hfailure ((hmoved.clear_iff _).mpr ?_)
    rwa [Nat.add_sub_cancel' hlength]
  bytes := by
    intro hfailure
    have hdrop : after.data.drop after.position = rest := by
      rw [hmoved.data, hmoved.position, ← List.drop_drop, hnext, List.drop_left]
    rw [hnext, List.take_append, List.take_of_length_le hlength, ← hdrop]
    exact congrArg (bytes ++ ·) (h.bytes hfailure)
  clear := by
    intro hfailure hwanted hall
    rcases Nat.eq_or_lt_of_le hlength with heq | hmore
    · rwa [← heq]
    · have hrest : after.Clear (wanted - bytes.length) := by
        refine h.clear hfailure (by omega) ?_
        simp only [List.length_append] at hall
        omega
      rw [hmoved.clear_iff, Nat.add_sub_cancel' hlength] at hrest
      exact hrest

/-- Nothing is wanted, or nothing is left. -/
theorem Collected.nil (hmoved : Moved reader after 0)
    (h : wanted = 0 ∨ reader.data.drop reader.position = []) :
    Collected reader wanted ⟨[], none, after⟩ where
  moved := hmoved
  fault hfailure := absurd rfl hfailure
  bytes _ := by rcases h with rfl | hend <;> simp [*]
  clear _ hwanted hnone := absurd hnone (Nat.ne_of_lt hwanted)

/-- A failed read collects nothing. -/
theorem Collected.failed {error : IoError} (hfault : ¬ reader.Clear wanted)
    (hmoved : Moved reader after 0) : Collected reader wanted ⟨[], some error, after⟩ where
  moved := hmoved
  fault _ := hfault
  bytes hfailure := nomatch hfailure
  clear hfailure := nomatch hfailure

/-- **A loop of reads collects what is next**, however the answers are split.  The induction is
on the rounds; every round that goes on leaves fewer bytes to want. -/
theorem gather_collected (h : reader.habits.Forthcoming) {rounds : Nat} (hrounds : wanted ≤ rounds) :
    Collected reader wanted (reader.gather wanted rounds) := by
  induction rounds generalizing reader wanted with
  | zero => exact .nil ⟨rfl, rfl, rfl⟩ (.inl (Nat.le_zero.mp hrounds))
  | succ rounds ih =>
      rw [gather]
      by_cases hwanted : wanted = 0
      · rw [if_pos hwanted]
        exact .nil ⟨rfl, rfl, rfl⟩ (.inl hwanted)
      · rw [if_neg hwanted]
        have hpos : 0 < wanted := Nat.pos_of_ne_zero hwanted
        have hanswers := read_answers h hpos
        cases hread : reader.read wanted with
        | mk answer after =>
            rw [hread] at hanswers
            cases hanswers with
            | failed hfault hmoved =>
                exact .failed (fun hall => hfault (hall.mono hpos)) hmoved
            | @read bytes rest _ hnext hlength hprogress hclear hmoved =>
                cases bytes with
                | nil => exact .nil hmoved (.inr (by rw [hnext, hprogress rfl, List.nil_append]))
                | cons byte bytes =>
                    have hless : wanted - (byte :: bytes).length ≤ rounds := by
                      rw [List.length_cons]
                      omega
                    exact .cons hnext hlength hclear hmoved
                      (ih (hmoved.habits ▸ h) hless)

theorem readUpTo_collected (reader : Reader) (h : reader.habits.Forthcoming) (wanted : Nat) :
    Collected reader wanted (reader.readUpTo wanted) :=
  gather_collected h (Nat.le_refl wanted)

/-! ## A block of bytes -/

/-- What reading a block brings: a failure, the block that is next, or the end before it is
complete. -/
inductive ReadsBlock (reader : Reader) (count : Nat) :
    Except IoError (Block count) × Reader → Prop
  | failed {error : IoError} {after : Reader} (hfault : ¬ reader.Clear count) :
      ReadsBlock reader count (.error error, after)
  | short {after : Reader} (hend : (reader.data.drop reader.position).length < count) :
      ReadsBlock reader count (.error .shortRead, after)
  | found {block : Block count} {rest : Bytes} {after : Reader}
      (hnext : reader.data.drop reader.position = block.1 ++ rest)
      (hclear : reader.Clear count) (hmoved : Moved reader after count) :
      ReadsBlock reader count (.ok block, after)

theorem readBlock_readsBlock (reader : Reader) (h : reader.habits.Forthcoming)
    (hcount : 0 < count) :
    ReadsBlock reader count (reader.readBlock count) := by
  have hcollected := reader.readUpTo_collected h count
  rw [readBlock]
  cases hfailure : (reader.readUpTo count).failure with
  | some error => exact .failed (hcollected.fault (by simp [hfailure]))
  | none =>
      have hbytes := hcollected.bytes hfailure
      have hmoved := hcollected.moved
      by_cases hlength : (reader.readUpTo count).bytes.length = count
      · have hnext : reader.data.drop reader.position =
            (reader.readUpTo count).bytes ++ (reader.data.drop reader.position).drop count := by
          rw [hbytes, List.take_append_drop]
        rw [hlength] at hmoved
        simp only [dif_pos hlength]
        exact .found hnext (hcollected.clear hfailure hcount hlength) hmoved
      · simp only [dif_neg hlength]
        rw [hbytes, List.length_take] at hlength
        exact .short (by omega)

end Reader

end ImageLaunch.Segment
