import ImageLaunch.Engine.Handoff

/-!
# ImageLaunch.Proofs.Engine.Handoff

Where the bytes are while they are handed over: taken by the child, in the pipe, or still to be
written, in this order.  `Accounted` is kept by every step (`Step.accounted`), so it holds of
every state that is reached; hence what the child has taken is always a front of the contents,
and all of them once it finds the end of its input.
-/

namespace ImageLaunch.Engine.Handoff

/-- Every byte is accounted for, as long as the child holds its input open. -/
structure Accounted (contents : Bytes) (state : Handoff) : Prop where
  kept : state.reading = true → state.taken ++ (state.pipe ++ state.unwritten) = contents
  front : state.taken <+: contents
  written : state.writer = .done → state.unwritten = []

variable {capacity : Nat} {contents : Bytes} {before after state : Handoff}

theorem accounted_start (contents : Bytes) : Accounted contents (start contents) where
  kept _ := rfl
  front := List.nil_prefix
  written hdone := nomatch hdone

/-- A step moves bytes on, or closes the input. -/
theorem Step.accounted (hstep : Step capacity before after) (h : Accounted contents before) :
    Accounted contents after := by
  cases hstep with
  | write count hwriting hreading hpos hcount hroom =>
      refine ⟨fun _ => ?_, h.front, fun hdone => ?_⟩
      · simp only [List.append_assoc, List.take_append_drop]
        exact h.kept hreading
      · rw [hwriting] at hdone
        cases hdone
  | finish hwriting hnone => exact ⟨h.kept, h.front, fun _ => hnone⟩
  | breakOff hwriting hclosed hmore =>
      exact ⟨h.kept, h.front, fun hdone => nomatch hdone⟩
  | take count hreading hpos hcount =>
      have hkept : before.taken ++ before.pipe.take count ++
          (before.pipe.drop count ++ before.unwritten) = contents := by
        rw [← h.kept hreading]
        simp only [List.append_assoc]
        rw [← List.append_assoc (before.pipe.take count), List.take_append_drop]
      exact ⟨fun _ => hkept, ⟨_, hkept⟩, h.written⟩
  | close hreading hrunning => exact ⟨fun hopen => (nomatch hopen), h.front, h.written⟩
  | leave ending hrunning => exact ⟨fun hopen => (nomatch hopen), h.front, h.written⟩

theorem Reachable.accounted (h : Reachable capacity contents state) :
    Accounted contents state := by
  induction h with
  | start => exact accounted_start contents
  | step _ hstep ih => exact hstep.accounted ih

/-- A child that finds the end of its input has taken everything. -/
theorem Reachable.taken_of_atEnd (h : Reachable capacity contents state) (hend : state.AtEnd) :
    state.taken = contents := by
  obtain ⟨hreading, hpipe, hdone⟩ := hend
  have hkept := h.accounted.kept hreading
  rwa [hpipe, h.accounted.written hdone, List.append_nil, List.append_nil] at hkept

end ImageLaunch.Engine.Handoff
