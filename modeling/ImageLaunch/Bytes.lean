/-!
# ImageLaunch.Bytes

Byte strings.  File contents, paths, arguments and variables are all plain
lists of bytes: the operating system promises no encoding, so none is
assumed here.  `Block n` is a byte string of exactly `n` bytes, the type of
every fixed-width field.
-/

namespace ImageLaunch

/-- A byte string, in order. -/
abbrev Bytes := List UInt8

/-- Exactly `n` bytes. -/
abbrev Block (n : Nat) := { bytes : Bytes // bytes.length = n }

namespace Bytes

/-- The UTF-8 encoding of a text. -/
def ofString (text : String) : Bytes := text.toList.flatMap String.utf8EncodeChar

/-- The first `n` bytes as a block, with what follows them; nothing when
there are fewer. -/
def block? (n : Nat) (bytes : Bytes) : Option (Block n × Bytes) :=
  if h : (bytes.take n).length = n then some (⟨bytes.take n, h⟩, bytes.drop n) else none

/-- The pieces between the occurrences of `separator`; always at least one. -/
def splitOn (separator : UInt8) : Bytes → List Bytes
  | [] => [[]]
  | byte :: rest =>
    if byte = separator then [] :: splitOn separator rest
    else match splitOn separator rest with
      | [] => [[byte]]
      | piece :: pieces => (byte :: piece) :: pieces

/-- The part before the first occurrence of `separator` and, if it occurs,
the part after it. -/
def cutAt (separator : UInt8) : Bytes → Bytes × Option Bytes
  | [] => ([], none)
  | byte :: rest =>
    if byte = separator then ([], some rest)
    else ((byte :: (cutAt separator rest).1), (cutAt separator rest).2)

/-- The bytes with a field written over those that start at `offset`. -/
def overwrite (bytes : Bytes) (offset : Nat) (field : Bytes) : Bytes :=
  bytes.take offset ++ field ++ bytes.drop (offset + field.length)

/-- A field written right behind a front leaves the front alone. -/
theorem overwrite_append {front : Bytes} {offset : Nat} (field rest : Bytes)
    (h : front.length = offset) :
    overwrite (front ++ rest) offset field = front ++ field ++ rest.drop field.length := by
  subst h
  simp [overwrite, List.drop_append]

/-- Without a separator all of it is the part before. -/
theorem cutAt_of_not_mem {separator : UInt8} {front : Bytes} (h : separator ∉ front) :
    cutAt separator front = (front, none) := by
  induction front with
  | nil => rfl
  | cons byte front ih =>
      rw [List.mem_cons, not_or] at h
      rw [cutAt, if_neg (Ne.symm h.1), ih h.2]

/-- The first separator cuts. -/
theorem cutAt_append {separator : UInt8} {front : Bytes} (rest : Bytes) (h : separator ∉ front) :
    cutAt separator (front ++ separator :: rest) = (front, some rest) := by
  induction front with
  | nil => rw [List.nil_append, cutAt, if_pos rfl]
  | cons byte front ih =>
      rw [List.mem_cons, not_or] at h
      rw [List.cons_append, cutAt, if_neg (Ne.symm h.1), ih h.2]

/-- No block is found exactly when too few bytes are there. -/
theorem block?_eq_none_iff {n : Nat} {bytes : Bytes} :
    block? n bytes = none ↔ bytes.length < n := by
  rw [block?]
  by_cases h : (bytes.take n).length = n
  · simp only [dif_pos h, reduceCtorEq, false_iff]
    rw [List.length_take] at h
    omega
  · simp only [dif_neg h, true_iff]
    rw [List.length_take] at h
    omega

/-- The block in front is found. -/
theorem block?_append {n : Nat} (block : Block n) (rest : Bytes) :
    block? n (block.1 ++ rest) = some (block, rest) := by
  obtain ⟨bytes, rfl⟩ := block
  simp [block?]

/-- A block is found in front of what follows it. -/
theorem block?_eq_some_iff {n : Nat} {bytes rest : Bytes} {block : Block n} :
    block? n bytes = some (block, rest) ↔ bytes = block.1 ++ rest := by
  constructor
  · intro h
    rw [block?] at h
    split at h
    · cases h
      exact (List.take_append_drop n bytes).symm
    · cases h
  · rintro rfl
    exact block?_append block rest

end Bytes

end ImageLaunch
