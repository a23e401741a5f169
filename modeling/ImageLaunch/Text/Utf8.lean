import ImageLaunch.Bytes

/-!
# ImageLaunch.Text.Utf8

Reading bytes as UTF-8.  `pieces` cuts a byte string into characters and into
broken runs, where a broken run is the longest start of a character that the
bytes at that place allow (one byte if they allow none).  The readings are
folds over the pieces:

* `decode?` — the text, if nothing is broken;
* `lossy` — the text with U+FFFD for each broken run.

`bytes_pieces` says that cutting loses nothing.
-/

namespace ImageLaunch.Text.Utf8

/-- A character with the bytes that spell it, or a broken run of bytes. -/
inductive Piece
  | char (c : Char) (spelling : Bytes)
  | broken (bytes : Bytes)

/-- The bytes of a piece. -/
def Piece.bytes : Piece → Bytes
  | .char _ spelling => spelling
  | .broken bytes => bytes

/-- A character under way: the bytes seen, the bits they carry, how many
continuation bytes are owed and the range the next one must lie in. -/
structure Partial where
  seen : Bytes
  bits : Nat
  owed : Nat
  low : UInt8
  high : UInt8

/-- The start that a leading byte makes; none for a byte that starts nothing or
is a character by itself.  The range of the second byte keeps out overlong
spellings, surrogates and numbers above U+10FFFF. -/
def start? (byte : UInt8) : Option Partial :=
  let n := byte.toNat
  if 0xC2 ≤ n ∧ n ≤ 0xDF then some ⟨[byte], n % 32, 1, 0x80, 0xBF⟩
  else if n = 0xE0 then some ⟨[byte], 0, 2, 0xA0, 0xBF⟩
  else if n = 0xED then some ⟨[byte], 13, 2, 0x80, 0x9F⟩
  else if 0xE1 ≤ n ∧ n ≤ 0xEF then some ⟨[byte], n % 16, 2, 0x80, 0xBF⟩
  else if n = 0xF0 then some ⟨[byte], 0, 3, 0x90, 0xBF⟩
  else if 0xF1 ≤ n ∧ n ≤ 0xF3 then some ⟨[byte], n % 8, 3, 0x80, 0xBF⟩
  else if n = 0xF4 then some ⟨[byte], 4, 3, 0x80, 0x8F⟩
  else none

/-- What one byte does outside a character: the piece it finishes, if any, and
the character it starts, if any. -/
def fresh (byte : UInt8) : List Piece × Option Partial :=
  if byte.toNat < 0x80 then ([.char (Char.ofNat byte.toNat) [byte]], none)
  else match start? byte with
    | some begun => ([], some begun)
    | none => ([.broken [byte]], none)

/-- What one byte does: the pieces it finishes and the character it leaves
under way. -/
def feed : Option Partial → UInt8 → List Piece × Option Partial
  | none, byte => fresh byte
  | some p, byte =>
    if p.low ≤ byte ∧ byte ≤ p.high then
      let bits := p.bits * 64 + byte.toNat % 64
      if p.owed = 1 then ([.char (Char.ofNat bits) (p.seen ++ [byte])], none)
      else ([], some ⟨p.seen ++ [byte], bits, p.owed - 1, 0x80, 0xBF⟩)
    else (.broken p.seen :: (fresh byte).1, (fresh byte).2)

/-- Cuts the bytes that follow an unfinished character. -/
def piecesFrom : Option Partial → Bytes → List Piece
  | none, [] => []
  | some p, [] => [.broken p.seen]
  | pending, byte :: rest =>
    match feed pending byte with
    | (done, pending) => done ++ piecesFrom pending rest

/-- Cuts a byte string into characters and broken runs. -/
def pieces (bytes : Bytes) : List Piece := piecesFrom none bytes

/-- The characters of a byte string that is UTF-8 throughout. -/
def chars? (bytes : Bytes) : Option (List Char) :=
  (pieces bytes).mapM fun
    | .char c _ => some c
    | .broken _ => none

/-- The text of a byte string that is UTF-8 throughout. -/
def decode? (bytes : Bytes) : Option String := (chars? bytes).map String.ofList

/-- The text with each broken run replaced by U+FFFD. -/
def lossy (bytes : Bytes) : String :=
  String.ofList <| (pieces bytes).map fun
    | .char c _ => c
    | .broken _ => '\uFFFD'

/-! ## Nothing is lost -/

/-- The bytes held by the character under way. -/
def seen : Option Partial → Bytes
  | none => []
  | some p => p.seen

theorem bytes_fresh (byte : UInt8) :
    (fresh byte).1.flatMap Piece.bytes ++ seen (fresh byte).2 = [byte] := by
  unfold fresh
  split
  · simp [Piece.bytes, seen]
  · split
    · rename_i begun h
      unfold start? at h
      grind [seen]
    · simp [Piece.bytes, seen]

theorem bytes_feed (pending : Option Partial) (byte : UInt8) :
    (feed pending byte).1.flatMap Piece.bytes ++ seen (feed pending byte).2 =
      seen pending ++ [byte] := by
  cases pending with
  | none => exact bytes_fresh byte
  | some p =>
    simp only [feed]
    split
    · split <;> simp [Piece.bytes, seen]
    · have := bytes_fresh byte
      simp only [List.flatMap_cons, Piece.bytes, List.append_assoc, this]
      simp [seen]

theorem bytes_piecesFrom (pending : Option Partial) (bytes : Bytes) :
    (piecesFrom pending bytes).flatMap Piece.bytes = seen pending ++ bytes := by
  induction bytes generalizing pending with
  | nil => cases pending <;> simp [piecesFrom, seen, Piece.bytes]
  | cons byte rest ih =>
    have step := bytes_feed pending byte
    have unfolded : piecesFrom pending (byte :: rest) =
        (feed pending byte).1 ++ piecesFrom (feed pending byte).2 rest := by
      cases pending <;> rfl
    rw [unfolded, List.flatMap_append, ih, ← List.append_assoc, step]
    simp

/-- The pieces spell the bytes they were cut from. -/
theorem bytes_pieces (bytes : Bytes) : (pieces bytes).flatMap Piece.bytes = bytes := by
  simpa [seen, pieces] using bytes_piecesFrom none bytes

end ImageLaunch.Text.Utf8
