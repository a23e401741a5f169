import ImageLaunch.Files
import ImageLaunch.Numeral
import ImageLaunch.Segment.Header
import ImageLaunch.Segment.Reader

/-!
# ImageLaunch.Segment.Load

Loading a segment from a stream: the header is read where the stream stands and
checked, then the stream is rewound and the whole segment, header included, is
read from its start.  Bytes after the declared size are left alone, and a stream
that ends too early is refused, so a loaded segment always holds as many bytes as
its header declares.
-/

namespace ImageLaunch.Segment

/-- A segment in memory. -/
structure Loaded where
  header : Header
  contents : Bytes
  deriving DecidableEq

/-- Why a segment could not be loaded. -/
inductive LoadError
  | io (error : IoError)
  | corrupt (fault : Fault)
  | truncated (expected : UInt64)
  | tooLarge (size : UInt64)
  deriving DecidableEq, Repr

/-- The failure in words. -/
def LoadError.message : LoadError → String
  | .io error => error.message
  | .corrupt fault => "corrupt segment: " ++ fault.message
  | .truncated expected =>
    "truncated segment, expected " ++ Numeral.decimal expected.toNat ++ " bytes"
  | .tooLarge size =>
    "segment of " ++ Numeral.decimal size.toNat ++ " bytes does not fit in memory"

/-- Lengths that memory can address: every word is one. -/
def lengthLimit : Nat := UInt64.size

/-- Reads the header where the stream stands. -/
def readHeader (reader : Reader) : Except LoadError Header × Reader :=
  match reader.readBlock headerSize with
  | (.ok raw, reader) =>
    match Header.decode raw with
    | .ok header => (.ok header, reader)
    | .error fault => (.error (.corrupt fault), reader)
  | (.error .shortRead, reader) => (.error (.truncated (UInt64.ofNat headerSize)), reader)
  | (.error error, reader) => (.error (.io error), reader)

/-- Reads `header.size` bytes from the start of the stream. -/
def readContents (header : Header) (reader : Reader) : Except LoadError Loaded × Reader :=
  match reader.rewind with
  | (.error error, reader) => (.error (.io error), reader)
  | (.ok (), reader) =>
    let gathered := reader.readUpTo header.size.toNat
    match gathered.failure with
    | some error => (.error (.io error), gathered.reader)
    | none =>
      if gathered.bytes.length < header.size.toNat then
        (.error (.truncated header.size), gathered.reader)
      else (.ok ⟨header, gathered.bytes⟩, gathered.reader)

/-- Loads a segment. -/
def load (reader : Reader) : Except LoadError Loaded × Reader :=
  match readHeader reader with
  | (.error error, reader) => (.error error, reader)
  | (.ok header, reader) =>
    if header.size.toNat < lengthLimit then readContents header reader
    else (.error (.tooLarge header.size), reader)

/-- A loaded segment in words: its header's fields and the number of bytes
held. -/
def Loaded.summary (segment : Loaded) : String :=
  let header := segment.header
  let magic := ", ".intercalate (header.magic.1.map fun byte => Numeral.decimal byte.toNat)
  "ImageSegment \x7b header: SegmentHeader \x7b magic: [" ++ magic ++
    "], version: " ++ Numeral.decimal header.version.toNat ++
    ", flags: " ++ Numeral.decimal header.flags.toNat ++
    ", base_address: " ++ Numeral.decimal header.base.toNat ++
    ", size: " ++ Numeral.decimal header.size.toNat ++
    ", reserved_size: " ++ Numeral.decimal header.reserved.toNat ++
    ", module: " ++ Numeral.decimal header.moduleAddress.toNat ++
    " \x7d, loaded: " ++ Numeral.decimal segment.contents.length ++ " \x7d"

/-! ## From a file -/

/-- Why a segment file could not be had. -/
inductive AcquireError
  | notFound (path : Bytes)
  | load (path : Bytes) (error : LoadError)
  deriving DecidableEq, Repr

/-- The failure in words. -/
def AcquireError.message : AcquireError → String
  | .notFound path => "no such segment: " ++ Path.display path
  | .load path error => Path.display path ++ ": " ++ error.message

/-- Loads a stream that has been opened; a directory opens but cannot be read. -/
def loadEntry : Entry → Except LoadError Loaded
  | .file contents => (load { data := contents }).1
  | .directory => .error (.io .isDirectory)

/-- Loads the segment in a file. -/
def acquire (files : Files) (path : Bytes) : Except AcquireError Loaded :=
  match files.opened path with
  | .error error =>
    if error = .notFound then .error (.notFound path) else .error (.load path (.io error))
  | .ok entry => (loadEntry entry).mapError (.load path)

end ImageLaunch.Segment
