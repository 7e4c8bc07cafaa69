import Provision.Archive.Bzip2
import Provision.Archive.Deflate
import Provision.Archive.Lzma
import Provision.Archive.Xz
import Provision.Archive.Zstandard

/-! How the contents of an entry are compressed, and what can be had of them. -/

namespace Provision.Archive

inductive Method where
  | stored
  | deflate
  | wideDeflate
  | bzip2
  | lzma
  | zstandard
  | xz
  deriving DecidableEq, Repr

def Method.ofNumber? : Nat → Option Method
  | 0 => some .stored
  | 8 => some .deflate
  | 9 => some .wideDeflate
  | 12 => some .bzip2
  | 14 => some .lzma
  | 93 => some .zstandard
  | 95 => some .xz
  | _ => none

/-- What is wrong with the contents of an entry. -/
inductive Flaw where
  | checksum
  | incompleteDeflate
  | corruptDeflate
  | corruptWideDeflate
  | bzip2 (defect : Bzip2.Defect)
  | lzma (defect : Lzma.Defect)
  | zstandard (defect : Zstandard.Defect)
  | xz (defect : Xz.Defect)
  deriving DecidableEq, Repr

def Flaw.message : Flaw → String
  | checksum => "Invalid checksum"
  | incompleteDeflate => "incomplete deflate stream"
  | corruptDeflate => "corrupt deflate stream"
  | corruptWideDeflate => "invalid deflate64"
  | bzip2 defect => defect.message
  | lzma defect => defect.message
  | zstandard defect => defect.message
  | xz defect => defect.message

/-- What has been passed on, piece by piece, before a flaw is found. -/
private def wholePieces (size : Nat) (bytes : ByteArray) : ByteArray :=
  bytes.extract 0 (bytes.size / size * size)

private def pieceSize : Nat := 8192

/-- The size of the window of deflate, which is passed on when it is full. -/
private def windowSize : Nat := 32768

/-- The bytes that can be had, and what is found wrong at their end. -/
def Method.decompress (method : Method) (data : ByteArray) : Option Flaw × ByteArray :=
  match method with
  | .stored => (none, data)
  | .deflate =>
    match Deflate.decompress Deflate.plain data with
    | (.complete, out) => (none, out)
    | (.brokenOff, out) => (some .incompleteDeflate, out)
    | (.corrupt, out) => (some .corruptDeflate, wholePieces windowSize out)
  | .wideDeflate =>
    match Deflate.decompress Deflate.wide data with
    | (.corrupt, out) => (some .corruptWideDeflate, wholePieces pieceSize out)
    | (_, out) => (none, out)
  | .bzip2 =>
    match Bzip2.decompress data with
    | (none, out) => (none, out)
    | (some .brokenOff, out) => (some (.bzip2 .brokenOff), out)
    | (some defect, out) => (some (.bzip2 defect), wholePieces pieceSize out)
  | .lzma =>
    match Lzma.decompress data with
    | (defect, out) => (defect.map .lzma, out)
  | .zstandard =>
    match Zstandard.decompress data with
    | (none, out) => (none, out)
    | (some .brokenOff, out) => (some (.zstandard .brokenOff), out)
    | (some defect, out) => (some (.zstandard defect), wholePieces pieceSize out)
  | .xz =>
    match Xz.decompress data with
    | (defect, out) => (defect.map .xz, out)

/-- Decompress the contents of an entry and look whether they are what their check value
promises. -/
def Method.unpack (method : Method) (data : ByteArray) (sum : UInt32) : Bytes × Option Flaw :=
  match method.decompress data with
  | (some flaw, out) => (out.data.toList, some flaw)
  | (none, out) =>
    let bytes := out.data.toList
    (bytes, if checksum bytes == sum then none else some .checksum)

end Provision.Archive
