import ConfigTimeline.CommandLine.DatabaseFile

/-!
The bytes of a database file without any tables: one page, which starts with a header.
-/

namespace ConfigTimeline.CommandLine.DatabaseFile

/-- The bytes that a database file starts with. -/
def magic : List UInt8 := "SQLite format 3\x00".toUTF8.toList

def pageSizes : List Nat := [512, 1024, 2048, 4096, 8192, 16384, 32768, 65536]

/-- The least number of bytes of a page that hold data. -/
def leastUsable : Nat := 480

/-- The greatest number of a format that can be written. -/
def latestFormat : Nat := 2

/-- A size in two bytes, where zero and one stand for the greatest one. -/
def sizeOf (n : Nat) : Nat := if n ≤ 1 then 65536 else n

/-- The bytes of a file, as numbers. Past the end there are zeros. -/
structure Bytes where
  size : Nat
  byte : Nat → Nat

def Bytes.number (b : Bytes) (first width : Nat) : Nat :=
  (List.range width).foldl (fun n i => n * 256 + b.byte (first + i)) 0

def Bytes.pageSize (b : Bytes) : Nat := sizeOf (b.number 16 2)

def Bytes.usableSize (b : Bytes) : Nat := b.pageSize - b.byte 20

/-- Whether a header can be read, and is that of a file with no more pages than there are. The
number of pages does not count where it has not kept up with the number of changes. -/
def Bytes.hasHeader (b : Bytes) : Bool :=
  let pages := (b.size + b.pageSize - 1) / b.pageSize
  pageSizes.contains b.pageSize && b.number 16 2 != 0 && b.byte 19 ≤ latestFormat &&
    leastUsable ≤ b.usableSize && b.byte 21 == 64 && b.byte 22 == 32 && b.byte 23 == 32 &&
    (b.number 24 4 != b.number 92 4 || b.number 28 4 ≤ pages) && b.byte 47 ≤ 4

def Bytes.hasNoRows (b : Bytes) : Bool := b.byte 100 == 13 && b.number 103 2 == 0

/-- The room on the first page. There is none where a page lies idle, or where free bytes lie
between others. -/
def Bytes.room (b : Bytes) : Room :=
  let start := if b.number 105 2 = 0 then 65536 else b.number 105 2
  if b.number 36 4 == 0 && b.number 52 4 ≤ 1 && b.number 101 2 == 0 && b.byte 107 == 0 &&
      start ≤ b.usableSize then
    .ofPage b.usableSize start
  else .none

/-- The encodings of text, numbered from one on. -/
def encodings : Nat := 3

/-- Whether the encoding of text goes by a number that is not its own. It does not count as long as
the tables have no format. -/
def Bytes.isMisnumbered (b : Bytes) : Bool :=
  b.number 44 4 != 0 && b.number 56 4 != 0 && b.number 56 4 % (encodings + 1) == 0

/-- The database file whose bytes are those of a text, if it is one without tables. -/
def ofText? (s : String) : Option DatabaseFile :=
  let bytes := s.toUTF8.toList
  let b : Bytes := ⟨bytes.length, fun i => (bytes[i]?.getD 0).toNat⟩
  if b.size ≤ 1 then some blank
  else if magic.isPrefixOf bytes && b.hasHeader && b.hasNoRows then
    some {
      database := { Database.blank with version := Int.bmod (b.number 60 4) (1 <<< 32) }
      hasTables := false
      projects := none
      logged := b.byte 19 == latestFormat
      fixed := latestFormat < b.byte 18
      misnumbered := b.isMisnumbered
      room := b.room }
  else none

end ConfigTimeline.CommandLine.DatabaseFile
