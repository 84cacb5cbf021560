import RecordingIndex.Backend
import RecordingIndex.Database.Query
import RecordingIndex.FileSystem.Operations

/-!
# Database — segments that are databases

A segment of this format is a database with a table of topics and a table of messages; its
description is drawn from the sums over them (`Database.describe`), never from a message's content.
Times are clamped at zero and the duration at the greatest signed number.
-/

namespace RecordingIndex

/-- The database in a file: a file of at most one byte is one without tables. -/
def Contents.database? : Contents → Option Database
  | .data b zeros  => if b.length + zeros ≤ 1 then some ⟨[]⟩ else none
  | .database db _ => some db

namespace Database

/-- The identifier of the format. -/
def storageId : String := "sqlite3"

/-- The extension of its segments. -/
def segmentExtension : String := "db3"

/-- The tables that a segment has. -/
def requiredTables : List String := ["topics", "messages"]

/-- The greatest signed number of 64 bits. -/
def maxSigned : Int := Int64.maxValue.toInt

/-- A signed number, or zero if it is negative. -/
def clamp (n : Int) : UInt64 := UInt64.ofNat n.toNat

/-- The complaint about the kind of a shown cell. -/
def wrongKind (c : Cell) (index : Nat) (column : String) : String :=
  "Invalid column type " ++ c.kind ++ " at index: " ++ toString index ++ ", name: " ++ column

/-- The text of a cell. -/
def textOf (index : Nat) (column : String) : Cell → Except String String
  | .text s => .ok s
  | c       => .error (wrongKind c index column)

/-- The text of a cell, empty for a null. -/
def textOrEmptyOf (index : Nat) (column : String) : Cell → Except String String
  | .null   => .ok ""
  | .text s => .ok s
  | c       => .error (wrongKind c index column)

/-- The number in a cell, if there is one. -/
def numberOf (index : Nat) (column : String) : Cell → Except String (Option Int)
  | .null      => .ok none
  | .integer n => .ok (some n)
  | c          => .error (wrongKind c index column)

/-- A topic and its times. -/
structure TimedTopic where
  recorded : RecordedTopic
  earliest : Option Int
  latest   : Option Int

/-- A row of the answer, its cells checked from the left. -/
def TimedTopic.ofRow (r : TopicRow) : Except String TimedTopic := do
  let name ← textOf 0 "name" r.name
  let type ← textOf 1 "type" r.type
  let format ← textOf 2 "serialization_format" r.format
  let qos ← textOrEmptyOf 3 "offered_qos_profiles" r.qos
  let earliest ← numberOf 5 "MIN(m.timestamp)" r.earliest
  let latest ← numberOf 6 "MAX(m.timestamp)" r.latest
  return ⟨⟨⟨name, type, format, qos⟩, UInt64.ofNat r.count⟩, earliest, latest⟩

/-- The lesser of the known times. -/
def earlier : Option Int → Option Int → Option Int
  | some a, some b => some (min a b)
  | a,      b      => a.or b

/-- The greater of the known times. -/
def later : Option Int → Option Int → Option Int
  | some a, some b => some (max a b)
  | a,      b      => a.or b

/-- The start and the duration of a recording with the given first and last times. -/
def timeRange : Option Int → Option Int → UInt64 × UInt64
  | some a, some b => (clamp a, clamp (min (b - a) maxSigned))
  | _,      _      => (0, 0)

/-- The description of a recording from the topics of a segment. -/
def describe (topics : List TimedTopic) (path : Path) (size : UInt64) : Metadata :=
  let range := timeRange ((topics.map (·.earliest)).foldl earlier none)
    ((topics.map (·.latest)).foldl later none)
  { version           := Metadata.currentVersion
    storageIdentifier := storageId
    relativePaths     := [path.display]
    startingTime      := range.1
    duration          := range.2
    messageCount      := (topics.map (·.recorded.messageCount)).foldl saturatingAdd 0
    topics            := topics.map (·.recorded)
    bagSize           := size
    compressionFormat := ""
    compressionMode   := "" }

/-- The answer to the question about topics. -/
def timedTopics (db : Database) : Except String (List TimedTopic) :=
  match db.table? "topics", db.table? "messages" with
  | some ts, some ms => do
      let rows ← topicRows ts ms
      rows.mapM TimedTopic.ofRow
  | _, _             => .ok []

/-- The failure of a segment at a path. -/
def failure (path : Path) (reason : String) : Failure :=
  .storage (path.display ++ ": " ++ reason)

/-- The report that a segment is closed. -/
def reportClosed (path : Path) : Logged Unit :=
  Logged.report .debug .storage "Closed sqlite3 segment" [("path", .shown path.display)]

/-- The description of an open segment. -/
def snapshot (db : Database) (path : Path) (size : Nat) : LoggedAttempt Metadata := do
  match db.timedTopics with
  | .error reason => throw (failure path reason)
  | .ok topics    =>
      let m := describe topics path (UInt64.ofNat size)
      Logged.report .info .storage "Read sqlite3 segment metadata"
        [("path", .shown path.display), ("topics", .count m.topicCount),
         ("messages", .count m.messageCount.toNat)]
      return m

/-- What is wrong with the schema of a file as a segment. -/
def schemaFault? (c : Contents) : Option String :=
  match c.database? with
  | none    => some "file is not a database"
  | some db =>
      (requiredTables.find? fun t => (db.table? t).isNone).map fun t =>
        "missing '" ++ t ++ "' table"

/-- Opens a segment and checks its schema. -/
def openSegment (fs : FileSystem) (path : Path) : LoggedAttempt Handle := do
  match fs.contents path with
  | .error _ => throw (failure path "not a regular file")
  | .ok c    =>
      match schemaFault? c, c.database? with
      | none, some db =>
          Logged.report .debug .storage "Opened sqlite3 segment read-only"
            [("path", .shown path.display)]
          return ⟨path, snapshot db path c.size, reportClosed path⟩
      | reason, _     =>
          reportClosed path
          throw (failure path (reason.getD ""))

/-- Segments that are databases. -/
def backend : Backend := ⟨storageId, segmentExtension, openSegment⟩

end Database

/-- The registry with every backend of this library. -/
def Registry.standard : Traced Registry := Registry.empty.register Database.backend

end RecordingIndex
