/-
**The configuration of the program.**

A settings document tells how queries are treated, which store holds the cards, and where further
messages are found.  Everything has a usual value; unknown names do not matter, but a known name
with an unsuitable value makes the document invalid.

Main definitions:

* `Configuration`, `Configuration.ofTable?` — the configuration, and the one that a document holds;
* `Configuration.load` — the configuration in a file;
* `Configuration.openStore`, `Configuration.catalog` — the store and the messages that it names.
-/

import CardQuery.Catalog.English
import CardQuery.Disk
import CardQuery.Search.Settings
import CardQuery.Store.Location
import CardQuery.Store.Memory
import CardQuery.Store.Table

set_option autoImplicit false

namespace CardQuery

/-- Where cards are kept. -/
inductive StoreKind where
  | memory
  | table
deriving DecidableEq, Repr, Inhabited

/-- Cards in memory, perhaps from a file. -/
structure MemorySettings where
  path : Option String
deriving DecidableEq, Repr, Inhabited

/-- Cards in a table of a database. -/
structure TableSettings where
  url : String
  names : TableNames
deriving DecidableEq, Repr, Inhabited

/-- The configuration of the program. -/
structure Configuration where
  search : SearchSettings
  kind : StoreKind
  memory : Option MemorySettings
  table : Option TableSettings
  locale : Option String
deriving DecidableEq, Repr, Inhabited

/-! ### Reading -/

open Toml (Value)

/-- The parts of a record: the fields of a table, or the items of a list in order. -/
def recordFields? (names : List String) : Value → Option (KeyedList Value)
  | .table fields => some fields
  | .list items => some (names.zip items)
  | _ => none

/-- A field with a usual value. -/
def fieldOr {α : Type} (fields : KeyedList Value) (name : String) (usual : α)
    (read : Value → Option α) : Option α :=
  match fields.find? name with
  | some v => read v
  | none => some usual

/-- A field that may be absent. -/
def field? {α : Type} (fields : KeyedList Value) (name : String) (read : Value → Option α) :
    Option (Option α) :=
  fieldOr fields name none fun v => (read v).map some

/-- A natural number of 32 bits. -/
def nat32? : Value → Option Nat
  | .integer i => if fitsNat32 i then some i.toNat else none
  | _ => none

/-- The settings of the search. -/
def SearchSettings.ofValue? (v : Value) : Option SearchSettings := do
  let fields ← recordFields? ["empty_query", "default_page_size", "max_page_size"] v
  let usual := SearchSettings.standard
  return {
    emptyQuery :=
      ← fieldOr fields "empty_query" usual.emptyQuery fun v => v.asText?.bind EmptyQuery.ofName?
    defaultPageSize := ← fieldOr fields "default_page_size" usual.defaultPageSize nat32?
    maxPageSize := ← fieldOr fields "max_page_size" usual.maxPageSize nat32? }

/-- The kind of store with a name. -/
def StoreKind.ofValue? : Value → Option StoreKind
  | .text "memory" => some memory
  | .text "sqlite" => some table
  | _ => none

/-- The settings of cards in memory. -/
def MemorySettings.ofValue? (v : Value) : Option MemorySettings := do
  return ⟨← field? (← recordFields? ["path"] v) "path" Value.asText?⟩

/-- The settings of cards in a table; the database has to be named. -/
def TableSettings.ofValue? (v : Value) : Option TableSettings := do
  let fields ← recordFields? ["url", "table", "data_column", "model_column"] v
  let usual := TableNames.standard
  return {
    url := ← (← fields.find? "url").asText?
    names := {
      table := ← fieldOr fields "table" usual.table Value.asText?
      dataColumn := ← fieldOr fields "data_column" usual.dataColumn Value.asText?
      modelColumn := ← fieldOr fields "model_column" usual.modelColumn Value.asText? } }

namespace Configuration

/-- The usual configuration. -/
def standard : Configuration := ⟨.standard, .memory, none, none, none⟩

/-- The configuration that a settings document holds. -/
def ofTable? (document : Toml.Table) : Option Configuration := do
  let store ← fieldOr document "store" [] Value.asTable?
  let locale ← fieldOr document "locale" [] fun v => recordFields? ["path"] v
  return {
    search := ← fieldOr document "search" .standard SearchSettings.ofValue?
    kind := ← fieldOr store "type" .memory StoreKind.ofValue?
    memory := ← field? store "memory" MemorySettings.ofValue?
    table := ← field? store "sqlite" TableSettings.ofValue?
    locale := ← field? locale "path" Value.asText? }

/-- The settings of cards in memory, if that is where they are. -/
def memory? (c : Configuration) : Option MemorySettings :=
  match c.kind with
  | .memory => c.memory
  | .table => none

/-- The settings of cards in a table, if that is where they are. -/
def table? (c : Configuration) : Option TableSettings :=
  match c.kind with
  | .memory => none
  | .table => c.table

/-- The column of the cards in statements. -/
def dataColumn (c : Configuration) : String :=
  match c.table? with
  | some t => t.names.dataColumn
  | none => TableNames.standard.dataColumn

/-! ### Files -/

variable {m : Type → Type} [Monad m]

/-- The configuration in a file. -/
def load (disk : Disk m) (path : String) : m (Except StoreError Configuration) := do
  match ← disk.readText path with
  | .error e => return .error (e.within ("Failed to read config file: " ++ path))
  | .ok text =>
    match (Toml.read? text).bind ofTable? with
    | some c => return .ok c
    | none => return .error ⟨["Failed to parse config file: " ++ path]⟩

/-- The cards in a file. -/
def loadCards (disk : Disk m) (path : String) : m (Except StoreError MemoryStore) := do
  match ← disk.readText path with
  | .error e => return .error e
  | .ok text =>
    match MemoryStore.read? text with
    | some s => return .ok s
    | none => return .error ⟨["Failed to parse cards from " ++ path]⟩

/-- The messages in a file, laid over the English ones. -/
def loadCatalog (disk : Disk m) (path : String) : m (Except StoreError Catalog) := do
  match ← disk.readText path with
  | .error e => return .error e
  | .ok text =>
    match Catalog.read? text with
    | some c => return .ok (Catalog.english.merge c)
    | none => return .error ⟨["Failed to parse catalog " ++ path]⟩

/-- The messages of the configuration. -/
def catalog (c : Configuration) (disk : Disk m) : m (Except StoreError Catalog) :=
  match c.locale with
  | some path => loadCatalog disk path
  | none => return .ok Catalog.english

/-- The ways of accessing files by name. -/
def accessNames : List String := ["unix", "unix-none", "unix-dotfile", "unix-excl", "memdb"]

/-- The error of a database that cannot be opened. -/
def openFailed (url : String) : StoreError := ⟨["Failed to open " ++ url]⟩

/-- The error of a file that holds something else. -/
def notDatabase : StoreError :=
  ⟨["error returned from database: (code: 26) file is not a database"]⟩

/-- The error of a database in which no table can be made. -/
def notWritable : StoreError :=
  ⟨["error returned from database: (code: 8) attempt to write a readonly database"]⟩

/-- Does a text begin as the file of a database does? -/
def beginsDatabase (content : String) : Bool := "SQLite format 3".toList.isPrefixOf content.toList

/-- Can the file of a database be used?  A file is made where there is none, and an empty one holds
an empty database. -/
def checkFile (url : String) (readOnly : Bool) (hasDirectory : Bool) :
    FileContent → Except StoreError Unit
  | .missing => if readOnly || !hasDirectory then .error (openFailed url) else .ok ()
  | .text content =>
    if content.isEmpty then if readOnly then .error notWritable else .ok ()
    else if beginsDatabase content then .ok ()
    else .error notDatabase
  | .notText => .ok ()
  | .directory => .error (openFailed url)
  | .notDirectory => .error (openFailed url)

/-- Can a database be used at a location?  One in memory always can, and so can one in a file
without name. -/
def checkLocation (disk : Disk m) (url : String) (l : Location) : m (Except StoreError Unit) := do
  if (l.access.map accessNames.contains).getD true then
    match l.file with
    | none => return .ok ()
    | some path =>
      let path := String.ofList path
      if path.isEmpty then return .ok ()
      let hasDirectory ← disk.hasDirectory (Disk.parent path)
      return checkFile url l.readOnly hasDirectory (← disk.read path)
  else return .error (openFailed url)

/-- A table of a database.  Rows are kept as long as the program runs. -/
def openTable (disk : Disk m) (t : TableSettings) : m (Except StoreError TableStore) := do
  match TableStore.create t.names with
  | .error e => return .error e
  | .ok s =>
    match Location.read? t.url with
    | none => return .error ⟨["Invalid database url " ++ t.url]⟩
    | some l => return (← checkLocation disk t.url l).map fun _ => s

/-- The store of the configuration. -/
def openStore (c : Configuration) (disk : Disk m) : m (Except StoreError Store) := do
  match c.kind with
  | .memory =>
    match c.memory.bind (·.path) with
    | none => return .ok MemoryStore.empty.store
    | some path => return (← loadCards disk path).map (·.store)
  | .table =>
    match c.table with
    | none => return .error ⟨["Store type is sqlite but [store.sqlite] is missing"]⟩
    | some t => return (← openTable disk t).map (·.store)

end Configuration

end CardQuery
