import SchemaEvolution.Sqlite.Function.Text

/-!
# Functions of the connection

What the connection has done, what the store is and how it was made, and functions that only have a
use where there is an index of texts or of places.
-/

namespace SchemaEvolution.Sqlite.Function

/-- A function of the connection, which has no arguments. -/
def ofConnection (name : String) (f : Surroundings → Value) : Function where
  name
  accepts := exactly 0
  isFixed := false
  run s _ _ := Pure.pure { value := f s }

/-- A function that only has a use elsewhere. -/
def elsewhere (name : String) (accepts : Nat → Bool) : Function :=
  { ofValues name accepts fun _ =>
      Evaluation.fail ("unable to use function " ++ name ++ " in the requested context") with
    isFixed := false }

/-- What the store was made of. -/
def source : String :=
  "2024-05-23 13:25:27 96c92aba00c8375bc32fafcdf12429c58bd8aabfcadab6683e35bbb9cdebf19e"

/-- The options that the store was made with. -/
def options : List String :=
  ["ATOMIC_INTRINSICS=1", "COMPILER=gcc-12.2.0", "DEFAULT_AUTOVACUUM", "DEFAULT_CACHE_SIZE=-2000",
   "DEFAULT_FILE_FORMAT=4", "DEFAULT_FOREIGN_KEYS", "DEFAULT_JOURNAL_SIZE_LIMIT=-1",
   "DEFAULT_MMAP_SIZE=0", "DEFAULT_PAGE_SIZE=4096", "DEFAULT_PCACHE_INITSZ=20",
   "DEFAULT_RECURSIVE_TRIGGERS", "DEFAULT_SECTOR_SIZE=4096", "DEFAULT_SYNCHRONOUS=2",
   "DEFAULT_WAL_AUTOCHECKPOINT=1000", "DEFAULT_WAL_SYNCHRONOUS=2", "DEFAULT_WORKER_THREADS=0",
   "DIRECT_OVERFLOW_READ", "ENABLE_API_ARMOR", "ENABLE_COLUMN_METADATA", "ENABLE_DBSTAT_VTAB",
   "ENABLE_FTS3", "ENABLE_FTS3_PARENTHESIS", "ENABLE_FTS5", "ENABLE_LOAD_EXTENSION",
   "ENABLE_MEMORY_MANAGEMENT", "ENABLE_RTREE", "ENABLE_STAT4", "ENABLE_UNLOCK_NOTIFY",
   "HAVE_ISNAN", "MALLOC_SOFT_LIMIT=1024", "MAX_ATTACHED=10", "MAX_COLUMN=2000",
   "MAX_COMPOUND_SELECT=500", "MAX_DEFAULT_PAGE_SIZE=8192", "MAX_EXPR_DEPTH=1000",
   "MAX_FUNCTION_ARG=127", "MAX_LENGTH=1000000000", "MAX_LIKE_PATTERN_LENGTH=50000",
   "MAX_MMAP_SIZE=0x7fff0000", "MAX_PAGE_COUNT=0xfffffffe", "MAX_PAGE_SIZE=65536",
   "MAX_SQL_LENGTH=1000000000", "MAX_TRIGGER_DEPTH=1000", "MAX_VARIABLE_NUMBER=32766",
   "MAX_VDBE_OP=250000000", "MAX_WORKER_THREADS=8", "MUTEX_PTHREADS", "SOUNDEX", "SYSTEM_MALLOC",
   "TEMP_STORE=1", "THREADSAFE=1", "USE_URI"]

/-- Whether a name starts one of the options and is not cut off inside a word. -/
def isOption (name : List Char) : Bool :=
  let start := "SQLITE_".toList
  let name := name.map Char.toUpper
  let name := if start.isPrefixOf name then name.drop start.length else name
  options.any fun option =>
    let option := option.toList
    name.isPrefixOf (option.map Char.toUpper) &&
      !((option.drop name.length).head?.any fun c => c.isAlphanum || c = '_' || c = '$')

/-- How deep a tree of places is, which its first two bytes say. -/
def placeDepth : Value → Evaluation Value
  | .blob (a :: b :: _) => return .ofInt (256 * a.toNat + b.toNat)
  | _ => Evaluation.fail "Invalid argument to rtreedepth()"

/-- A function of one value that is not the same for the same one forever. -/
def unfixed (f : Function) : Function := { f with isFixed := false }

/-- The functions of the connection. -/
def connections : List Function :=
  [ofConnection "changes" fun s => .ofInt s.changes,
   ofConnection "total_changes" fun s => .ofInt s.totalChanges,
   ofConnection "last_insert_rowid" fun s => .ofInt s.lastRow,
   ofConnection "sqlite_version" fun _ => .text "3.46.0",
   ofConnection "sqlite_source_id" fun _ => .text source,
   pure "fts5_source_id" (exactly 0) fun _ => .text ("fts5: " ++ source),
   pure "sqlite_log" (exactly 2) fun _ => .null,
   unfixed (pure "sqlite_compileoption_used" (exactly 1)
     (unlessNull fun v => .ofBool (isOption (chars v)))),
   unfixed (pure "sqlite_compileoption_get" (exactly 1) fun values =>
     let n := toInt32 (values.head?.getD .null).asInteger
     if n < 0 then .null else Value.ofOption .text options[n.toNat]?),
   unfixed (pure "fts5" (exactly 1) fun _ => .null),
   unfixed (ofValues "rtreedepth" (exactly 1) fun values => placeDepth (values.head?.getD .null)),
   unfixed (pure "rtreenode" (exactly 2) fun _ => .null),
   elsewhere "MATCH" (exactly 2),
   elsewhere "snippet" (fun _ => true),
   elsewhere "bm25" (fun _ => true),
   elsewhere "highlight" (fun _ => true),
   elsewhere "offsets" (exactly 1),
   elsewhere "matchinfo" (within 1 2),
   elsewhere "optimize" (exactly 1)]

end SchemaEvolution.Sqlite.Function
