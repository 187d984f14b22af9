import ScriptLint.Proofs.Cache.StoreFrame
import ScriptLint.Proofs.Calendar.Timestamps
import ScriptLint.Proofs.Json.DecodedRecord
import ScriptLint.Proofs.Json.WrittenValue
import ScriptLint.Proofs.Table.Rebuilding

/-!
# Entries and their files

The text of the file of an entry stands for the entry.  Only the class is taken from elsewhere,
and the counts of arguments have to fit into the eight bytes that are kept of them.
-/

namespace ScriptLint

open Json

namespace AritySet

/-- Whether every member fits into eight bytes. -/
def Fits (arities : AritySet) : Prop :=
  ∀ arity ∈ arities.toList, arity < 2 ^ 64

theorem isPlain_encode (arities : AritySet) : arities.encode.IsPlain := by
  refine .array fun item member => ?_
  obtain ⟨arity, -, rfl⟩ := List.mem_map.mp member
  exact .natural arity

theorem decode?_encode {arities : AritySet} (fits : arities.Fits) :
    decode? arities.encode = some arities := by
  have numbers : asListOf? (asNatBelow? (2 ^ 64)) arities.encode = some (arities.toList.map id) :=
    mapM_map_eq_some fun arity member => if_pos (fits arity member)
  rw [decode?, Nat.pow_eq, numbers, Option.map_some, List.map_id, ofList_toList]

end AritySet

namespace MethodTable

/-- Whether every count of the table fits into eight bytes. -/
def Fits (table : MethodTable) : Prop :=
  ∀ entry ∈ table.entries, entry.2.Fits

theorem isPlain_encode (table : MethodTable) : table.encode.IsPlain := by
  refine .ofMembers fun member inMembers => ?_
  obtain ⟨entry, -, rfl⟩ := List.mem_map.mp inMembers
  exact entry.2.isPlain_encode

theorem decode?_encode {table : MethodTable} (fits : table.Fits) :
    decode? table.encode = some table := by
  have members : table.encode.asMapOf? AritySet.decode? = some table.entries :=
    asMapOf?_ofMembers fun entry member => AritySet.decode?_encode (fits entry member)
  rw [decode?, members, Option.bind_eq_bind, Option.bind_some, foldl_assign_entries]
  rfl

end MethodTable

theorem Json.isPlain_ofString? (text : Option String) : (ofString? text).IsPlain := by
  cases text with
  | none => exact .null
  | some text => exact .ofString text

theorem Json.asOptionalText?_ofString? (text : Option String) :
    (ofString? text).asOptionalText? = some text := by
  cases text <;> rfl

namespace ValidationHeaders

theorem isPlain_encode (headers : ValidationHeaders) : headers.encode.IsPlain := by
  refine .ofMembers fun member inMembers => ?_
  simp only [List.mem_cons, List.not_mem_nil, or_false] at inMembers
  rcases inMembers with rfl | rfl | rfl | rfl | rfl <;> exact isPlain_ofString? _

theorem decode?_encode (headers : ValidationHeaders) : decode? headers.encode = some headers := by
  have fields : headers.encode.asRecord? fieldNames =
      some [some (ofString? headers.etag), some (ofString? headers.lastModified),
        some (ofString? headers.cacheControl), some (ofString? headers.expires),
        some (ofString? headers.date)] :=
    asRecord?_ofMembers (show fieldNames.Nodup by decide)
  rw [decode?, fields]
  simp [asOptionalText?_ofString?]

end ValidationHeaders

namespace CacheEntry

theorem isPlain_encode (entry : CacheEntry) : entry.encode.IsPlain := by
  refine .ofMembers fun member inMembers => ?_
  simp only [List.mem_cons, List.not_mem_nil, or_false] at inMembers
  rcases inMembers with rfl | rfl | rfl
  · exact entry.methods.isPlain_encode
  · cases entry.headers with
    | none => exact .null
    | some headers => exact headers.isPlain_encode
  · exact isPlain_ofString? _

theorem decodeInstant?_ofString? (cachedAt : Option Calendar.Instant) :
    decodeInstant? (ofString? (cachedAt.map Calendar.Instant.zuluText)) = some cachedAt := by
  cases cachedAt with
  | none => rfl
  | some instant =>
      simp [ofString?, ofString, decodeInstant?, asText?,
        Calendar.Instant.readLooseTimestamp?_zuluText]

theorem asRecord?_encode (entry : CacheEntry) :
    entry.encode.asRecord? fieldNames =
      some [some entry.methods.encode, some (entry.headers.elim .null ValidationHeaders.encode),
        some (ofString? (entry.cachedAt.map Calendar.Instant.zuluText))] := by
  have distinct : fieldNames.Nodup := by decide
  cases headersEq : entry.headers with
  | none =>
      rw [encode, headersEq]
      exact asRecord?_ofMembers distinct
  | some headers =>
      rw [encode, headersEq]
      exact asRecord?_ofMembers distinct

theorem decode?_encode {entry : CacheEntry} (fits : entry.methods.Fits) (className : String) :
    decode? className entry.encode = some { entry with className } := by
  have methods := MethodTable.decode?_encode fits
  have instant := decodeInstant?_ofString? entry.cachedAt
  rw [decode?, asRecord?_encode]
  cases headersEq : entry.headers with
  | none => simp [methods, instant]
  | some headers =>
      obtain ⟨members, shape⟩ : ∃ members, headers.encode = object members := ⟨_, rfl⟩
      have decoded := headers.decode?_encode
      rw [shape] at decoded
      simp [methods, instant, shape, decoded]

/-- The text of the file of an entry stands for the entry, whatever class it is read for. -/
theorem ofFileText?_fileText {entry : CacheEntry} (fits : entry.methods.Fits)
    (className : String) :
    ofFileText? className entry.fileText = some { entry with className } := by
  rw [ofFileText?, fileText, pretty, parse?_write entry.isPlain_encode, Option.bind_some,
    decode?_encode fits]

end CacheEntry

namespace CacheStore

variable {store : CacheStore} {className : String} {entry : CacheEntry}

theorem fromUTF8?_toUTF8 (text : String) : String.fromUTF8? text.toUTF8 = some text := by
  simp [String.fromUTF8?, text.isValidUTF8, String.fromUTF8]

/-- An entry of a class is read back from the file that holds it. -/
theorem tryRead_of_node? (holds : store.node? className = some (.file entry.fileText.toUTF8))
    (named : entry.className = className) (fits : entry.methods.Fits) :
    store.tryRead className = .ok entry := by
  have read : store.read? className = some entry := by
    rw [read?_eq, holds, Option.bind_some, entryOfNode?, fromUTF8?_toUTF8, Option.bind_some,
      CacheEntry.ofFileText?_fileText fits, ← named]
  rw [read?] at read
  cases outcome : store.tryRead className with
  | error failure =>
      rw [outcome] at read
      cases read
  | ok found =>
      rw [outcome] at read
      cases read
      rfl

end CacheStore

end ScriptLint
