import Astra.Foundation.Base64
import Astra.Foundation.Table
import Astra.Platform.Errors
import Mathlib.Logic.Equiv.Nat

/-!
# Pagination cursors

`utils/cursors.py`: a cursor is the JSON text of a timestamp and an id, in URL-safe
base64 without padding.
-/

namespace Astra.Platform

open Astra.Foundation

structure CursorPosition where
  timestamp : Timestamp
  entityId : UUID

structure ParsedDatetime where
  instant : Timestamp
  aware : Bool

def cursorFields (timestamp entityId : String) : Dict :=
  [("timestamp", .str timestamp), ("id", .str entityId)]

/-- The parts of `datetime` and `json` that cursors use. -/
structure CursorRuntime extends PyRuntime where
  isoformat : Timestamp → String
  fromisoformat : String → Except Exn ParsedDatetime
  dumps : Dict → String
  loads : String → Except Exn Json
  fromisoformat_isoformat : ∀ timestamp, fromisoformat (isoformat timestamp) = .ok ⟨timestamp, true⟩
  loads_dumps : ∀ timestamp id,
    loads (dumps (cursorFields (isoformat timestamp) (uuidText id))) =
      .ok (.obj (cursorFields (isoformat timestamp) (uuidText id)))
  dumps_ne_empty : ∀ payload, dumps payload ≠ ""

variable (rt : CursorRuntime)

def encodeCursor (position : CursorPosition) : String :=
  let payload := rt.dumps (cursorFields (rt.isoformat position.timestamp)
    (rt.uuidText position.entityId))
  String.ofList (Base64.strip (Base64.encode payload.toUTF8.data.toList))

def urlsafeB64decode (text : List Char) : Except Exn (List UInt8) :=
  if text.all fun c => c.toNat < 128 then
    match Base64.decode text with
    | none => .error (.other "binascii.Error" "Incorrect padding")
    | some bytes => .ok bytes
  else .error (valueError "string argument should contain only ASCII characters")

def decodeUtf8 (bytes : List UInt8) : Except Exn String :=
  match String.fromUTF8? ⟨bytes.toArray⟩ with
  | none => .error (.other "UnicodeDecodeError" "'utf-8' codec can't decode bytes")
  | some text => .ok text

def subscript (payload : Json) (key : String) : Except Exn Json :=
  match payload with
  | .obj fields =>
      match Dict.get? fields key with
      | none => .error (.other "KeyError" key)
      | some value => .ok value
  | .arr _ => .error (.other "TypeError" "list indices must be integers or slices, not str")
  | .str _ => .error (.other "TypeError" "string indices must be integers, not 'str'")
  | _ => .error (.other "TypeError" "object is not subscriptable")

/-- The `try` block of `decode_cursor`. -/
def readCursor (value : String) : Except Exn CursorPosition := do
  let bytes ← urlsafeB64decode (Base64.fill value.toList)
  let text ← decodeUtf8 bytes
  let payload ← rt.loads text
  let timestamp ← rt.fromisoformat (rt.str (← subscript payload "timestamp"))
  if timestamp.aware then
    match rt.uuidParse (rt.str (← subscript payload "id")) with
    | none => .error (valueError "badly formed hexadecimal UUID string")
    | some id => .ok ⟨timestamp.instant, id⟩
  else .error (valueError "Cursor timestamp must include a timezone.")

def isCursorError : Exn → Bool
  | .other kind _ =>
      ["ValueError", "TypeError", "KeyError", "UnicodeDecodeError", "binascii.Error",
        "JSONDecodeError"].contains kind
  | _ => false

def decodeCursor (value : String) : Except Exn CursorPosition :=
  match readCursor rt value with
  | .ok position => .ok position
  | .error e =>
      .error (if isCursorError e then validationException "Pagination cursor is invalid." else e)

/-! ## Round trip -/

theorem decodeUtf8_toUTF8 (text : String) : decodeUtf8 text.toUTF8.data.toList = .ok text := by
  have hbytes : (⟨text.toUTF8.data.toList.toArray⟩ : ByteArray) = text.toUTF8 := by
    rw [Array.toArray_toList]
  have hdecode : String.fromUTF8? text.toUTF8 = some text := by
    rw [String.fromUTF8?, String.toUTF8_eq_toByteArray, dif_pos text.isValidUTF8]
    rfl
  rw [decodeUtf8, hbytes, hdecode]

private theorem readCursor_encodeCursor (position : CursorPosition) :
    readCursor rt (encodeCursor rt position) = .ok position := by
  have hascii : ((Base64.encode
      (rt.dumps (cursorFields (rt.isoformat position.timestamp)
        (rt.uuidText position.entityId))).toUTF8.data.toList).all
          fun c => c.toNat < 128) = true := by
    rw [List.all_eq_true]
    intro c hc
    exact decide_eq_true (Base64.encode_isAscii _ c hc)
  have htimestamp : subscript (.obj (cursorFields (rt.isoformat position.timestamp)
      (rt.uuidText position.entityId))) "timestamp" =
        .ok (.str (rt.isoformat position.timestamp)) := rfl
  have hid : subscript (.obj (cursorFields (rt.isoformat position.timestamp)
      (rt.uuidText position.entityId))) "id" = .ok (.str (rt.uuidText position.entityId)) := rfl
  simp only [readCursor, encodeCursor, String.toList_ofList, Base64.fill_strip_encode,
    urlsafeB64decode, hascii, if_true, Base64.decode_encode, bind, Except.bind,
    decodeUtf8_toUTF8, rt.loads_dumps, htimestamp, hid, rt.str_str,
    rt.fromisoformat_isoformat, rt.uuidParse_text]

theorem decodeCursor_encodeCursor (position : CursorPosition) :
    decodeCursor rt (encodeCursor rt position) = .ok position := by
  rw [decodeCursor, readCursor_encodeCursor]

theorem encodeCursor_ne_empty (position : CursorPosition) : encodeCursor rt position ≠ "" := by
  intro h
  have hbody := congrArg Base64.fill (congrArg String.toList h)
  simp only [encodeCursor, String.toList_ofList, Base64.fill_strip_encode] at hbody
  have hdecode := Base64.decode_encode (rt.dumps (cursorFields (rt.isoformat position.timestamp)
    (rt.uuidText position.entityId))).toUTF8.data.toList
  rw [hbody] at hdecode
  have hbytes := congrArg decodeUtf8 (Option.some.inj hdecode)
  rw [decodeUtf8_toUTF8] at hbytes
  exact rt.dumps_ne_empty _ (Except.ok.inj (hbytes.symm.trans (decodeUtf8_toUTF8 "")))

/-! ## A runtime for evaluation -/

section Texts

variable {κ : Type} [DecidableEq κ] (table : List (κ × String)) (code : κ ≃ Nat)

def tableText (k : κ) : String :=
  match table.find? fun entry => entry.1 == k with
  | some entry => entry.2
  | none => String.ofList ('#' :: (Nat.repr (code k)).toList)

def tableParse (text : String) : Option κ :=
  match table.find? fun entry => entry.2 == text with
  | some entry => some entry.1
  | none =>
      match text.toList with
      | '#' :: digits => (decimalParse (String.ofList digits)).map code.symm
      | _ => none

theorem tableParse_text (hnodup : (table.map Prod.snd).Nodup)
    (htag : ∀ entry ∈ table, entry.2.toList.head? ≠ some '#') (k : κ) :
    tableParse table code (tableText table code k) = some k := by
  unfold tableText
  split
  · rename_i entry hfind
    have hkey : entry.1 = k := by simpa using List.find?_some hfind
    rw [tableParse, find?_key hnodup (List.mem_of_find?_eq_some hfind)]
    exact congrArg some hkey
  · have hfind : table.find? (fun entry => entry.2 == String.ofList ('#' ::
        (Nat.repr (code k)).toList)) = none := by
      rw [List.find?_eq_none]
      intro entry hentry heq
      rw [beq_iff_eq] at heq
      exact htag entry hentry (by rw [heq, String.toList_ofList]; rfl)
    rw [tableParse, hfind, String.toList_ofList]
    change (decimalParse (String.ofList (Nat.repr (code k)).toList)).map code.symm = some k
    rw [String.ofList_toList, decimalParse_repr, Option.map_some, Equiv.symm_apply_apply]

theorem quote_not_mem_tableText (htable : ∀ entry ∈ table, '"' ∉ entry.2.toList) (k : κ) :
    '"' ∉ (tableText table code k).toList := by
  unfold tableText
  split
  · rename_i entry hfind
    exact htable entry (List.mem_of_find?_eq_some hfind)
  · rw [String.toList_ofList, List.mem_cons, not_or]
    refine ⟨by decide, ?_⟩
    intro hquote
    rw [Nat.toList_repr] at hquote
    have hdigit := Nat.isDigit_of_mem_toDigits (by decide) (by decide) hquote
    revert hdigit
    decide

end Texts

def sampleTimestamps : List (Timestamp × String) :=
  [(1, "1970-01-01T00:00:00.000001+00:00"), (2, "1970-01-01T00:00:00.000002+00:00"),
    (3, "1970-01-01T00:00:00.000003+00:00")]

def sampleIds : List (UUID × String) :=
  [(1, "00000000-0000-0000-0000-000000000001"), (2, "00000000-0000-0000-0000-000000000002"),
    (3, "00000000-0000-0000-0000-000000000003")]

def sampleDumps : Dict → String
  | [(name, .str value), (name', .str value')] =>
      String.ofList (['"'].intercalate [['{'], name.toList, [':'], value.toList, [','],
        name'.toList, [':'], value'.toList, ['}']])
  | _ => "null"

def sampleLoads (text : String) : Except Exn Json :=
  match text.toList.splitOn '"' with
  | [['{'], name, [':'], value, [','], name', [':'], value', ['}']] =>
      .ok (.obj [(String.ofList name, .str (String.ofList value)),
        (String.ofList name', .str (String.ofList value'))])
  | _ => .error (.other "JSONDecodeError" "Expecting value")

private theorem sampleLoads_dumps {timestamp id : String} (htimestamp : '"' ∉ timestamp.toList)
    (hid : '"' ∉ id.toList) :
    sampleLoads (sampleDumps (cursorFields timestamp id)) =
      .ok (.obj (cursorFields timestamp id)) := by
  have hsplit : (['"'].intercalate [['\x7b'], "timestamp".toList, [':'], timestamp.toList, [','],
      "id".toList, [':'], id.toList, ['\x7d']]).splitOn '"' =
        [['\x7b'], "timestamp".toList, [':'], timestamp.toList, [','], "id".toList, [':'],
          id.toList, ['\x7d']] := by
    refine List.splitOn_intercalate '"' ?_ (by simp)
    simp only [List.forall_mem_cons]
    exact ⟨by decide, by decide, by decide, htimestamp, by decide, by decide, by decide, hid,
      by decide, by simp⟩
  rw [cursorFields, sampleDumps, sampleLoads, String.toList_ofList, hsplit]
  simp only [String.ofList_toList]

private theorem sampleDumps_ne_empty (payload : Dict) : sampleDumps payload ≠ "" := by
  unfold sampleDumps
  split
  · intro h
    have hchars := congrArg String.toList h
    rw [String.toList_ofList] at hchars
    simp [List.intercalate_cons_cons] at hchars
  · decide

def CursorRuntime.sample : CursorRuntime where
  casefold := PyRuntime.ascii.casefold
  str := PyRuntime.ascii.str
  int? := PyRuntime.ascii.int?
  uuidText := tableText sampleIds (Equiv.refl Nat)
  uuidParse := tableParse sampleIds (Equiv.refl Nat)
  fixed2 := PyRuntime.ascii.fixed2
  str_str := PyRuntime.ascii.str_str
  uuidParse_text := tableParse_text sampleIds (Equiv.refl Nat) (by decide) (by decide)
  isoformat := tableText sampleTimestamps Equiv.intEquivNat
  fromisoformat text :=
    match tableParse sampleTimestamps Equiv.intEquivNat text with
    | none => .error (valueError "Invalid isoformat string")
    | some timestamp => .ok ⟨timestamp, true⟩
  dumps := sampleDumps
  loads := sampleLoads
  fromisoformat_isoformat timestamp := by
    rw [tableParse_text sampleTimestamps Equiv.intEquivNat (by decide) (by decide)]
  loads_dumps timestamp id :=
    sampleLoads_dumps (quote_not_mem_tableText _ _ (by decide) timestamp)
      (quote_not_mem_tableText _ _ (by decide) id)
  dumps_ne_empty := sampleDumps_ne_empty

end Astra.Platform
