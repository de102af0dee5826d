import Astra.Client.Text
import Astra.Platform.JsonText

/-!
# Reading JSON texts on the client

`jsonDecode` of `dart:convert`.  A value is read by recursive descent; the fuel bounds the
depth of the calls, and the length of the text is enough of it.
-/

namespace Astra.Client

open Astra.Platform

/-! ## Characters -/

/-- The characters of a Dart string; a lone surrogate is none. -/
def ofCodeUnits : DartString → List Char
  | [] => []
  | [u] => [Char.ofNat u.toNat]
  | u :: v :: units =>
      if 0xd800 ≤ u.toNat ∧ u.toNat < 0xdc00 ∧ 0xdc00 ≤ v.toNat ∧ v.toNat < 0xe000 then
        Char.ofNat (0x10000 + (u.toNat - 0xd800) * 0x400 + (v.toNat - 0xdc00)) ::
          ofCodeUnits units
      else Char.ofNat u.toNat :: ofCodeUnits (v :: units)

private theorem ofCodeUnits_cons (c : Char) (units : DartString) :
    ofCodeUnits (codeUnits c ++ units) = c :: ofCodeUnits units := by
  have hvalid : c.toNat < 0xd800 ∨ 0xdfff < c.toNat ∧ c.toNat < 0x110000 := c.valid
  unfold codeUnits
  split
  · rename_i hbasic
    have hunit : c.toNat.toUInt16.toNat = c.toNat := UInt16.toNat_ofNat_of_lt' hbasic
    cases units with
    | nil => simp [ofCodeUnits, hunit]
    | cons v units =>
        rw [List.singleton_append, ofCodeUnits, hunit, if_neg (by omega), Char.ofNat_toNat]
  · have hhigh : (0xd800 + (c.toNat - 0x10000) / 0x400).toUInt16.toNat =
        0xd800 + (c.toNat - 0x10000) / 0x400 :=
      UInt16.toNat_ofNat_of_lt' (show _ < 65536 by omega)
    have hlow : (0xdc00 + (c.toNat - 0x10000) % 0x400).toUInt16.toNat =
        0xdc00 + (c.toNat - 0x10000) % 0x400 :=
      UInt16.toNat_ofNat_of_lt' (show _ < 65536 by omega)
    rw [List.cons_append, List.singleton_append, ofCodeUnits, hhigh, hlow, if_pos (by omega)]
    have hcode : 0x10000 + (0xd800 + (c.toNat - 0x10000) / 0x400 - 0xd800) * 0x400 +
        (0xdc00 + (c.toNat - 0x10000) % 0x400 - 0xdc00) = c.toNat := by omega
    rw [hcode, Char.ofNat_toNat]

theorem ofCodeUnits_chars (cs : List Char) : ofCodeUnits (cs.flatMap codeUnits) = cs := by
  induction cs with
  | nil => rfl
  | cons c cs ih => rw [List.flatMap_cons, ofCodeUnits_cons, ih]

/-! ## The parser -/

def isBlank (c : Char) : Bool := c.toNat == 32 || c.toNat == 9 || c.toNat == 10 || c.toNat == 13

def skipBlanks (text : List Char) : List Char := text.dropWhile isBlank

def hexValue (c : Char) : Option Nat :=
  if 48 ≤ c.toNat ∧ c.toNat ≤ 57 then some (c.toNat - 48)
  else if 97 ≤ c.toNat ∧ c.toNat ≤ 102 then some (c.toNat - 87)
  else if 65 ≤ c.toNat ∧ c.toNat ≤ 70 then some (c.toNat - 55)
  else none

def hexUnit (a b c d : Char) : Option UInt16 := do
  let a ← hexValue a
  let b ← hexValue b
  let c ← hexValue c
  let d ← hexValue d
  some (((a * 16 + b) * 16 + c) * 16 + d).toUInt16

def unescape (c : Char) : Option UInt16 :=
  if c = '"' ∨ c = '\\' ∨ c = '/' then some c.toNat.toUInt16
  else if c = 'b' then some 8
  else if c = 'f' then some 12
  else if c = 'n' then some 10
  else if c = 'r' then some 13
  else if c = 't' then some 9
  else none

def readString : List Char → Option (DartString × List Char)
  | [] => none
  | [c] => if c = '"' then some ([], []) else none
  | c :: e :: cs =>
      if c = '"' then some ([], e :: cs)
      else if c = '\\' then
        if e = 'u' then
          match cs with
          | h₁ :: h₂ :: h₃ :: h₄ :: cs => do
              let unit ← hexUnit h₁ h₂ h₃ h₄
              let (units, rest) ← readString cs
              some (unit :: units, rest)
          | _ => none
        else do
          let unit ← unescape e
          let (units, rest) ← readString cs
          some (unit :: units, rest)
      else if c.toNat < 32 then none
      else do
        let (units, rest) ← readString (e :: cs)
        some (codeUnits c ++ units, rest)

def readText (text : List Char) : Option (String × List Char) :=
  (readString text).map fun read => (String.ofList (ofCodeUnits read.1), read.2)

def isDecimal (cs : List Char) : Bool :=
  !cs.isEmpty && cs.all Char.isDigit && (cs.length == 1 || cs.head? != some '0')

def int64 (value : Int) : Bool := -9223372036854775808 ≤ value && value ≤ 9223372036854775807

/-- An integer that does not fit into 64 bits becomes a double, and so does `-0`. -/
def decimalValue (negative : Bool) (digits : List Char) : Json :=
  let magnitude := Nat.ofDigitChars 10 digits 0
  let value : Int := if negative then -magnitude else magnitude
  if negative && magnitude == 0 then .float 0
  else if int64 value then .int value
  else .float value

variable (floats : FloatText)

def readNumber (text : List Char) : Option (Json × List Char) :=
  let token := text.takeWhile isNumberChar
  let rest := text.dropWhile isNumberChar
  let digits := if token.head? = some '-' then token.drop 1 else token
  if isDecimal digits then some (decimalValue (token.head? = some '-') digits, rest)
  else (floats.read token).map fun value => (.float value, rest)

def readLiteral (text : List Char) : Option (Json × List Char) :=
  if "true".toList <+: text then some (.bool true, text.drop 4)
  else if "false".toList <+: text then some (.bool false, text.drop 5)
  else if "null".toList <+: text then some (.null, text.drop 4)
  else readNumber floats text

/-- `listener.handleObject`: a key that comes again keeps its place and takes the new value. -/
def assemble (fields : List (String × Json)) : Dict :=
  fields.foldl (fun object entry => Dict.set object entry.1 entry.2) []

mutual

def parseValue : Nat → List Char → Option (Json × List Char)
  | 0, _ => none
  | fuel + 1, text =>
      match skipBlanks text with
      | [] => none
      | c :: cs =>
          if c = '\x7b' then
            match skipBlanks cs with
            | [] => none
            | d :: ds =>
                if d = '\x7d' then some (.obj [], ds)
                else (parseFields fuel (d :: ds)).map fun read => (.obj (assemble read.1), read.2)
          else if c = '[' then
            match skipBlanks cs with
            | [] => none
            | d :: ds =>
                if d = ']' then some (.arr [], ds)
                else (parseItems fuel (d :: ds)).map fun read => (.arr read.1, read.2)
          else if c = '"' then (readText cs).map fun read => (.str read.1, read.2)
          else readLiteral floats (c :: cs)

def parseItems : Nat → List Char → Option (List Json × List Char)
  | 0, _ => none
  | fuel + 1, text => do
      let (value, rest) ← parseValue fuel text
      match skipBlanks rest with
      | [] => none
      | c :: cs =>
          if c = ']' then some ([value], cs)
          else if c = ',' then do
            let (values, rest) ← parseItems fuel cs
            some (value :: values, rest)
          else none

def parseFields : Nat → List Char → Option (List (String × Json) × List Char)
  | 0, _ => none
  | fuel + 1, text =>
      match skipBlanks text with
      | [] => none
      | q :: qs =>
          if q = '"' then do
            let (key, rest) ← readText qs
            match skipBlanks rest with
            | [] => none
            | c :: cs =>
                if c = ':' then do
                  let (value, rest) ← parseValue fuel cs
                  match skipBlanks rest with
                  | [] => none
                  | d :: ds =>
                      if d = '\x7d' then some ([(key, value)], ds)
                      else if d = ',' then do
                        let (fields, rest) ← parseFields fuel ds
                        some ((key, value) :: fields, rest)
                      else none
                else none
          else none

end

def jsonDecode (text : DartString) : Option Json :=
  let chars := ofCodeUnits text
  match parseValue floats (chars.length + 1) chars with
  | some (value, rest) => if skipBlanks rest = [] then some value else none
  | none => none

/-! ## Texts of the printer -/

/-- What both sides represent alike: objects without repeated keys, integers of 64 bits. -/
inductive Portable : Json → Prop
  | null : Portable .null
  | bool (value : Bool) : Portable (.bool value)
  | int (value : Int) (h : int64 value = true) : Portable (.int value)
  | float (value : Rat) (h : floats.double value) : Portable (.float value)
  | str (value : String) : Portable (.str value)
  | arr (items : List Json) (h : ∀ item ∈ items, Portable item) : Portable (.arr items)
  | obj (fields : List (String × Json)) (hkeys : (fields.map Prod.fst).Nodup)
      (h : ∀ entry ∈ fields, Portable entry.2) : Portable (.obj fields)

section RoundTrip

variable {floats : FloatText} {rest : List Char}

theorem hexValue_hexDigit : ∀ n < 16, hexValue (hexDigit n) = some n := by decide

private theorem hexUnit_control {n : Nat} (h : n < 32) :
    hexUnit '0' '0' (hexDigit (n / 16)) (hexDigit (n % 16)) = some n.toUInt16 := by
  have hzero : hexValue '0' = some 0 := by decide
  simp only [hexUnit, hzero, hexValue_hexDigit (n / 16) (by omega),
    hexValue_hexDigit (n % 16) (by omega), bind, Option.bind]
  congr 2
  omega

private theorem readString_escaped {e : Char} {unit : UInt16} (he : unescape e = some unit) :
    readString ('\\' :: e :: rest) =
      (readString rest).map fun read => (unit :: read.1, read.2) := by
  have hu : e ≠ 'u' := by
    rintro rfl
    simp [unescape] at he
  rw [readString.eq_def]
  simp only [Char.reduceEq, if_false, if_true, hu, he, bind, Option.bind]
  cases readString rest <;> rfl

private theorem readString_unit {a b c d : Char} {unit : UInt16} (h : hexUnit a b c d = some unit) :
    readString ('\\' :: 'u' :: a :: b :: c :: d :: rest) =
      (readString rest).map fun read => (unit :: read.1, read.2) := by
  rw [readString, if_neg (by decide), if_pos rfl, if_pos rfl]
  simp only [h, bind, Option.bind]
  cases readString rest <;> rfl

private theorem readString_plain {c : Char} (hquote : c ≠ '"') (hslash : c ≠ '\\')
    (hplain : 32 ≤ c.toNat) :
    readString (c :: rest) =
      (readString rest).map fun read => (codeUnits c ++ read.1, read.2) := by
  cases rest with
  | nil => simp [readString, hquote]
  | cons e rest =>
      rw [readString.eq_def]
      simp only [hquote, hslash, if_false, if_neg (Nat.not_lt.mpr hplain), bind, Option.bind]
      cases readString (e :: rest) <;> rfl

theorem codeUnits_basic {c : Char} (h : c.toNat < 0x10000) : codeUnits c = [c.toNat.toUInt16] :=
  if_pos h

private theorem readString_escapeChar (c : Char) :
    readString (escapeChar c ++ rest) =
      (readString rest).map fun read => (codeUnits c ++ read.1, read.2) := by
  -- A two-character escape stands for the one unit of `c`.
  have short {e : Char} (hbasic : c.toNat < 0x10000)
      (he : unescape e = some c.toNat.toUInt16) :
      readString (['\\', e] ++ rest) =
        (readString rest).map fun read => (codeUnits c ++ read.1, read.2) := by
    rw [codeUnits_basic hbasic]
    exact readString_escaped he
  unfold escapeChar
  split_ifs with hquote hslash hb ht hn hf hr hcontrol
  · subst hquote
    exact short (by decide) (by decide)
  · subst hslash
    exact short (by decide) (by decide)
  · exact short (by omega) (by rw [hb]; decide)
  · exact short (by omega) (by rw [ht]; decide)
  · exact short (by omega) (by rw [hn]; decide)
  · exact short (by omega) (by rw [hf]; decide)
  · exact short (by omega) (by rw [hr]; decide)
  · rw [codeUnits_basic (by omega)]
    exact readString_unit (hexUnit_control hcontrol)
  · exact readString_plain hquote hslash (by omega)

theorem readText_stringChars (text : String) :
    readText ((stringChars text).tail ++ rest) = some (text, rest) := by
  have hread (cs : List Char) : readString (cs.flatMap escapeChar ++ '"' :: rest) =
      some (cs.flatMap codeUnits, rest) := by
    induction cs with
    | nil => cases rest <;> simp [readString.eq_def ('"' :: _)]
    | cons c cs ih =>
        rw [List.flatMap_cons, List.append_assoc, readString_escapeChar, ih, List.flatMap_cons]
        rfl
  unfold readText stringChars
  rw [List.tail_cons, List.append_assoc, List.singleton_append, hread, Option.map_some,
    ofCodeUnits_chars, String.ofList_toList]

/-! ## Numbers -/

def Ends (rest : List Char) : Prop := ∀ c ∈ rest.head?, isNumberChar c = false

theorem takeWhile_token {token : List Char} (htoken : ∀ c ∈ token, isNumberChar c = true)
    (hends : Ends rest) :
    (token ++ rest).takeWhile isNumberChar = token ∧
      (token ++ rest).dropWhile isNumberChar = rest := by
  have hrest : rest.takeWhile isNumberChar = [] ∧ rest.dropWhile isNumberChar = rest := by
    cases rest with
    | nil => exact ⟨rfl, rfl⟩
    | cons c rest =>
        have hc : isNumberChar c = false := hends c rfl
        simp [hc]
  rw [List.takeWhile_append_of_pos htoken, List.dropWhile_append_of_pos htoken, hrest.1, hrest.2]
  simp

private theorem digitChar_ne_zero : ∀ n < 10, 0 < n → Nat.digitChar n ≠ '0' := by decide

private theorem toDigits_head {n : Nat} (hn : 0 < n) : (Nat.toDigits 10 n).head? ≠ some '0' := by
  induction n using Nat.strong_induction_on with
  | _ n ih =>
      rcases Nat.lt_or_ge n 10 with hlt | hge
      · rw [Nat.toDigits_of_lt_base hlt]
        simpa using digitChar_ne_zero n hlt hn
      · rw [Nat.toDigits_of_base_le (by decide) hge,
          List.head?_append_of_ne_nil _ Nat.toDigits_ne_nil]
        exact ih (n / 10) (by omega) (by omega)

theorem toDigits_digits (n : Nat) : ∀ c ∈ Nat.toDigits 10 n, c.isDigit = true :=
  fun _ hc => Nat.isDigit_of_mem_toDigits (by decide) (by decide) hc

theorem isDecimal_toDigits (n : Nat) : isDecimal (Nat.toDigits 10 n) = true := by
  have hne : Nat.toDigits 10 n ≠ [] := Nat.toDigits_ne_nil
  have hdigits : (Nat.toDigits 10 n).all Char.isDigit = true :=
    List.all_eq_true.mpr (toDigits_digits n)
  have hfirst :
      ((Nat.toDigits 10 n).length == 1 || (Nat.toDigits 10 n).head? != some '0') = true := by
    rcases Nat.eq_zero_or_pos n with rfl | hn
    · decide
    · simp [toDigits_head hn]
  simp only [isDecimal, hdigits, hfirst, Bool.and_true, Bool.not_eq_true',
    List.isEmpty_eq_false_iff]
  exact hne

private theorem decimalValue_toDigits (value : Int) (hvalue : int64 value = true) :
    decimalValue (decide (value < 0)) (Nat.toDigits 10 value.natAbs) = .int value := by
  unfold decimalValue
  rw [Nat.ofDigitChars_toDigits (by decide) (by decide)]
  by_cases hneg : value < 0
  · have hmagnitude : (value.natAbs == 0) = false := by
      rw [beq_eq_false_iff_ne]
      omega
    have hback : -(value.natAbs : Int) = value := by omega
    simp only [hneg, decide_true, if_true, hback, hmagnitude, Bool.and_false, Bool.false_eq_true,
      if_false, hvalue]
  · have hback : (value.natAbs : Int) = value := by omega
    simp only [hneg, decide_false, Bool.false_and, Bool.false_eq_true, if_false, hback, hvalue,
      if_true]

private theorem readNumber_intChars (value : Int) (hvalue : int64 value = true)
    (hends : Ends rest) :
    readNumber floats (intChars value ++ rest) = some (.int value, rest) := by
  obtain ⟨htake, hdrop⟩ := takeWhile_token (intChars_number value) hends
  have hdecimal := decimalValue_toDigits value hvalue
  unfold readNumber
  rw [htake, hdrop]
  unfold intChars
  split
  · rename_i hneg
    rw [decide_eq_true hneg] at hdecimal
    simp only [List.head?_cons, if_true, List.drop_succ_cons, List.drop_zero, isDecimal_toDigits,
      decide_true, hdecimal]
  · rename_i hpos
    have hdash : ¬ (Nat.toDigits 10 value.natAbs).head? = some '-' := by
      intro hhead
      have hdigit := toDigits_digits _ '-' (List.mem_of_mem_head? hhead)
      exact absurd hdigit (by decide)
    rw [decide_eq_false hpos] at hdecimal
    simp only [if_neg hdash, isDecimal_toDigits, if_true, decide_eq_false hdash, hdecimal]

private theorem readNumber_float (value : Rat) (hvalue : floats.double value) (hends : Ends rest) :
    readNumber floats (floats.text value ++ rest) = some (.float value, rest) := by
  obtain ⟨htake, hdrop⟩ := takeWhile_token (floats.text_chars value) hends
  obtain ⟨point, hpoint, hkind⟩ := floats.text_point value
  have hnot (digits : List Char) (hin : point ∈ digits) : isDecimal digits = false := by
    have hall : digits.all Char.isDigit = false := by
      rw [List.all_eq_false]
      exact ⟨point, hin, by rcases hkind with rfl | rfl <;> decide⟩
    simp [isDecimal, hall]
  unfold readNumber
  rw [htake, hdrop]
  have hdecimal : isDecimal (if (floats.text value).head? = some '-' then
      (floats.text value).drop 1 else floats.text value) = false := by
    split
    · rename_i hdash
      obtain ⟨tail, htail⟩ := List.head?_eq_some_iff.mp hdash
      rw [htail] at hpoint ⊢
      refine hnot _ ((List.mem_cons.mp hpoint).resolve_left ?_)
      rintro rfl
      rcases hkind with h | h <;> exact absurd h (by decide)
    · exact hnot _ hpoint
  simp only [hdecimal, floats.read_text value hvalue]
  rfl

/-! ## Values -/

private theorem assemble_nodup {fields : List (String × Json)} (h : (fields.map Prod.fst).Nodup) :
    assemble fields = fields := by
  have hfold (object : Dict) (hkeys : ((object ++ fields).map Prod.fst).Nodup) :
      fields.foldl (fun object entry => Dict.set object entry.1 entry.2) object =
        object ++ fields := by
    clear h
    induction fields generalizing object with
    | nil => simp
    | cons entry fields ih =>
        have hfresh : object.any (fun old => old.1 == entry.1) = false := by
          rw [List.any_eq_false]
          intro old hold heq
          rw [beq_iff_eq] at heq
          rw [List.map_append, List.nodup_append] at hkeys
          exact hkeys.2.2 _ (List.mem_map_of_mem hold) _
            (List.mem_map_of_mem List.mem_cons_self) heq
        have hset : Dict.set object entry.1 entry.2 = object ++ [entry] := by
          simp [Dict.set, hfresh]
        rw [List.foldl_cons, hset, ih (object ++ [entry]) (by simpa using hkeys)]
        simp
  simpa [assemble] using hfold [] (by simpa using h)

theorem skipBlanks_cons {c : Char} (h : isBlank c = false) (cs : List Char) :
    skipBlanks (c :: cs) = c :: cs := by
  simp [skipBlanks, h]

theorem ends_cons {c : Char} (h : isNumberChar c = false) (cs : List Char) : Ends (c :: cs) := by
  intro d hd
  obtain rfl := Option.mem_some_iff.mp hd
  exact h

structure OpensValue (c : Char) : Prop where
  blank : isBlank c = false
  bracket : c ≠ ']'

theorem isNumberChar_opens {c : Char} (h : isNumberChar c = true) : OpensValue c where
  blank := by
    have hcode := isNumberChar_code h
    simp [isBlank]
    omega
  bracket := by
    rintro rfl
    exact absurd h (by decide)

theorem dumpsChars_opens (floats : FloatText) (value : Json) :
    ∃ c cs, dumpsChars floats value = c :: cs ∧ OpensValue c := by
  have number {token : List Char} (hne : token ≠ [])
      (htoken : ∀ c ∈ token, isNumberChar c = true) : ∃ c cs, token = c :: cs ∧ OpensValue c := by
    obtain ⟨c, cs, rfl⟩ := List.exists_cons_of_ne_nil hne
    exact ⟨c, cs, rfl, isNumberChar_opens (htoken c List.mem_cons_self)⟩
  have sign {c : Char} (hblank : isBlank c = false) (hbracket : c ≠ ']') (cs : List Char) :
      ∃ d ds, c :: cs = d :: ds ∧ OpensValue d := ⟨c, cs, rfl, hblank, hbracket⟩
  cases value with
  | null => exact sign (by decide) (by decide) _
  | bool value => cases value <;> exact sign (by decide) (by decide) _
  | int value => exact number (intChars_ne_nil value) (intChars_number value)
  | float value => exact number (floats.text_ne_nil value) (floats.text_chars value)
  | str value => exact sign (by decide) (by decide) _
  | arr items => cases items <;> exact sign (by decide) (by decide) _
  | obj fields => cases fields <;> exact sign (by decide) (by decide) _

theorem parseValue_number {token : List Char} (hne : token ≠ [])
    (htoken : ∀ c ∈ token, isNumberChar c = true) (fuel : Nat) :
    parseValue floats (fuel + 1) (token ++ rest) = readNumber floats (token ++ rest) := by
  obtain ⟨c, cs, rfl⟩ := List.exists_cons_of_ne_nil hne
  have hc := htoken c List.mem_cons_self
  have hsign {d : Char} (hd : isNumberChar d = false) : c ≠ d := by
    rintro rfl
    rw [hc] at hd
    cases hd
  have hword {word : List Char} {d : Char} (hd : isNumberChar d = false) :
      ¬ d :: word <+: c :: (cs ++ rest) := by
    intro hprefix
    exact hsign hd (List.cons_prefix_cons.mp hprefix).1.symm
  rw [List.cons_append, parseValue, skipBlanks_cons (isNumberChar_opens hc).blank]
  simp only [hsign (show isNumberChar '\x7b' = false by decide),
    hsign (show isNumberChar '[' = false by decide),
    hsign (show isNumberChar '"' = false by decide), if_false]
  have htrue : "true".toList = ['t', 'r', 'u', 'e'] := by decide
  have hfalse : "false".toList = ['f', 'a', 'l', 's', 'e'] := by decide
  have hnull : "null".toList = ['n', 'u', 'l', 'l'] := by decide
  unfold readLiteral
  rw [htrue, hfalse, hnull, if_neg (hword (show isNumberChar 't' = false by decide)),
    if_neg (hword (show isNumberChar 'f' = false by decide)),
    if_neg (hword (show isNumberChar 'n' = false by decide))]

def Reads (floats : FloatText) (value : Json) : Prop :=
  ∀ fuel rest, (dumpsChars floats value).length ≤ fuel → Ends rest →
    parseValue floats fuel (dumpsChars floats value ++ rest) = some (value, rest)

theorem parseItems_item {item : Json} (h : Reads floats item) {fuel : Nat}
    (hfuel : (dumpsChars floats item).length ≤ fuel) {c : Char} (hblank : isBlank c = false)
    (hends : isNumberChar c = false) (cs : List Char) :
    parseItems floats (fuel + 1) (dumpsChars floats item ++ c :: cs) =
      if c = ']' then some ([item], cs)
      else if c = ',' then (parseItems floats fuel cs).map fun read => (item :: read.1, read.2)
      else none := by
  rw [parseItems, h fuel (c :: cs) hfuel (ends_cons hends cs)]
  simp only [skipBlanks_cons hblank, bind, Option.bind]
  congr 2
  cases parseItems floats fuel cs <;> rfl

private theorem parseItems_itemsChars {item : Json} {items : List Json}
    (h : ∀ value ∈ item :: items, Reads floats value) (fuel : Nat)
    (hfuel : (dumpsChars floats item ++ itemsChars floats items).length ≤ fuel) :
    parseItems floats fuel (dumpsChars floats item ++ itemsChars floats items ++ rest) =
      some (item :: items, rest) := by
  induction items generalizing item fuel with
  | nil =>
      rw [itemsChars, List.length_append, List.length_singleton] at hfuel
      obtain ⟨fuel, rfl⟩ := Nat.exists_eq_add_of_le' (show 1 ≤ fuel by omega)
      rw [itemsChars, List.append_assoc, List.singleton_append,
        parseItems_item (h item List.mem_cons_self) (by omega) (by decide) (by decide)]
      rfl
  | cons next items ih =>
      rw [itemsChars, List.length_append, List.length_cons] at hfuel
      obtain ⟨fuel, rfl⟩ := Nat.exists_eq_add_of_le' (show 1 ≤ fuel by omega)
      have htail := ih (fun value hvalue => h value (List.mem_cons_of_mem _ hvalue)) fuel
        (by omega)
      rw [itemsChars, List.append_assoc, List.cons_append,
        parseItems_item (h item List.mem_cons_self) (by omega) (by decide) (by decide), htail]
      rfl

theorem stringChars_eq (text : String) : stringChars text = '"' :: (stringChars text).tail := rfl

theorem parseFields_entry (key : String) {value : Json} (h : Reads floats value) {fuel : Nat}
    (hfuel : (dumpsChars floats value).length ≤ fuel) {c : Char} (hblank : isBlank c = false)
    (hends : isNumberChar c = false) (cs : List Char) :
    parseFields floats (fuel + 1) (stringChars key ++ ':' :: (dumpsChars floats value ++ c :: cs)) =
      if c = '\x7d' then some ([(key, value)], cs)
      else if c = ',' then
        (parseFields floats fuel cs).map fun read => ((key, value) :: read.1, read.2)
      else none := by
  have hkey :
      readText ((stringChars key).tail ++ ':' :: (dumpsChars floats value ++ c :: cs)) = _ :=
    readText_stringChars key
  rw [stringChars_eq, List.cons_append, parseFields, skipBlanks_cons (by decide)]
  simp only [if_true, hkey, bind, Option.bind, skipBlanks_cons (show isBlank ':' = false by decide),
    h fuel (c :: cs) hfuel (ends_cons hends cs), skipBlanks_cons hblank]
  congr 2
  cases parseFields floats fuel cs <;> rfl

private theorem parseFields_fieldsChars {key : String} {value : Json}
    {fields : List (String × Json)}
    (h : ∀ entry ∈ (key, value) :: fields, Reads floats entry.2) (fuel : Nat)
    (hfuel : (stringChars key ++ ':' :: (dumpsChars floats value ++
      fieldsChars floats fields)).length ≤ fuel) :
    parseFields floats fuel (stringChars key ++ ':' :: (dumpsChars floats value ++
        fieldsChars floats fields) ++ rest) =
      some ((key, value) :: fields, rest) := by
  induction fields generalizing key value fuel with
  | nil =>
      have hvalue : Reads floats value := h _ List.mem_cons_self
      simp only [fieldsChars, List.length_append, List.length_cons, List.length_nil] at hfuel
      obtain ⟨fuel, rfl⟩ := Nat.exists_eq_add_of_le' (show 1 ≤ fuel by omega)
      rw [fieldsChars, List.append_assoc, List.cons_append, List.append_assoc,
        List.singleton_append,
        parseFields_entry key hvalue (by omega) (by decide) (by decide)]
      rfl
  | cons next fields ih =>
      have hvalue : Reads floats value := h _ List.mem_cons_self
      simp only [fieldsChars, List.length_append, List.length_cons] at hfuel
      obtain ⟨fuel, rfl⟩ := Nat.exists_eq_add_of_le' (show 1 ≤ fuel by omega)
      have htail := ih (fun entry hentry => h entry (List.mem_cons_of_mem _ hentry)) fuel
        (by simp only [List.length_append, List.length_cons]; omega)
      rw [fieldsChars, List.append_assoc, List.cons_append, List.append_assoc, List.cons_append,
        parseFields_entry key hvalue (by omega) (by decide) (by decide), htail]
      rfl

theorem parseValue_literal {word : List Char} {value : Json}
    (hword : ∀ rest, readLiteral floats (word ++ rest) = some (value, rest))
    (hopens : ∃ c cs, word = c :: cs ∧ isBlank c = false ∧ c ≠ '\x7b' ∧ c ≠ '[' ∧ c ≠ '"')
    (fuel : Nat) : parseValue floats (fuel + 1) (word ++ rest) = some (value, rest) := by
  obtain ⟨c, cs, rfl, hblank, hbrace, hbracket, hquote⟩ := hopens
  have hread := hword rest
  rw [List.cons_append] at hread ⊢
  rw [parseValue, skipBlanks_cons hblank]
  simp only [hbrace, hbracket, hquote, if_false, hread]

theorem reads_of_succ {value : Json}
    (h : ∀ fuel rest, (dumpsChars floats value).length ≤ fuel + 1 → Ends rest →
      parseValue floats (fuel + 1) (dumpsChars floats value ++ rest) = some (value, rest)) :
    Reads floats value := by
  intro fuel rest hfuel hends
  obtain ⟨c, cs, heq, -⟩ := dumpsChars_opens floats value
  rw [heq, List.length_cons] at hfuel
  obtain ⟨fuel, rfl⟩ := Nat.exists_eq_add_of_le' (show 1 ≤ fuel by omega)
  exact h fuel rest (by rw [heq, List.length_cons]; exact hfuel) hends

private theorem parseValue_dumps {value : Json} (h : Portable floats value) :
    Reads floats value := by
  induction h with
  | null =>
      have hnull : "null".toList = ['n', 'u', 'l', 'l'] := by decide
      refine reads_of_succ fun fuel rest _ _ => ?_
      rw [dumpsChars, hnull]
      refine parseValue_literal (fun rest => ?_) ⟨_, _, rfl, by decide⟩ fuel
      simp [readLiteral]
  | bool value =>
      have htrue : "true".toList = ['t', 'r', 'u', 'e'] := by decide
      have hfalse : "false".toList = ['f', 'a', 'l', 's', 'e'] := by decide
      refine reads_of_succ fun fuel rest _ _ => ?_
      cases value with
      | true =>
          rw [dumpsChars, htrue]
          refine parseValue_literal (fun rest => ?_) ⟨_, _, rfl, by decide⟩ fuel
          simp [readLiteral]
      | false =>
          rw [dumpsChars, hfalse]
          refine parseValue_literal (fun rest => ?_) ⟨_, _, rfl, by decide⟩ fuel
          simp [readLiteral]
  | int value hvalue =>
      refine reads_of_succ fun fuel rest _ hends => ?_
      rw [dumpsChars, parseValue_number (intChars_ne_nil value) (intChars_number value)]
      exact readNumber_intChars value hvalue hends
  | float value hvalue =>
      refine reads_of_succ fun fuel rest _ hends => ?_
      rw [dumpsChars, parseValue_number (floats.text_ne_nil value) (floats.text_chars value)]
      exact readNumber_float value hvalue hends
  | str value =>
      refine reads_of_succ fun fuel rest _ _ => ?_
      rw [dumpsChars, stringChars_eq, List.cons_append, parseValue, skipBlanks_cons (by decide)]
      simp only [Char.reduceEq, if_false, if_true, readText_stringChars, Option.map_some]
  | arr items hitems ih =>
      refine reads_of_succ fun fuel rest hfuel _ => ?_
      cases items with
      | nil =>
          rw [dumpsChars, List.cons_append, parseValue, skipBlanks_cons (by decide)]
          simp [skipBlanks_cons (show isBlank ']' = false by decide)]
      | cons item items =>
          rw [dumpsChars, List.length_cons] at hfuel
          have hread : parseItems floats fuel (_ ++ rest) = _ :=
            parseItems_itemsChars ih fuel (by omega)
          obtain ⟨c, cs, heq, hopens⟩ := dumpsChars_opens floats item
          rw [dumpsChars, List.cons_append, parseValue, skipBlanks_cons (by decide)]
          rw [heq, List.cons_append, List.cons_append] at hread ⊢
          simp only [Char.reduceEq, if_false, if_true, skipBlanks_cons hopens.blank,
            hopens.bracket, hread, Option.map_some]
  | obj fields hkeys hfields ih =>
      refine reads_of_succ fun fuel rest hfuel _ => ?_
      cases fields with
      | nil =>
          rw [dumpsChars, List.cons_append, parseValue, skipBlanks_cons (by decide)]
          simp [skipBlanks_cons (show isBlank '\x7d' = false by decide)]
      | cons entry fields =>
          rw [dumpsChars, List.length_cons] at hfuel
          have hread : parseFields floats fuel (_ ++ rest) = _ :=
            parseFields_fieldsChars ih fuel (by omega)
          rw [dumpsChars, List.cons_append, parseValue, skipBlanks_cons (by decide)]
          rw [stringChars_eq, List.cons_append, List.cons_append] at hread ⊢
          simp only [if_true, skipBlanks_cons (show isBlank '"' = false by decide),
            Char.reduceEq, if_false, hread, Option.map_some, assemble_nodup hkeys]

theorem jsonDecode_compactDumps {value : Json} (h : Portable floats value) :
    jsonDecode floats (utf16 (compactDumps floats value)) = some value := by
  have hchars : ofCodeUnits (utf16 (compactDumps floats value)) = dumpsChars floats value := by
    rw [utf16, ofCodeUnits_chars, compactDumps, String.toList_ofList]
  have hread := parseValue_dumps h ((dumpsChars floats value).length + 1) [] (Nat.le_succ _)
    (by simp [Ends])
  rw [List.append_nil] at hread
  simp [jsonDecode, hchars, hread, skipBlanks]

end RoundTrip

end Astra.Client
