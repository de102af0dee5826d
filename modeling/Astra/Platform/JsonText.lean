import Astra.Platform.Python
import Mathlib.Data.List.Basic

/-!
# JSON texts

`json.dumps(value, ensure_ascii=False, separators=(",", ":"))`, as the event stream and
`JSONResponse` use it.  The shortest text of a float belongs to the Python library.
-/

namespace Astra.Platform

/-! ## Values -/

theorem Json.inductionOn {motive : Json → Prop} (hnull : motive .null)
    (hbool : ∀ value, motive (.bool value)) (hint : ∀ value, motive (.int value))
    (hfloat : ∀ value, motive (.float value)) (hstr : ∀ value, motive (.str value))
    (harr : ∀ items, (∀ item ∈ items, motive item) → motive (.arr items))
    (hobj : ∀ fields, (∀ entry ∈ fields, motive entry.2) → motive (.obj fields)) :
    ∀ value, motive value
  | .null => hnull
  | .bool value => hbool value
  | .int value => hint value
  | .float value => hfloat value
  | .str value => hstr value
  | .arr items =>
      harr items fun item _ => Json.inductionOn hnull hbool hint hfloat hstr harr hobj item
  | .obj fields =>
      hobj fields fun entry hentry =>
        have : sizeOf entry.2 < 1 + sizeOf fields := by
          have hlt := List.sizeOf_lt_of_mem hentry
          have hsnd : sizeOf entry = 1 + sizeOf entry.1 + sizeOf entry.2 := by
            cases entry
            rfl
          omega
        Json.inductionOn hnull hbool hint hfloat hstr harr hobj entry.2
termination_by value => sizeOf value
decreasing_by
  · rename_i hmem
    have hlt := List.sizeOf_lt_of_mem hmem
    simp only [Json.arr.sizeOf_spec]
    omega
  · simp only [Json.obj.sizeOf_spec]
    omega

def isNumberChar (c : Char) : Bool :=
  c.isDigit || c == '-' || c == '+' || c == '.' || c == 'e' || c == 'E'

/--
`float.__repr__`, and how a text with a fraction or an exponent is read back; `double`
are the values that a float can have.
-/
structure FloatText where
  text : Rat → List Char
  read : List Char → Option Rat
  double : Rat → Prop
  text_ne_nil : ∀ value, text value ≠ []
  text_chars : ∀ value, ∀ c ∈ text value, isNumberChar c = true
  text_point : ∀ value, ∃ c ∈ text value, c = '.' ∨ c = 'e'
  read_text : ∀ value, double value → read (text value) = some value

/-! ## The printer -/

def hexDigit (n : Nat) : Char := Char.ofNat (if n < 10 then 48 + n else 87 + n)

/-- `ESCAPE_DCT`, and `\u` for the other control characters. -/
def escapeChar (c : Char) : List Char :=
  if c = '"' then ['\\', '"']
  else if c = '\\' then ['\\', '\\']
  else if c.toNat = 8 then ['\\', 'b']
  else if c.toNat = 9 then ['\\', 't']
  else if c.toNat = 10 then ['\\', 'n']
  else if c.toNat = 12 then ['\\', 'f']
  else if c.toNat = 13 then ['\\', 'r']
  else if c.toNat < 32 then ['\\', 'u', '0', '0', hexDigit (c.toNat / 16), hexDigit (c.toNat % 16)]
  else [c]

def stringChars (text : String) : List Char := '"' :: (text.toList.flatMap escapeChar ++ ['"'])

def intChars (value : Int) : List Char :=
  if value < 0 then '-' :: Nat.toDigits 10 value.natAbs else Nat.toDigits 10 value.natAbs

variable (floats : FloatText)

mutual

def dumpsChars : Json → List Char
  | .null => "null".toList
  | .bool true => "true".toList
  | .bool false => "false".toList
  | .int value => intChars value
  | .float value => floats.text value
  | .str value => stringChars value
  | .arr [] => ['[', ']']
  | .arr (item :: items) => '[' :: (dumpsChars item ++ itemsChars items)
  | .obj [] => ['\x7b', '\x7d']
  | .obj ((key, value) :: fields) =>
      '\x7b' :: (stringChars key ++ ':' :: (dumpsChars value ++ fieldsChars fields))

def itemsChars : List Json → List Char
  | [] => [']']
  | item :: items => ',' :: (dumpsChars item ++ itemsChars items)

def fieldsChars : List (String × Json) → List Char
  | [] => ['\x7d']
  | (key, value) :: fields =>
      ',' :: (stringChars key ++ ':' :: (dumpsChars value ++ fieldsChars fields))

end

def compactDumps (value : Json) : String := String.ofList (dumpsChars floats value)

/-! ## One line of text -/

section Plain

variable {floats : FloatText}

def Plain (cs : List Char) : Prop := ∀ c ∈ cs, 32 ≤ c.toNat

theorem plain_append {a b : List Char} : Plain (a ++ b) ↔ Plain a ∧ Plain b := by
  simp only [Plain, List.mem_append, or_imp, forall_and]

theorem plain_cons {c : Char} {cs : List Char} : Plain (c :: cs) ↔ 32 ≤ c.toNat ∧ Plain cs := by
  simp [Plain]

theorem plain_of_all {cs : List Char} (h : (cs.all fun c => decide (32 ≤ c.toNat)) = true) :
    Plain cs := by
  intro c hc
  exact of_decide_eq_true (List.all_eq_true.mp h c hc)

theorem plain_hexDigit : ∀ n < 16, 32 ≤ (hexDigit n).toNat := by decide

private theorem plain_escapeChar (c : Char) : Plain (escapeChar c) := by
  unfold escapeChar
  split_ifs with hquote hslash hb ht hn hf hr hcontrol
  all_goals try exact plain_of_all (by decide)
  · have hlow := plain_hexDigit (c.toNat / 16) (by omega)
    have hhigh := plain_hexDigit (c.toNat % 16) (by omega)
    simp only [plain_cons, hlow, hhigh, true_and]
    exact ⟨by decide, by decide, by decide, by decide, by simp [Plain]⟩
  · simpa [Plain] using hcontrol

theorem plain_stringChars (text : String) : Plain (stringChars text) := by
  have hbody : Plain (text.toList.flatMap escapeChar) := by
    intro c hc
    obtain ⟨d, -, hd⟩ := List.mem_flatMap.mp hc
    exact plain_escapeChar d c hd
  unfold stringChars
  rw [plain_cons, plain_append]
  exact ⟨by decide, hbody, by simp [Plain]⟩

theorem isNumberChar_code {c : Char} (h : isNumberChar c = true) : 43 ≤ c.toNat := by
  simp only [isNumberChar, Char.isDigit, Bool.or_eq_true, Bool.and_eq_true, decide_eq_true_eq,
    beq_iff_eq] at h
  rcases h with ((((h | rfl) | rfl) | rfl) | rfl) | rfl
  · have hlow : (48 : UInt32).toNat ≤ c.val.toNat := h.1
    exact Nat.le_trans (by decide) hlow
  all_goals decide

theorem intChars_number (value : Int) : ∀ c ∈ intChars value, isNumberChar c = true := by
  have hdigits : ∀ c ∈ Nat.toDigits 10 value.natAbs, isNumberChar c = true := by
    intro c hc
    simp [isNumberChar, Nat.isDigit_of_mem_toDigits (by decide) (by decide) hc]
  unfold intChars
  split
  · exact List.forall_mem_cons.mpr ⟨by decide, hdigits⟩
  · exact hdigits

theorem intChars_ne_nil (value : Int) : intChars value ≠ [] := by
  unfold intChars
  split
  · exact List.cons_ne_nil _ _
  · exact Nat.toDigits_ne_nil

private theorem plain_itemsChars {items : List Json}
    (h : ∀ item ∈ items, Plain (dumpsChars floats item)) : Plain (itemsChars floats items) := by
  induction items with
  | nil => simp [itemsChars, Plain]
  | cons item items ih =>
      obtain ⟨hitem, hitems⟩ := List.forall_mem_cons.mp h
      rw [itemsChars, plain_cons, plain_append]
      exact ⟨by decide, hitem, ih hitems⟩

private theorem plain_fieldsChars {fields : List (String × Json)}
    (h : ∀ entry ∈ fields, Plain (dumpsChars floats entry.2)) :
    Plain (fieldsChars floats fields) := by
  induction fields with
  | nil => simp [fieldsChars, Plain]
  | cons entry fields ih =>
      obtain ⟨hvalue, hfields⟩ := List.forall_mem_cons.mp h
      rw [fieldsChars, plain_cons, plain_append, plain_cons, plain_append]
      exact ⟨by decide, plain_stringChars entry.1, by decide, hvalue, ih hfields⟩

theorem plain_dumpsChars (value : Json) : Plain (dumpsChars floats value) := by
  induction value using Json.inductionOn with
  | hnull =>
      rw [dumpsChars]
      exact plain_of_all (by decide)
  | hbool value =>
      cases value <;> rw [dumpsChars] <;> exact plain_of_all (by decide)
  | hint value =>
      exact fun c hc => Nat.le_trans (by decide) (isNumberChar_code (intChars_number value c hc))
  | hfloat value =>
      exact fun c hc => Nat.le_trans (by decide) (isNumberChar_code (floats.text_chars value c hc))
  | hstr value => exact plain_stringChars value
  | harr items ih =>
      cases items with
      | nil =>
          rw [dumpsChars]
          exact plain_of_all (by decide)
      | cons item items =>
          obtain ⟨hitem, hitems⟩ := List.forall_mem_cons.mp ih
          rw [dumpsChars, plain_cons, plain_append]
          exact ⟨by decide, hitem, plain_itemsChars hitems⟩
  | hobj fields ih =>
      cases fields with
      | nil =>
          rw [dumpsChars]
          exact plain_of_all (by decide)
      | cons entry fields =>
          obtain ⟨hvalue, hfields⟩ := List.forall_mem_cons.mp ih
          rw [dumpsChars, plain_cons, plain_append, plain_cons, plain_append]
          exact ⟨by decide, plain_stringChars entry.1, by decide, hvalue,
            plain_fieldsChars hfields⟩

end Plain

/-! ## Whole numbers -/

def intParse : List Char → Int
  | '-' :: digits => -(Nat.ofDigitChars 10 digits 0 : Nat)
  | digits => (Nat.ofDigitChars 10 digits 0 : Nat)

private theorem intParse_intChars (value : Int) : intParse (intChars value) = value := by
  have hdigits (n : Nat) : Nat.ofDigitChars 10 (Nat.toDigits 10 n) 0 = n :=
    Nat.ofDigitChars_toDigits (by decide) (by decide)
  unfold intChars
  split
  · rw [intParse, hdigits]
    omega
  · have hdash : ∀ digits, Nat.toDigits 10 value.natAbs ≠ '-' :: digits := by
      intro digits heq
      have hdigit : '-'.isDigit = true :=
        Nat.isDigit_of_mem_toDigits (b := 10) (n := value.natAbs) (by decide) (by decide)
          (heq ▸ List.mem_cons_self)
      exact absurd hdigit (by decide)
    rw [intParse.eq_2 _ hdash, hdigits]
    omega

def FloatText.whole : FloatText where
  text value := intChars value.num ++ ['.', '0']
  read text := if ['.', '0'] <:+ text then some (intParse text.dropLast.dropLast) else none
  double value := value.den = 1
  text_ne_nil _ := by simp
  text_chars value c hc := by
    rcases List.mem_append.mp hc with hc | hc
    · exact intChars_number value.num c hc
    · have hpoint : (['.', '0'].all isNumberChar) = true := by decide
      exact List.all_eq_true.mp hpoint c hc
  text_point _ := ⟨'.', by simp⟩
  read_text value hvalue := by
    have hdrop : (intChars value.num ++ ['.', '0']).dropLast.dropLast = intChars value.num := by
      rw [List.dropLast_append_of_ne_nil (by simp), List.dropLast_append_of_ne_nil (by simp)]
      simp
    rw [if_pos (List.suffix_append _ _), hdrop, intParse_intChars]
    have hint : (value.num : Rat) = value := Rat.ext rfl hvalue.symm
    exact congrArg some hint

end Astra.Platform
