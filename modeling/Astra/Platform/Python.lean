/-!
# Python values and text operations

The values of `dict[str, Any]` columns and arguments, dictionaries in insertion
order, and the string operations that the services use.  The functions of the
Python runtime that the services only call, such as case folding and the textual
form of a UUID, are the fields of `PyRuntime`.
-/

namespace Astra.Platform

/-- Database identifiers and clock readings, in microseconds. -/
abbrev UUID := Nat

abbrev Timestamp := Int

inductive Json where
  | null
  | bool (value : Bool)
  | int (value : Int)
  | float (value : Rat)
  | str (value : String)
  | arr (items : List Json)
  | obj (fields : List (String × Json))
  deriving Inhabited, Repr

namespace Json

def truthy : Json → Bool
  | null => false
  | bool value => value
  | int value => value ≠ 0
  | float value => value ≠ 0
  | str value => value ≠ ""
  | arr items => !items.isEmpty
  | obj fields => !fields.isEmpty

def isNull : Json → Bool
  | null => true
  | _ => false

end Json

/-! ## Dictionaries -/

abbrev Dict := List (String × Json)

namespace Dict

def get? (d : Dict) (key : String) : Option Json :=
  (d.find? fun entry => entry.1 == key).map Prod.snd

def set (d : Dict) (key : String) (value : Json) : Dict :=
  if d.any fun entry => entry.1 == key then
    d.map fun entry => if entry.1 == key then (key, value) else entry
  else d ++ [(key, value)]

def merge (d e : Dict) : Dict := e.foldl (fun acc entry => set acc entry.1 entry.2) d

def dropNone (d : Dict) : Dict := d.filter fun entry => !entry.2.isNull

theorem get?_set_self (d : Dict) (key : String) (value : Json) :
    (d.set key value).get? key = some value := by
  induction d with
  | nil => simp [set, get?]
  | cons entry d ih =>
      unfold set get? at ih ⊢
      by_cases hentry : entry.1 = key
      · simp [hentry]
      · by_cases hd : d.any (fun entry => entry.1 == key) = true
        · simp only [hd, if_true] at ih
          simpa [hd, hentry] using ih
        · simp only [hd] at ih
          simpa [hd, hentry] using ih

theorem get?_set_ne (d : Dict) {key key' : String} (value : Json) (hne : key ≠ key') :
    (d.set key value).get? key' = d.get? key' := by
  have hmap : ∀ d : Dict, (d.map fun entry => if entry.1 == key then (key, value) else entry).find?
      (fun entry => entry.1 == key') = d.find? fun entry => entry.1 == key' := by
    intro d
    induction d with
    | nil => rfl
    | cons entry d ih =>
        rw [List.map_cons, List.find?_cons, List.find?_cons, ih]
        by_cases hentry : entry.1 = key
        · have hkeys : (key == key') = false := by simpa using hne
          simp [hentry, hkeys]
        · simp [hentry]
  unfold set get?
  split
  · rw [hmap]
  · simp [List.find?_append, hne]

end Dict

def optStr : Option String → Json
  | none => .null
  | some text => .str text

/-! ## Text -/

def isSpace (c : Char) : Bool :=
  let n := c.toNat
  (9 ≤ n && n ≤ 13) || (28 ≤ n && n ≤ 32) || n == 0x85 || n == 0xa0 || n == 0x1680 ||
    (0x2000 ≤ n && n ≤ 0x200a) || n == 0x2028 || n == 0x2029 || n == 0x202f ||
    n == 0x205f || n == 0x3000

def rstripChars (cs : List Char) : List Char := (cs.reverse.dropWhile isSpace).reverse

def stripChars (cs : List Char) : List Char := rstripChars (cs.dropWhile isSpace)

def slice (text : List Char) (start stop : Nat) : List Char := (text.drop start).take (stop - start)

def rstrip (text : String) : String := String.ofList (rstripChars text.toList)

def strip (text : String) : String := String.ofList (stripChars text.toList)

def splitLoop : List Char → List Char → List (List Char)
  | [], [] => []
  | [], word => [word.reverse]
  | c :: cs, word =>
      if isSpace c then
        match word with
        | [] => splitLoop cs []
        | _ => word.reverse :: splitLoop cs []
      else splitLoop cs (c :: word)

def splitWords (text : String) : List String := (splitLoop text.toList []).map String.ofList

def containsChars (sub : List Char) : List Char → Bool
  | [] => sub.isEmpty
  | c :: cs => sub.isPrefixOf (c :: cs) || containsChars sub cs

def containsText (sub text : String) : Bool := containsChars sub.toList text.toList

/-- Functions of the Python runtime that the services call and the model does not open. -/
structure PyRuntime where
  casefold : String → String
  str : Json → String
  int? : Json → Option Int
  uuidText : UUID → String
  uuidParse : String → Option UUID
  fixed2 : Rat → String
  str_str : ∀ text, str (.str text) = text
  uuidParse_text : ∀ id, uuidParse (uuidText id) = some id

/-! ## A runtime for evaluation -/

def decimalParse (text : String) : Option UUID :=
  if text ≠ "" ∧ text.toList.all Char.isDigit then some (Nat.ofDigitChars 10 text.toList 0)
  else none

theorem decimalParse_repr (id : UUID) : decimalParse (Nat.repr id) = some id := by
  unfold decimalParse
  rw [if_pos]
  · simp
  · refine ⟨by simp [← String.toList_inj, Nat.toDigits_ne_nil], ?_⟩
    rw [List.all_eq_true]
    intro c hc
    rw [Nat.toList_repr] at hc
    exact Nat.isDigit_of_mem_toDigits (by decide) (by decide) hc

def fixed2Decimal (value : Rat) : String :=
  let hundredths := (value * 100 + 1 / 2).floor
  toString (hundredths / 100) ++ "." ++ (if hundredths % 100 < 10 then "0" else "") ++
    toString (hundredths % 100)

def PyRuntime.ascii : PyRuntime where
  casefold text := String.ofList (text.toList.map Char.toLower)
  str
    | .str text => text
    | .int value => toString value
    | .bool value => if value then "True" else "False"
    | .null => "None"
    | _ => ""
  int?
    | .int value => some value
    | .bool value => some (if value then 1 else 0)
    | .str text => (decimalParse text).map Int.ofNat
    | _ => none
  uuidText := Nat.repr
  uuidParse := decimalParse
  fixed2 := fixed2Decimal
  str_str _ := rfl
  uuidParse_text := decimalParse_repr

end Astra.Platform
