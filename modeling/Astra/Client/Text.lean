import Mathlib.Data.List.Infix

/-!
# Dart strings

A Dart string is a sequence of UTF-16 code units, and its indices count them.
-/

namespace Astra.Client

abbrev DartString := List UInt16

def codeUnits (c : Char) : DartString :=
  if c.toNat < 0x10000 then [c.toNat.toUInt16]
  else
    [(0xd800 + (c.toNat - 0x10000) / 0x400).toUInt16,
      (0xdc00 + (c.toNat - 0x10000) % 0x400).toUInt16]

def utf16 (text : String) : DartString := text.toList.flatMap codeUnits

def lf : UInt16 := 10

def cr : UInt16 := 13

def replaceCrLf : DartString → DartString
  | [] => []
  | [c] => [c]
  | c :: d :: cs =>
      if c = cr ∧ d = lf then lf :: replaceCrLf cs else c :: replaceCrLf (d :: cs)

/-- The loop of `LineSplitter.convert`, with the slice so far and whether a `\r` precedes. -/
def lineLoop : Bool → DartString → DartString → List DartString
  | _, slice, [] => if slice = [] then [] else [slice]
  | afterCr, slice, c :: cs =>
      if c = lf ∧ afterCr = true then lineLoop false [] cs
      else if c = lf ∨ c = cr then slice :: lineLoop (c = cr) [] cs
      else lineLoop false (slice ++ [c]) cs

def splitLines (text : DartString) : List DartString := lineLoop false [] text

/-- The characters that `trim` removes: `White_Space` of Unicode, and the byte order mark. -/
def isWhiteSpace (c : UInt16) : Bool :=
  (9 ≤ c && c ≤ 13) || c == 0x20 || c == 0x85 || c == 0xa0 || c == 0x1680 ||
    (0x2000 ≤ c && c ≤ 0x200a) || c == 0x2028 || c == 0x2029 || c == 0x202f || c == 0x205f ||
    c == 0x3000 || c == 0xfeff

def trimLeft (text : DartString) : DartString := text.dropWhile isWhiteSpace

def trimRight (text : DartString) : DartString := (text.reverse.dropWhile isWhiteSpace).reverse

def trim (text : DartString) : DartString := trimRight (trimLeft text)

/-! ## Line breaks -/

theorem utf16_append (a b : String) : utf16 (a ++ b) = utf16 a ++ utf16 b := by
  simp [utf16]

private theorem mem_codeUnits {n : UInt16} (hn : n < 0xd800) {c : Char} (h : n ∈ codeUnits c) :
    c.toNat = n.toNat := by
  have hunit : ∀ k, k < 0x10000 → n = k.toUInt16 → n.toNat = k := by
    rintro k hk rfl
    exact UInt16.toNat_ofNat_of_lt' hk
  have hn' : n.toNat < 0xd800 := hn
  have hmax : c.toNat < 0x110000 := by
    have hvalid := c.valid
    unfold UInt32.isValidChar Nat.isValidChar at hvalid
    show c.val.toNat < 0x110000
    omega
  unfold codeUnits at h
  split at h
  · rename_i hbasic
    exact (hunit _ hbasic (List.mem_singleton.mp h)).symm
  · simp only [List.mem_cons, List.not_mem_nil, or_false] at h
    rcases h with h | h
    · have := hunit _ (by omega) h
      omega
    · have := hunit _ (by omega) h
      omega

theorem toUInt16_inj {k l : Nat} (hk : k < 0x10000) (hl : l < 0x10000)
    (h : k.toUInt16 = l.toUInt16) : k = l := by
  rw [← UInt16.toNat_ofNat_of_lt' hk, ← UInt16.toNat_ofNat_of_lt' hl]
  exact congrArg UInt16.toNat h

private theorem codeUnits_inj {c d : Char} {rest rest' : DartString}
    (h : codeUnits c ++ rest = codeUnits d ++ rest') : c = d ∧ rest = rest' := by
  have hvalid (c : Char) : c.toNat < 0xd800 ∨ 0xdfff < c.toNat ∧ c.toNat < 0x110000 := c.valid
  have hc := hvalid c
  have hd := hvalid d
  unfold codeUnits at h
  split at h <;> split at h <;>
    simp only [List.cons_append, List.nil_append, List.cons.injEq] at h
  · rename_i hlow hlow'
    exact ⟨Char.toNat_inj.mp (toUInt16_inj hlow hlow' h.1), h.2⟩
  · rename_i hlow _
    have hunit := toUInt16_inj hlow (by omega) h.1
    omega
  · rename_i _ hlow
    have hunit := toUInt16_inj (by omega) hlow h.1
    omega
  · have hhigh := toUInt16_inj (by omega) (by omega) h.1
    have hlow := toUInt16_inj (by omega) (by omega) h.2.1
    exact ⟨Char.toNat_inj.mp (by omega), h.2.2⟩

theorem utf16_injective {a b : String} (h : utf16 a = utf16 b) : a = b := by
  have hne (c : Char) : codeUnits c ≠ [] := by
    unfold codeUnits
    split <;> simp
  have hchars (cs ds : List Char) (h : cs.flatMap codeUnits = ds.flatMap codeUnits) : cs = ds := by
    induction cs generalizing ds with
    | nil =>
        cases ds with
        | nil => rfl
        | cons d ds => simp [hne] at h
    | cons c cs ih =>
        cases ds with
        | nil => simp [hne] at h
        | cons d ds =>
            obtain ⟨rfl, hrest⟩ := codeUnits_inj h
            rw [ih ds hrest]
  exact String.toList_inj.mp (hchars _ _ h)

theorem not_mem_utf16 {n : UInt16} (hn : n < 0xd800) {text : String}
    (h : ∀ c ∈ text.toList, c.toNat ≠ n.toNat) : n ∉ utf16 text := by
  intro hmem
  obtain ⟨c, hc, hunit⟩ := List.mem_flatMap.mp hmem
  exact h c hc (mem_codeUnits hn hunit)

theorem replaceCrLf_eq {text : DartString} (h : cr ∉ text) : replaceCrLf text = text := by
  induction text using replaceCrLf.induct with
  | case1 => rfl
  | case2 c => rfl
  | case3 c d cs hbreak ih => exact absurd (by simp [hbreak.1]) h
  | case4 c d cs hbreak ih =>
      rw [replaceCrLf, if_neg hbreak, ih (List.not_mem_of_not_mem_cons h)]

theorem lineLoop_append {line : DartString} (hlf : lf ∉ line) (hcr : cr ∉ line)
    (slice rest : DartString) :
    lineLoop false slice (line ++ rest) = lineLoop false (slice ++ line) rest := by
  induction line generalizing slice with
  | nil => simp
  | cons c line ih =>
      have hc : c ≠ lf := fun h => hlf (by simp [h])
      have hc' : c ≠ cr := fun h => hcr (by simp [h])
      rw [List.cons_append, lineLoop, if_neg (by simp [hc]), if_neg (by simp [hc, hc']),
        ih (List.not_mem_of_not_mem_cons hlf) (List.not_mem_of_not_mem_cons hcr)]
      simp

private theorem splitLines_single {line : DartString} (hlf : lf ∉ line) (hcr : cr ∉ line)
    (hne : line ≠ []) : splitLines line = [line] := by
  have h := lineLoop_append hlf hcr [] []
  rw [List.append_nil, List.nil_append] at h
  rw [splitLines, h, lineLoop, if_neg hne]

theorem splitLines_pair {first second : DartString} (hlf : lf ∉ first) (hcr : cr ∉ first)
    (hlf' : lf ∉ second) (hcr' : cr ∉ second) (hne : second ≠ []) :
    splitLines (first ++ lf :: second) = [first, second] := by
  have hsecond : lineLoop false [] second = [second] := splitLines_single hlf' hcr' hne
  rw [splitLines, lineLoop_append hlf hcr, List.nil_append, lineLoop, if_neg (by simp),
    if_pos (Or.inl rfl)]
  have hbreak : (decide (lf = cr)) = false := by decide
  rw [hbreak, hsecond]

end Astra.Client
