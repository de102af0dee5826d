import Mathlib.Data.List.DropRight

/-!
# Base64 with the URL-safe alphabet

The encoder pads the last group of four characters with `=`.  The decoder is the loop
of `binascii.a2b_base64`: it skips characters outside the alphabet, takes `+` and `/`
for `-` and `_`, and stops at the padding that completes a group.  A text that lost its
padding decodes again when its length is filled up to a multiple of four.
-/

namespace Astra.Foundation.Base64

def alphabet : List Char :=
  "ABCDEFGHIJKLMNOPQRSTUVWXYZabcdefghijklmnopqrstuvwxyz0123456789-_".toList

def pad : Char := '='

def digit (n : Nat) : Char := alphabet.getD n pad

/-- `table_a2b_base64`, after the URL-safe characters are translated. -/
def value? (c : Char) : Option Nat :=
  let n := c.toNat
  if 65 ≤ n ∧ n ≤ 90 then some (n - 65)
  else if 97 ≤ n ∧ n ≤ 122 then some (n - 97 + 26)
  else if 48 ≤ n ∧ n ≤ 57 then some (n - 48 + 52)
  else if c = '+' ∨ c = '-' then some 62
  else if c = '/' ∨ c = '_' then some 63
  else none

def encodeBody : List UInt8 → List Char
  | [] => []
  | [a] => [digit (a.toNat / 4), digit (a.toNat % 4 * 16)]
  | [a, b] => [digit (a.toNat / 4), digit (a.toNat % 4 * 16 + b.toNat / 16),
      digit (b.toNat % 16 * 4)]
  | a :: b :: c :: rest =>
      digit (a.toNat / 4) :: digit (a.toNat % 4 * 16 + b.toNat / 16) ::
        digit (b.toNat % 16 * 4 + c.toNat / 64) :: digit (c.toNat % 64) :: encodeBody rest

/-- `-n % 4`, the characters that a text of length `n` lacks. -/
def lacking (n : Nat) : Nat := (4 - n % 4) % 4

def fill (cs : List Char) : List Char := cs ++ List.replicate (lacking cs.length) pad

def encode (bytes : List UInt8) : List Char := fill (encodeBody bytes)

/--
The loop of `binascii.a2b_base64`: `quadPos` characters of the group are read,
`leftChar` holds the bits not yet written, and `pads` counts the padding.
-/
def decodeLoop (quadPos leftChar pads : Nat) : List Char → Option (List UInt8)
  | [] => if quadPos = 0 then some [] else none
  | c :: cs =>
      if c = pad then
        if quadPos < 2 then decodeLoop quadPos leftChar pads cs
        else if 4 ≤ quadPos + (pads + 1) then some []
        else decodeLoop quadPos leftChar (pads + 1) cs
      else
        match value? c with
        | none => decodeLoop quadPos leftChar pads cs
        | some v =>
            match quadPos with
            | 0 => decodeLoop 1 v 0 cs
            | 1 => (decodeLoop 2 (v % 16) 0 cs).map (UInt8.ofNat (leftChar * 4 + v / 16) :: ·)
            | 2 => (decodeLoop 3 (v % 4) 0 cs).map (UInt8.ofNat (leftChar * 16 + v / 4) :: ·)
            | _ => (decodeLoop 0 0 0 cs).map (UInt8.ofNat (leftChar * 64 + v) :: ·)

def decode (cs : List Char) : Option (List UInt8) := decodeLoop 0 0 0 cs

def strip (cs : List Char) : List Char := cs.rdropWhile (· == pad)

/-! ## Round trip -/

theorem value?_digit (n : Nat) (hn : n < 64) : value? (digit n) = some n := by
  have hall : ∀ n : Fin 64, value? (digit n) = some n.val := by decide +kernel
  exact hall ⟨n, hn⟩

theorem digit_ne_pad (n : Nat) (hn : n < 64) : digit n ≠ pad := by
  have hall : ∀ n : Fin 64, digit n ≠ pad := by decide +kernel
  exact hall ⟨n, hn⟩

section Loop

variable {left pads v : Nat} {cs : List Char}

theorem decodeLoop_first (hv : v < 64) :
    decodeLoop 0 left pads (digit v :: cs) = decodeLoop 1 v 0 cs := by
  rw [decodeLoop, if_neg (digit_ne_pad v hv), value?_digit v hv]
  rfl

theorem decodeLoop_second (hv : v < 64) :
    decodeLoop 1 left pads (digit v :: cs) =
      (decodeLoop 2 (v % 16) 0 cs).map (UInt8.ofNat (left * 4 + v / 16) :: ·) := by
  rw [decodeLoop, if_neg (digit_ne_pad v hv), value?_digit v hv]
  rfl

theorem decodeLoop_third (hv : v < 64) :
    decodeLoop 2 left pads (digit v :: cs) =
      (decodeLoop 3 (v % 4) 0 cs).map (UInt8.ofNat (left * 16 + v / 4) :: ·) := by
  rw [decodeLoop, if_neg (digit_ne_pad v hv), value?_digit v hv]
  rfl

theorem decodeLoop_fourth (hv : v < 64) :
    decodeLoop 3 left pads (digit v :: cs) =
      (decodeLoop 0 0 0 cs).map (UInt8.ofNat (left * 64 + v) :: ·) := by
  rw [decodeLoop, if_neg (digit_ne_pad v hv), value?_digit v hv]
  rfl

end Loop

theorem byte_eq {a : UInt8} {n : Nat} (h : n = a.toNat) : UInt8.ofNat n = a := by
  rw [h, UInt8.ofNat_toNat]

theorem lacking_add_four (n : Nat) : lacking (n + 4) = lacking n := by
  unfold lacking
  omega

theorem first_byte (a b : UInt8) :
    UInt8.ofNat (a.toNat / 4 * 4 + (a.toNat % 4 * 16 + b.toNat / 16) / 16) = a := by
  have ha := a.toNat_lt
  have hb := b.toNat_lt
  exact byte_eq (by omega)

theorem decodeLoop_fill (bytes : List UInt8) (left pads : Nat) :
    decodeLoop 0 left pads (fill (encodeBody bytes)) = some bytes := by
  induction bytes using encodeBody.induct generalizing left pads with
  | case1 => rfl
  | case2 a =>
      have ha := a.toNat_lt
      have hbyte : UInt8.ofNat (a.toNat / 4 * 4 + a.toNat % 4 * 16 / 16) = a := byte_eq (by omega)
      change decodeLoop 0 left pads [digit _, digit _, pad, pad] = _
      rw [decodeLoop_first (by omega), decodeLoop_second (by omega), hbyte]
      rfl
  | case3 a b =>
      have ha := a.toNat_lt
      have hb := b.toNat_lt
      have hsecond : UInt8.ofNat ((a.toNat % 4 * 16 + b.toNat / 16) % 16 * 16 +
          b.toNat % 16 * 4 / 4) = b := byte_eq (by omega)
      change decodeLoop 0 left pads [digit _, digit _, digit _, pad] = _
      rw [decodeLoop_first (by omega), decodeLoop_second (by omega), decodeLoop_third (by omega),
        first_byte, hsecond]
      rfl
  | case4 a b c rest ih =>
      have ha := a.toNat_lt
      have hb := b.toNat_lt
      have hc := c.toNat_lt
      have hsecond : UInt8.ofNat ((a.toNat % 4 * 16 + b.toNat / 16) % 16 * 16 +
          (b.toNat % 16 * 4 + c.toNat / 64) / 4) = b := byte_eq (by omega)
      have hthird : UInt8.ofNat ((b.toNat % 16 * 4 + c.toNat / 64) % 4 * 64 + c.toNat % 64) = c :=
        byte_eq (by omega)
      have hfill : fill (encodeBody (a :: b :: c :: rest)) =
          digit (a.toNat / 4) :: digit (a.toNat % 4 * 16 + b.toNat / 16) ::
            digit (b.toNat % 16 * 4 + c.toNat / 64) :: digit (c.toNat % 64) ::
              fill (encodeBody rest) := by
        simp only [fill, encodeBody, List.length_cons, lacking_add_four, List.cons_append]
      rw [hfill, decodeLoop_first (by omega), decodeLoop_second (by omega),
        decodeLoop_third (by omega), decodeLoop_fourth (by omega), ih, first_byte, hsecond,
        hthird]
      rfl

theorem decode_encode (bytes : List UInt8) : decode (encode bytes) = some bytes :=
  decodeLoop_fill bytes 0 0

/-! ## Padding -/

theorem encodeBody_digits (bytes : List UInt8) :
    ∀ c ∈ encodeBody bytes, ∃ n, n < 64 ∧ c = digit n := by
  induction bytes using encodeBody.induct with
  | case1 => simp [encodeBody]
  | case2 a =>
      have ha := a.toNat_lt
      simp only [encodeBody, List.forall_mem_cons]
      exact ⟨⟨_, by omega, rfl⟩, ⟨_, by omega, rfl⟩, by simp⟩
  | case3 a b =>
      have ha := a.toNat_lt
      have hb := b.toNat_lt
      simp only [encodeBody, List.forall_mem_cons]
      exact ⟨⟨_, by omega, rfl⟩, ⟨_, by omega, rfl⟩, ⟨_, by omega, rfl⟩, by simp⟩
  | case4 a b c rest ih =>
      have ha := a.toNat_lt
      have hb := b.toNat_lt
      have hc := c.toNat_lt
      simp only [encodeBody, List.forall_mem_cons]
      exact ⟨⟨_, by omega, rfl⟩, ⟨_, by omega, rfl⟩, ⟨_, by omega, rfl⟩, ⟨_, by omega, rfl⟩, ih⟩

theorem pad_not_mem_encodeBody (bytes : List UInt8) : pad ∉ encodeBody bytes := by
  intro hpad
  obtain ⟨n, hn, heq⟩ := encodeBody_digits bytes pad hpad
  exact digit_ne_pad n hn heq.symm

theorem strip_append_pads {cs : List Char} (hcs : pad ∉ cs) (n : Nat) :
    strip (cs ++ List.replicate n pad) = cs := by
  induction n with
  | zero =>
      rw [List.replicate_zero, List.append_nil, strip, List.rdropWhile_eq_self_iff]
      intro hne hlast
      rw [beq_iff_eq] at hlast
      exact hcs (hlast ▸ List.getLast_mem hne)
  | succ n ih =>
      rw [List.replicate_succ', ← List.append_assoc, strip,
        List.rdropWhile_concat_pos _ _ _ (by simp)]
      exact ih

theorem fill_strip_encode (bytes : List UInt8) : fill (strip (encode bytes)) = encode bytes := by
  have hstrip : strip (encode bytes) = encodeBody bytes :=
    strip_append_pads (pad_not_mem_encodeBody bytes) _
  rw [hstrip]
  rfl

theorem encode_isAscii (bytes : List UInt8) : ∀ c ∈ encode bytes, c.toNat < 128 := by
  intro c hc
  rcases List.mem_append.mp hc with hc | hc
  · obtain ⟨n, hn, rfl⟩ := encodeBody_digits bytes c hc
    have hall : ∀ n : Fin 64, (digit n).toNat < 128 := by decide +kernel
    exact hall ⟨n, hn⟩
  · rw [List.eq_of_mem_replicate hc]
    decide

end Astra.Foundation.Base64
