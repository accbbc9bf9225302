import BoundSql.Proofs.NameTokens
import BoundSql.Value.Display
import Mathlib.Algebra.GroupWithZero.Nat

/-!
# Reading literals back

The display form of NULL, of a truth value, a whole number, a text or a run of bytes is a literal,
and the literal can be read back from it (`Literal.read_write`).  Its first character tells which
kind it is; texts are read by the reader of quoted names, with an apostrophe for the mark.

So the display forms of two such values are equal only if their literals are.  The three widths
of whole numbers share their literals and nothing else does (`Value.display_eq_display`).
-/

namespace BoundSql

/-! ## Hexadecimal digits -/

namespace Text

/-- A digit to base sixteen is read as what it stands for. -/
theorem hexValue?_digitChar {n : Nat} (h : n < 16) : hexValue? (Nat.digitChar n) = some n := by
  have hall : ∀ k : Fin 16, hexValue? (Nat.digitChar k) = some k.val := by decide
  exact hall ⟨n, h⟩

/-- The digits are read as the number, without the high digits that were dropped. -/
theorem hexNumber?_hexDigits (width n : Nat) :
    hexNumber? (hexDigits width n) = some (n % 16 ^ width) := by
  unfold hexNumber?
  induction width generalizing n with
  | zero =>
    rw [Nat.pow_zero, Nat.mod_one]
    rfl
  | succ width ih =>
    have hlast := hexValue?_digitChar (Nat.mod_lt n (by decide : 0 < 16))
    have hsum : 16 * (n / 16 % 16 ^ width) + n % 16 = n % 16 ^ (width + 1) := by
      rw [Nat.pow_succ, Nat.mul_comm (16 ^ width), Nat.mod_mul, Nat.add_comm]
    rw [hexDigits, List.foldlM_append, ih, ← hsum]
    simp [hlast]

/-- Bytes to base sixteen are read back. -/
theorem bytesOfHex?_hexOfBytes (bytes : List UInt8) :
    bytesOfHex? (hexOfBytes bytes).toList = some bytes := by
  rw [hexOfBytes, String.toList_ofList]
  induction bytes with
  | nil => rfl
  | cons b bytes ih =>
    have hpair : hexDigits 2 b.toNat =
        [Nat.digitChar (b.toNat / 16 % 16), Nat.digitChar (b.toNat % 16)] := rfl
    have hlt : b.toNat < 16 ^ 2 := b.toNat_lt
    have hread := hexNumber?_hexDigits 2 b.toNat
    rw [Nat.mod_eq_of_lt hlt, hpair] at hread
    rw [List.flatMap_cons, hpair, List.cons_append, List.singleton_append, bytesOfHex?, hread, ih]
    simp

end Text

/-! ## Literals -/

/-- What a display form may say. -/
inductive Literal where
  | null
  | bool (b : Bool)
  | integer (n : Int)
  | text (s : String)
  | bytes (bs : List UInt8)
  deriving DecidableEq

namespace Literal

/-- The text of a literal. -/
def write : Literal → String
  | null => "NULL"
  | bool b => if b then "true" else "false"
  | integer n => toString n
  | text s => Quoting.apostrophes s
  | bytes bs => "X'" ++ Text.hexOfBytes bs ++ "'"

/-- The number that decimal digits stand for, with a minus sign or without. -/
def integerOf : List Char → Int
  | '-' :: digits => -Nat.ofDigitChars 10 digits 0
  | digits => Nat.ofDigitChars 10 digits 0

/-- Read a literal, whose first character tells which kind it is. -/
def read : List Char → Option Literal
  | 'N' :: _ => some null
  | 't' :: _ => some (bool true)
  | 'f' :: _ => some (bool false)
  | '\x27' :: cs =>
    match Quoting.tokensFrom '\x27' (.inside []) cs with
    | [.name s] => some (text s)
    | _ => none
  | 'X' :: cs => (Text.bytesOfHex? cs.tail.dropLast).map bytes
  | cs => some (integer (integerOf cs))

/-- What a number is written with. -/
theorem isDigit_of_mem_toString {n : Int} {c : Char} (h : c ∈ (toString n).toList) :
    c = '-' ∨ c.isDigit := by
  have hdigits (m : Nat) := List.all_eq_true.mp (Prepared.all_isDigit_toString m)
  rcases n with m | m
  · exact .inr (hdigits m c h)
  · rw [Prepared.toList_toString_negSucc, List.mem_cons] at h
    exact h.imp_right (hdigits (m + 1) c)

/-- The digits of a whole number, with its sign, stand for the number. -/
theorem integerOf_toString (n : Int) : integerOf (toString n).toList = n := by
  rcases n with m | m
  · show integerOf (toString m).toList = m
    unfold integerOf
    split
    · next digits heq =>
      have hminus := List.all_eq_true.mp (Prepared.all_isDigit_toString m) '-'
        (heq ▸ List.mem_cons_self)
      cases hminus
    · rw [Prepared.ofDigitChars_toString]
  · rw [Prepared.toList_toString_negSucc, integerOf, Prepared.ofDigitChars_toString]
    rfl

/-- A whole number is read as one: no letter and no apostrophe comes first. -/
theorem read_integer (n : Int) : read (toString n).toList = some (integer n) := by
  have hchars {c : Char} {cs : List Char} (h : (toString n).toList = c :: cs) :
      c = '-' ∨ c.isDigit := isDigit_of_mem_toString (h ▸ List.mem_cons_self)
  unfold read
  split
  · next heq => cases (hchars heq).resolve_left (by decide)
  · next heq => cases (hchars heq).resolve_left (by decide)
  · next heq => cases (hchars heq).resolve_left (by decide)
  · next heq => cases (hchars heq).resolve_left (by decide)
  · next heq => cases (hchars heq).resolve_left (by decide)
  · rw [integerOf_toString]

/-- A text between apostrophes is read back, whatever is in it. -/
theorem read_text (s : String) : read (Quoting.apostrophes s).toList = some (text s) := by
  rw [Quoting.apostrophes, Quoting.enclose, String.toList_ofList]
  have hread := @Quoting.tokensFrom_double '\x27' [] s.toList []
  rw [List.nil_append, Quoting.tokensFrom, String.ofList_toList] at hread
  rw [read, hread]

/-- A run of bytes is read back. -/
theorem read_bytes (bs : List UInt8) :
    read ("X'" ++ Text.hexOfBytes bs ++ "'").toList = some (bytes bs) := by
  have hlist : ("X'" ++ Text.hexOfBytes bs ++ "'").toList =
      'X' :: '\x27' :: ((Text.hexOfBytes bs).toList ++ ['\x27']) := by
    rw [String.toList_append, String.toList_append]
    rfl
  rw [hlist, read, List.tail_cons, List.dropLast_concat, Text.bytesOfHex?_hexOfBytes,
    Option.map_some]

/-- **Literals are read back.** -/
theorem read_write (l : Literal) : read l.write.toList = some l := by
  rcases l with _ | b | n | s | bs
  · rfl
  · rcases b with _ | _
    · rfl
    · rfl
  · exact read_integer n
  · exact read_text s
  · exact read_bytes bs

/-- Different literals are written differently. -/
theorem write_inj {l k : Literal} (h : l.write = k.write) : l = k := by
  have hread := read_write l
  rw [h, read_write k] at hread
  exact (Option.some.inj hread).symm

end Literal

/-! ## Values -/

namespace Value

/-- The value is NULL, a truth value, a whole number, a text or a run of bytes. -/
def isBasic : Value → Bool
  | null | bool _ | smallInt _ | int _ | bigInt _ | text _ | bytes _ => true
  | _ => false

/-- The number that a whole number of any width stands for. -/
def integer? : Value → Option Int
  | smallInt n => some n.toInt
  | int n => some n.toInt
  | bigInt n => some n.toInt
  | _ => none

/-- The literal of a value, if its display form is one. -/
def literal? : Value → Option Literal
  | null => some .null
  | bool b => some (.bool b)
  | smallInt n => some (.integer n.toInt)
  | int n => some (.integer n.toInt)
  | bigInt n => some (.integer n.toInt)
  | text s => some (.text s)
  | bytes bs => some (.bytes bs)
  | _ => none

/-- The value with this literal, unless it is a number. -/
def ofLiteral? : Literal → Option Value
  | .null => some null
  | .bool b => some (bool b)
  | .integer _ => none
  | .text s => some (text s)
  | .bytes bs => some (bytes bs)

variable {v w : Value} {l : Literal}

/-- A basic value is shown as its literal. -/
theorem exists_literal (h : v.isBasic) : ∃ l, v.literal? = some l ∧ v.display = l.write := by
  rcases v with _ | b | n | n | n | x | x | s | bs | d | t | t | u | document <;>
    first
    | exact ⟨_, rfl, rfl⟩
    | exact absurd h Bool.false_ne_true

/-- A literal that is not a number determines the value. -/
theorem of_literal? (h : v.literal? = some l) :
    ofLiteral? l = some v ∨ ∃ n, l = .integer n ∧ v.integer? = some n := by
  rcases v with _ | b | n | n | n | x | x | s | bs | d | t | t | u | document <;> cases h <;>
    first
    | exact .inl rfl
    | exact .inr ⟨_, rfl, rfl⟩

/-- A whole number is shown by its digits, whatever its width. -/
theorem display_of_integer? {n : Int} (h : v.integer? = some n) : v.display = toString n := by
  rcases v with _ | b | n | n | n | x | x | s | bs | d | t | t | u | document <;> cases h <;> rfl

/-- **Equal display forms.**  Two basic values are shown alike only if they are equal, or are whole
numbers of any widths and stand for the same number. -/
theorem display_eq_display (hv : v.isBasic) (hw : w.isBasic) :
    v.display = w.display ↔ v = w ∨ ∃ n, v.integer? = some n ∧ w.integer? = some n := by
  constructor
  · intro h
    obtain ⟨l, hl, hshown⟩ := exists_literal hv
    obtain ⟨k, hk, hshown'⟩ := exists_literal hw
    rw [hshown, hshown'] at h
    obtain rfl := Literal.write_inj h
    rcases of_literal? hl with hof | ⟨n, rfl, hn⟩
    · rcases of_literal? hk with hof' | ⟨n, rfl, -⟩
      · rw [hof] at hof'
        exact .inl (Option.some.inj hof')
      · cases hof
    · rcases of_literal? hk with hof' | ⟨m, hm, hn'⟩
      · cases hof'
      · cases hm
        exact .inr ⟨n, hn, hn'⟩
  · rintro (rfl | ⟨n, hn, hn'⟩)
    · rfl
    · rw [display_of_integer? hn, display_of_integer? hn']

end Value

end BoundSql
