import BoundSql.Proofs.Markers
import BoundSql.Proofs.Template
import BoundSql.Value.Display

/-!
# Display forms are settled

A text is *settled* (`Quoting.Settled`) if a reader who comes to it from outside quoted runs is
outside them again behind it, and meets no NUL outside them.  So a NUL outside quoted runs can be
put between settled texts and be told from whatever is in them.

Main statement: `Value.settled_display`.  The display form of every value is settled.  What may hold
anything, NULs and apostrophes included, is the text of a caller and of a document; these stand
between apostrophes, and every apostrophe in them is written twice.  All else that is written
comes from printers of numbers, dates, times and bytes, and their texts are bare
(`Quoting.isBare`): no mark and no NUL is in them.
-/

namespace BoundSql

namespace Quoting

/-! ## Bare texts -/

/-- Neither a quotation mark nor NUL. -/
def isBareChar (c : Char) : Bool := !isMark c && c != '\x00'

/-- Neither a quotation mark nor NUL is in the text. -/
def isBare (s : String) : Bool := s.toList.all isBareChar

/-- Two bare texts make a bare one. -/
theorem isBare_append {s t : String} (hs : isBare s) (ht : isBare t) : isBare (s ++ t) := by
  rw [isBare, String.toList_append, List.all_append, Bool.and_eq_true]
  exact ⟨hs, ht⟩

/-- A text of bare characters is bare. -/
theorem isBare_ofList {cs : List Char} (h : ∀ c ∈ cs, isBareChar c) :
    isBare (String.ofList cs) := by
  rw [isBare, String.toList_ofList, List.all_eq_true]
  exact h

/-- Each character of a bare text is bare. -/
theorem isBareChar_of_mem {s : String} (h : isBare s) {c : Char} (hc : c ∈ s.toList) :
    isBareChar c := List.all_eq_true.mp h c hc

/-- A digit is neither a mark nor NUL. -/
theorem isBareChar_of_isDigit {c : Char} (h : c.isDigit) : isBareChar c := by
  have hcalm := Prepared.isCalm_of_isDigit h
  rw [Prepared.isCalm, Bool.and_eq_true, Bool.and_eq_true] at hcalm
  rw [isBareChar, Bool.and_eq_true]
  refine ⟨hcalm.1.1, ?_⟩
  rw [bne_iff_ne]
  rintro rfl
  cases h

/-- A number is bare. -/
theorem isBare_toString (n : Nat) : isBare (toString n) := by
  have hdigits := Prepared.all_isDigit_toString n
  rw [List.all_eq_true] at hdigits
  exact List.all_eq_true.mpr fun c hc => isBareChar_of_isDigit (hdigits c hc)

/-- Zeros are bare. -/
theorem isBare_zeros (n : Nat) : isBare (String.ofList (List.replicate n '0')) := by
  refine isBare_ofList fun c hc => ?_
  rw [List.eq_of_mem_replicate hc]
  rfl

/-- Bare texts with a bare separator between them make a bare text. -/
theorem isBare_intercalate {separator : String} (hseparator : isBare separator)
    {texts : List String} (h : ∀ s ∈ texts, isBare s) : isBare (separator.intercalate texts) := by
  induction texts with
  | nil => rfl
  | cons s texts ih =>
    rw [List.forall_mem_cons] at h
    rcases texts with _ | ⟨t, texts⟩
    · rw [String.intercalate_singleton]
      exact h.1
    · rw [String.intercalate_cons_cons]
      exact isBare_append (isBare_append h.1 hseparator) (ih h.2)

/-! ## Settled texts -/

/-- A reader who comes from outside quoted runs is outside them again, and meets no NUL there. -/
structure Settled (cs : List Char) : Prop where
  ends : cs.foldl step none = none
  noNul : '\x00' ∉ unquoted none cs

/-- What a reader meets outside quoted runs in two texts depends on the first only by where it
leaves the reader. -/
theorem unquoted_append (quote : Option Char) (cs ds : List Char) :
    unquoted quote (cs ++ ds) = unquoted quote cs ++ unquoted (cs.foldl step quote) ds := by
  induction cs generalizing quote with
  | nil => rfl
  | cons c cs ih =>
    rcases quote with _ | q
    · rw [List.cons_append, unquoted, unquoted, ih]
      rfl
    · rw [List.cons_append, unquoted, unquoted, ih]
      rfl

variable {cs ds : List Char} {s t : String}

/-- Settled texts make a settled one: the second is come to from outside quoted runs as well. -/
theorem Settled.append (hs : Settled cs) (ht : Settled ds) : Settled (cs ++ ds) where
  ends := by rw [List.foldl_append, hs.ends, ht.ends]
  noNul := by
    rw [unquoted_append, hs.ends, List.mem_append]
    rintro (h | h)
    · exact hs.noNul h
    · exact ht.noNul h

/-- Outside quoted runs, a reader passes over a bare text and stays outside. -/
theorem settled_of_isBare (h : isBare s) : Settled s.toList := by
  rw [isBare, List.all_eq_true] at h
  generalize s.toList = cs at h
  induction cs with
  | nil => exact ⟨rfl, List.not_mem_nil⟩
  | cons c cs ih =>
    rw [List.forall_mem_cons, isBareChar, Bool.and_eq_true, Bool.not_eq_true', bne_iff_ne] at h
    obtain ⟨⟨hmark, hnul⟩, hrest⟩ := h
    obtain ⟨hends, hnone⟩ := ih hrest
    have hstep : step none c = none := by
      rw [step_outside, hmark, if_neg Bool.false_ne_true]
    refine ⟨?_, ?_⟩
    · rw [List.foldl_cons, hstep, hends]
    · rw [unquoted, hstep, List.mem_cons, not_or]
      exact ⟨Ne.symm hnul, hnone⟩

/-- Inside a quoted run nothing is met outside as long as its mark does not come. -/
theorem unquoted_inside {mark : Char} (h : mark ∉ cs) : unquoted (some mark) cs = [] := by
  induction cs with
  | nil => rfl
  | cons c cs ih =>
    rw [List.mem_cons, not_or] at h
    rw [unquoted, step_inside, if_neg (Ne.symm h.1), ih h.2]

/-- A bare text between an apostrophe and the next one is settled. -/
theorem settled_between {opening closing : String} (hs : isBare s)
    (hopen : opening.toList.foldl step none = some '\x27')
    (hopenNul : '\x00' ∉ unquoted none opening.toList)
    (hclose : closing.toList.foldl step (some '\x27') = none)
    (hcloseNul : '\x00' ∉ unquoted (some '\x27') closing.toList) :
    Settled (opening ++ s ++ closing).toList := by
  have hmark : '\x27' ∉ s.toList := by
    intro hmem
    cases isBareChar_of_mem hs hmem
  rw [String.toList_append, String.toList_append]
  refine ⟨?_, ?_⟩
  · rw [List.foldl_append, List.foldl_append, hopen, foldl_step_inside hmark, hclose]
  · rw [unquoted_append, unquoted_append, List.foldl_append, hopen, foldl_step_inside hmark,
      unquoted_inside hmark, List.append_nil, List.mem_append]
    rintro (h | h)
    · exact hopenNul h
    · exact hcloseNul h

/-- A doubled mark leads the reader out of the run and back in, and nothing but marks is met
outside. -/
theorem foldl_step_double {mark : Char} (hm : isMark mark) (cs : List Char) :
    (double mark cs).foldl step (some mark) = some mark ∧
      ∀ c ∈ unquoted (some mark) (double mark cs), c = mark := by
  have hin : step (some mark) mark = none := by rw [step_inside, if_pos rfl]
  have hout : step none mark = some mark := by rw [step_outside, if_pos hm]
  induction cs with
  | nil => exact ⟨rfl, List.forall_mem_nil _⟩
  | cons c cs ih =>
    obtain ⟨hends, hmarks⟩ := ih
    rw [double]
    split
    · -- the first of the two marks ends the run and the second one begins the next
      refine ⟨?_, ?_⟩
      · rw [List.foldl_cons, List.foldl_cons, hin, hout, hends]
      · rw [unquoted, hin, unquoted, hout, List.forall_mem_cons]
        exact ⟨rfl, hmarks⟩
    · next hc =>
      have hstay : step (some mark) c = some mark := by rw [step_inside, if_neg hc]
      refine ⟨?_, ?_⟩
      · rw [List.foldl_cons, hstay, hends]
      · rw [unquoted, hstay]
        exact hmarks

/-- Whatever is put between apostrophes is settled. -/
theorem settled_apostrophes (text : String) : Settled (apostrophes text).toList := by
  obtain ⟨hends, hmarks⟩ := @foldl_step_double '\x27' rfl text.toList
  have hout : step none '\x27' = some '\x27' := rfl
  have hin : step (some '\x27') '\x27' = none := rfl
  rw [apostrophes, enclose, String.toList_ofList]
  refine ⟨?_, ?_⟩
  · rw [List.foldl_cons, hout, List.foldl_append, hends, List.foldl_cons, hin, List.foldl_nil]
  · rw [unquoted, hout, unquoted_append, hends, unquoted, hin, unquoted, List.append_nil,
      List.mem_cons, not_or]
    refine ⟨by decide, fun h => ?_⟩
    cases hmarks _ h

end Quoting

open Quoting

/-! ## Numbers -/

namespace Numeral

/-- Digits with a point among them, or zeros around them, are bare. -/
theorem isBare_positional {digits : String} (h : isBare digits) (point : Int) :
    isBare (positional digits point) := by
  have hzeros (n : Nat) := isBare_zeros n
  have hchars : ∀ c ∈ digits.toList, isBareChar c := fun c hc => isBareChar_of_mem h hc
  unfold positional
  dsimp only
  split
  · exact isBare_append (isBare_append rfl (hzeros _)) h
  · split
    · exact isBare_append (isBare_append h (hzeros _)) rfl
    · have hbefore : isBare (String.ofList (digits.toList.take point.toNat)) :=
        isBare_ofList fun c hc => hchars c (List.mem_of_mem_take hc)
      have hafter : isBare (String.ofList (digits.toList.drop point.toNat)) :=
        isBare_ofList fun c hc => hchars c (List.mem_of_mem_drop hc)
      exact isBare_append (isBare_append hbefore rfl) hafter

/-- A number with a power of ten is bare if its plus sign is. -/
theorem isBare_scientific {plusSign digits : String} (hplus : isBare plusSign)
    (h : isBare digits) (power : Int) : isBare (scientific plusSign digits power) := by
  have hchars : ∀ c ∈ digits.toList, isBareChar c := fun c hc => isBareChar_of_mem h hc
  unfold scientific
  refine isBare_append (isBare_append (isBare_append ?mantissa rfl) ?sign) (isBare_toString _)
  case mantissa =>
    generalize digits.toList = cs at hchars
    rcases cs with _ | ⟨d, _ | ⟨e, rest⟩⟩
    · rfl
    · exact isBare_ofList hchars
    · rw [List.forall_mem_cons] at hchars
      have hfirst : isBare (String.singleton d) :=
        isBare_ofList (List.forall_mem_singleton.mpr hchars.1)
      exact isBare_append (isBare_append hfirst rfl) (isBare_ofList hchars.2)
  case sign =>
    split
    · rfl
    · exact hplus

/-- Either way, a format writes the digits of a number bare. -/
theorem Layout.isBare_decimal {layout : Layout} (hplus : isBare layout.plusSign) (d : Decimal) :
    isBare (layout.decimal d) := by
  unfold Layout.decimal
  dsimp only
  split
  · exact isBare_positional (isBare_toString d.digits) _
  · exact isBare_scientific hplus (isBare_toString d.digits) _

/-- A format whose own words are bare writes bare texts only. -/
theorem Layout.isBare_number {layout : Layout} (hplus : isBare layout.plusSign)
    (hnan : isBare layout.nan) (hinfinity : ∀ negative, isBare (layout.infinity negative))
    (x : Number) : isBare (layout.number x) := by
  rcases x with _ | negative | negative | ⟨negative, a⟩
  · exact hnan
  · exact hinfinity negative
  · rw [Layout.number]
    split
    · decide
    · decide
  · refine isBare_append ?_ (Layout.isBare_decimal hplus _)
    rcases negative with _ | _
    · rfl
    · rfl

/-- The format in which numbers are shown writes bare texts only. -/
theorem isBare_plain (x : Number) : isBare (Layout.plain.number x) := by
  refine Layout.isBare_number rfl rfl (fun negative => ?_) x
  rcases negative with _ | _
  · rfl
  · rfl

end Numeral

/-! ## Dates and times -/

namespace Calendar

/-- A padded number is bare. -/
theorem isBare_padded (width n : Nat) : isBare (padded width n) :=
  isBare_append (isBare_zeros _) (isBare_toString n)

/-- A year is bare, its sign included. -/
theorem isBare_yearText (year : Int) : isBare (yearText year) := by
  unfold yearText
  split
  · exact isBare_padded 4 _
  · refine isBare_append ?_ (isBare_padded 4 _)
    split
    · rfl
    · rfl

/-- The fraction of a second is bare, its point included. -/
theorem isBare_fractionText (nano : Nat) : isBare (fractionText nano) := by
  unfold fractionText
  split
  · rfl
  · split
    · exact isBare_append rfl (isBare_padded 3 _)
    · split
      · exact isBare_append rfl (isBare_padded 6 _)
      · exact isBare_append rfl (isBare_padded 9 _)

/-- A day is bare. -/
theorem Date.isBare_toString (d : Date) : isBare d.toString :=
  isBare_append (isBare_append (isBare_append (isBare_append (isBare_yearText _) rfl)
    (isBare_padded 2 _)) rfl) (isBare_padded 2 _)

/-- So is a time of day. -/
theorem Time.isBare_toString (t : Time) : isBare t.toString :=
  isBare_append (isBare_append (isBare_append (isBare_append (isBare_append (isBare_padded 2 _) rfl)
    (isBare_padded 2 _)) rfl) (isBare_padded 2 _)) (isBare_fractionText _)

/-- A day and a time are bare if what stands between them is. -/
theorem DateTime.isBare_toString {separator : String} (h : isBare separator) (t : DateTime) :
    isBare (t.toString separator) :=
  isBare_append (isBare_append t.date.isBare_toString h) t.time.isBare_toString

end Calendar

/-! ## Hexadecimal digits -/

namespace Text

/-- A digit to base sixteen is bare. -/
theorem isBareChar_digitChar {n : Nat} (h : n < 16) : isBareChar (Nat.digitChar n) := by
  have hall : ∀ k : Fin 16, isBareChar (Nat.digitChar k) := by decide
  exact hall ⟨n, h⟩

/-- So is every digit of a number to base sixteen. -/
theorem isBareChar_of_mem_hexDigits {width n : Nat} {c : Char} (hc : c ∈ hexDigits width n) :
    isBareChar c := by
  induction width generalizing n with
  | zero => cases hc
  | succ width ih =>
    rw [hexDigits, List.mem_append, List.mem_singleton] at hc
    rcases hc with hc | rfl
    · exact ih hc
    · exact isBareChar_digitChar (Nat.mod_lt n (by decide))

/-- Bytes to base sixteen are bare. -/
theorem isBare_hexOfBytes (bytes : List UInt8) : isBare (hexOfBytes bytes) := by
  refine isBare_ofList fun c hc => ?_
  obtain ⟨b, -, hb⟩ := List.mem_flatMap.mp hc
  exact isBareChar_of_mem_hexDigits hb

end Text

/-- An identifier is bare: it is digits and hyphens. -/
theorem Uuid.isBare_toString (u : Uuid) : isBare u.toString := by
  have hgroup (start length : Nat) :
      isBare (String.ofList ((u.digits.drop start).take length)) :=
    isBare_ofList fun c hc =>
      Text.isBareChar_of_mem_hexDigits (List.mem_of_mem_drop (List.mem_of_mem_take hc))
  unfold Uuid.toString
  dsimp only
  apply isBare_intercalate (by decide)
  simp only [List.forall_mem_cons, List.not_mem_nil, false_implies, implies_true, and_true]
  exact ⟨hgroup 0 8, hgroup 8 4, hgroup 12 4, hgroup 16 4, hgroup 20 12⟩

/-! ## Values -/

/-- A number with its sign is bare. -/
theorem isBare_int (n : Int) : isBare (toString n) := by
  rcases n with n | n
  · exact isBare_toString n
  · exact isBare_append rfl (isBare_toString (n + 1))

/-- **Display forms are settled.**  A reader who comes to one from outside quoted runs leaves it
outside them, and meets no NUL there, whatever the value is. -/
theorem Value.settled_display (v : Value) : Settled v.display.toList := by
  have hliteral {opening s : String} (hs : isBare s)
      (hopen : opening.toList.foldl step none = some '\x27')
      (hopenNul : '\x00' ∉ unquoted none opening.toList) : Settled (opening ++ s ++ "'").toList :=
    settled_between hs hopen hopenNul (by decide) (by decide)
  rcases v with _ | b | n | n | n | x | x | s | bs | d | t | t | u | document
  · exact settled_of_isBare (s := "NULL") rfl
  · rcases b with _ | _
    · exact settled_of_isBare (s := "false") rfl
    · exact settled_of_isBare (s := "true") rfl
  · exact settled_of_isBare (isBare_int n.toInt)
  · exact settled_of_isBare (isBare_int n.toInt)
  · exact settled_of_isBare (isBare_int n.toInt)
  · exact settled_of_isBare (Numeral.isBare_plain _)
  · exact settled_of_isBare (Numeral.isBare_plain _)
  · exact settled_apostrophes s
  · exact hliteral (Text.isBare_hexOfBytes bs) (by decide) (by decide)
  · exact hliteral d.isBare_toString (by decide) (by decide)
  · exact hliteral (t.isBare_toString rfl) (by decide) (by decide)
  · exact settled_between (t.utc.isBare_toString rfl) (by decide) (by decide) (by decide)
      (by decide)
  · exact hliteral u.isBare_toString (by decide) (by decide)
  · rw [Value.display, String.toList_append]
    exact (settled_of_isBare rfl).append (settled_apostrophes document.text)

end BoundSql
