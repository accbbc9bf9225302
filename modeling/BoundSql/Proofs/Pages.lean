import BoundSql.Proofs.CallOrder
import BoundSql.Proofs.Decoding
import Mathlib.Logic.ExistsUnique

/-!
# Pages tile the rows

A page is asked for by its number and its size, both machine numbers, and both counted as one if
they are zero.  The offset is a product that may be too large for a machine number; it is then the
greatest one, and many pages have that offset.

Below the greatest offset this does not matter.  A page whose offset is cut off begins behind all of
these rows, and every other page has the offset that it should have, so a row is on the page whose
number division tells (`Pages.mem_page_iff`).

Main statement: `Select.pages_tile`.
-/

namespace BoundSql

open Select (maxOffset)

namespace Pages

/-! ## The text -/

/-- The text of a limit and an offset. -/
def clauseText (limit offset : Nat) : String :=
  "LIMIT " ++ toString limit ++ " OFFSET " ++ toString offset

/-- Limit and offset can be read off the text. -/
theorem clauseText_inj {l l' o o' : Nat} (h : clauseText l o = clauseText l' o') :
    l = l' ∧ o = o' := by
  have hlimit : Decodes (fun n : Nat => (toString n).toList.map id)
      fun r => r.head? = some ' ' := by
    refine decodes_number Function.injective_id fun c r hc hr => ?_
    obtain rfl := Option.some.inj hr
    cases hc
  have hoffset : Decodes (fun n : Nat => (toString n).toList.map id) (· = []) :=
    decodes_number Function.injective_id fun _ _ _ => List.cons_ne_nil _ _
  have hboth := ((hlimit.prepend "LIMIT ".toList).append (hoffset.prepend " OFFSET ".toList)
    fun _ _ _ => rfl).injective rfl
  have hlist (l o : Nat) : (clauseText l o).toList =
      ("LIMIT ".toList ++ (toString l).toList.map id) ++
        (" OFFSET ".toList ++ (toString o).toList.map id) := by
    simp only [clauseText, String.toList_append, List.map_id, List.append_assoc]
  have hpair : (l, o) = (l', o') := hboth ((hlist l o).symm.trans (h ▸ hlist l' o'))
  exact Prod.mk.inj hpair

/-! ## The numbers -/

/-- The rows of a page: as many as its size says. -/
def limit (size : UInt64) : Nat := max size.toNat 1

/-- The rows in front of a page: those of the pages in front of it, but at most so many as can be
left out. -/
def offset (page size : UInt64) : Nat := min ((max page.toNat 1 - 1) * limit size) maxOffset

/-- No machine number is needed to compare with one. -/
theorem toNat_max_one (n : UInt64) : (max n 1).toNat = max n.toNat 1 := by
  have hmax : max n 1 = if n ≤ 1 then 1 else n := rfl
  have hone : (1 : UInt64).toNat = 1 := rfl
  rw [hmax]
  split
  · next h =>
    rw [UInt64.le_iff_toNat_le] at h
    omega
  · next h =>
    rw [UInt64.le_iff_toNat_le] at h
    omega

/-- However many pages are in front, the offset is a machine number. -/
theorem offset_lt_size (page size : UInt64) : offset page size < UInt64.size := by
  have hle : offset page size ≤ maxOffset := Nat.min_le_right _ _
  exact Nat.lt_of_le_of_lt hle (by decide)

/-- **A row is on the page whose number division tells.** -/
theorem mem_page_iff {page : UInt64} {row : Nat} (size : UInt64) (hpage : 1 ≤ page)
    (hrow : row < maxOffset) :
    offset page size ≤ row ∧ row < offset page size + limit size ↔
      page.toNat = row / limit size + 1 := by
  have hpos : 0 < limit size := Nat.le_max_right _ _
  have hone : 1 ≤ page.toNat := UInt64.le_iff_toNat_le.mp hpage
  obtain ⟨before, hbefore⟩ := Nat.exists_eq_add_of_le' hone
  rw [offset, hbefore, Nat.max_eq_left (Nat.le_add_left 1 before), Nat.add_sub_cancel,
    Nat.add_right_cancel_iff, eq_comm, Nat.div_eq_iff hpos]
  constructor
  · rintro ⟨hle, hlt⟩
    omega
  · rintro ⟨hle, hlt⟩
    omega

/-! ## The arithmetic of the machine -/

/-- The difference of machine numbers, unless it is below zero. -/
def difference? (x y : UInt64) : Option UInt64 := if y ≤ x then some (x - y) else none

/-- The product of machine numbers if it is one, and the greatest of them if it is not. -/
def saturatingMul (x y : UInt64) : UInt64 :=
  if x.toNat * y.toNat < UInt64.size then x * y else UInt64.ofNat maxOffset

/-- The offset of a page, computed with machine numbers. -/
def machineOffset? (page size : UInt64) : Option UInt64 :=
  (difference? (max page 1) 1).map fun before => saturatingMul before (max size 1)

/-- A product of machine numbers saturates where it would leave them. -/
theorem toNat_saturatingMul (x y : UInt64) :
    (saturatingMul x y).toNat = min (x.toNat * y.toNat) maxOffset := by
  have hmax : maxOffset = UInt64.size - 1 := rfl
  have hsize : UInt64.size = 2 ^ 64 := rfl
  rw [saturatingMul]
  split
  · next h =>
    have hexact : (x * y).toNat = x.toNat * y.toNat := by
      rw [UInt64.toNat_mul, Nat.mod_eq_of_lt h]
    omega
  · next h =>
    have hgreatest : (UInt64.ofNat maxOffset).toNat = maxOffset := rfl
    omega

/-- No step leaves the machine numbers, and the last one is the exact offset. -/
theorem machineOffset?_eq (page size : UInt64) :
    machineOffset? page size = some (UInt64.ofNat (offset page size)) := by
  have hone : (1 : UInt64).toNat = 1 := rfl
  have hle : 1 ≤ max page 1 := by
    rw [UInt64.le_iff_toNat_le, toNat_max_one]
    exact Nat.le_max_right _ _
  have hbefore : (max page 1 - 1).toNat = max page.toNat 1 - 1 := by
    rw [UInt64.toNat_sub_of_le _ _ hle, toNat_max_one, hone]
  rw [machineOffset?, difference?, if_pos hle, Option.map_some, Option.some_inj,
    ← UInt64.toNat_inj, toNat_saturatingMul, hbefore, toNat_max_one,
    UInt64.toNat_ofNat_of_lt' (offset_lt_size page size), offset, limit]

end Pages

namespace Select

open Pages (clauseText)

variable (k : DialectKind) (q : Select)

/-! ## Queries for a page -/

/-- A page has room for as many rows as its size says, and for at least one. -/
theorem limit_page (page size : UInt64) : (q.page page size).limit = some (max size 1) := rfl

/-- The rows of the pages in front are left out. -/
theorem offset_page (page size : UInt64) :
    (q.page page size).offset = some (UInt64.ofNat (Pages.offset page size)) := by
  rw [Pages.offset, Pages.limit, ← Pages.toNat_max_one, ← Pages.toNat_max_one]
  rfl

/-- The clause that each of the dialects writes for a page. -/
theorem limitOffset_page (page size : UInt64) :
    k.dialect.limitOffset (q.page page size).limit (q.page page size).offset =
      some (clauseText (Pages.limit size) (Pages.offset page size)) := by
  have hboth (l o : UInt64) : k.dialect.limitOffset (some l) (some o) =
      some (clauseText l.toNat o.toNat) := by cases k <;> rfl
  rw [limit_page, offset_page, hboth, Pages.toNat_max_one,
    UInt64.toNat_ofNat_of_lt' (Pages.offset_lt_size page size), Pages.limit]

/-- The limit and the offset that are written for the query take in this row. -/
def Shows (row : Nat) : Prop :=
  ∃ limit offset : Nat,
    k.dialect.limitOffset q.limit q.offset = some (clauseText limit offset) ∧
      offset ≤ row ∧ row < offset + limit

/-- The text written for a page takes in just the rows of the page. -/
theorem shows_page_iff {page size : UInt64} {row : Nat} :
    (q.page page size).Shows k row ↔
      Pages.offset page size ≤ row ∧ row < Pages.offset page size + Pages.limit size := by
  rw [Shows, limitOffset_page]
  constructor
  · rintro ⟨limit, offset, htext, hrow⟩
    obtain ⟨hlimit, hoffset⟩ := Pages.clauseText_inj (Option.some.inj htext)
    rwa [hlimit, hoffset]
  · intro hrow
    exact ⟨_, _, rfl, hrow⟩

/-- The text of a query for a page, which is that of any other page except for two numbers. -/
theorem sql_page :
    ∃ front back : String, ∀ page size : UInt64,
      (((q.page page size).fragment k.dialect).prepare k.dialect).sql =
        front ++ " " ++ clauseText (Pages.limit size) (Pages.offset page size) ++ back := by
  let opening : Fragment := Clause.fragments k.dialect q
    [.select, .source, .joins, .condition, .groups, .having, .order]
  let closing : Fragment := Clause.fragments k.dialect q [.lock]
  refine ⟨opening.textFrom k.dialect 0, closing.textFrom k.dialect opening.values.length,
    fun page size => ?_⟩
  have hsplit : Clause.all =
      [.select, .source, .joins, .condition, .groups, .having, .order] ++
        ([.pagination] ++ [.lock]) := rfl
  have hpagination : Clause.fragments k.dialect (q.page page size) [.pagination] =
      Fragment.ofPhrase [" ", .verbatim (clauseText (Pages.limit size)
        (Pages.offset page size))] := by
    rw [Clause.fragments, List.map_singleton, Clause.fragment, limitOffset_page]
    rfl
  have hfragment : (q.page page size).fragment k.dialect = opening ++
      (Fragment.ofPhrase [" ", .verbatim (clauseText (Pages.limit size)
        (Pages.offset page size))] ++ closing) := by
    rw [Clause.fragment_eq_fragments, hsplit, Clause.fragments_append, Clause.fragments_append,
      hpagination]
    rfl
  have hwrite (clause : String) :
      k.dialect.write [" ", .verbatim clause] = " " ++ clause := by
    simp [Dialect.write, Phrase.write]
  rw [Fragment.sql_prepare, hfragment, Fragment.textFrom_append, Fragment.textFrom_append,
    Fragment.values_ofPhrase, Fragment.textFrom_ofPhrase, hwrite, List.length_nil, Nat.add_zero,
    Nat.zero_add]
  simp only [String.append_assoc]

/-! ## Tiling -/

/-- **Pages tile the rows.**  Whatever the size of a page, and for each of the dialects, every row
in front of the greatest offset is on exactly one page, as the limits and offsets say that are
written for the pages.  The page with the number zero is the first one, and a size of zero is a size
of one.  The numbers are computed without leaving the machine numbers, and nothing else in the text
of a query depends on them. -/
theorem pages_tile (size : UInt64) :
    (∀ row < UInt64.size - 1, ∃! page : UInt64, 1 ≤ page ∧ (q.page page size).Shows k row) ∧
    q.page 0 size = q.page 1 size ∧
    (∀ page, q.page page 0 = q.page page 1) ∧
    (∀ page, ∃ offset, Pages.machineOffset? page size = some offset ∧
      (q.page page size).limit = some (max size 1) ∧
      (q.page page size).offset = some offset ∧ offset.toNat = Pages.offset page size) ∧
    ∃ front back : String, ∀ page size : UInt64,
      (((q.page page size).fragment k.dialect).prepare k.dialect).sql =
        front ++ " " ++ clauseText (Pages.limit size) (Pages.offset page size) ++ back := by
  refine ⟨fun row hrow => ?_, rfl, fun _ => rfl, fun page => ?_, sql_page k q⟩
  · have hmax : row < maxOffset := hrow
    have hdiv : row / Pages.limit size ≤ row := Nat.div_le_self _ _
    have hsize : row / Pages.limit size + 1 < UInt64.size :=
      Nat.lt_of_le_of_lt (Nat.succ_le_succ hdiv) (Nat.succ_lt_succ hmax)
    have hnumber := UInt64.toNat_ofNat_of_lt' hsize
    have hfirst : 1 ≤ UInt64.ofNat (row / Pages.limit size + 1) := by
      rw [UInt64.le_iff_toNat_le, hnumber]
      exact Nat.le_add_left _ _
    refine ⟨UInt64.ofNat (row / Pages.limit size + 1), ⟨hfirst, ?_⟩, ?_⟩
    · rw [shows_page_iff, Pages.mem_page_iff size hfirst hmax, hnumber]
    · rintro page ⟨hpage, hshows⟩
      rw [shows_page_iff, Pages.mem_page_iff size hpage hmax] at hshows
      rw [← UInt64.toNat_inj, hnumber, hshows]
  · exact ⟨_, Pages.machineOffset?_eq page size, limit_page q page size, offset_page q page size,
      UInt64.toNat_ofNat_of_lt' (Pages.offset_lt_size page size)⟩

/-- The last row in front of the greatest offset, on pages of three rows. -/
theorem pages_tile_lastRow :
    ∃! page : UInt64, 1 ≤ page ∧
      (Select.page {} page 3).Shows .mysql 18446744073709551614 := by
  obtain ⟨htile, -⟩ := pages_tile .mysql {} 3
  exact htile 18446744073709551614 (by decide)

end Select

end BoundSql
