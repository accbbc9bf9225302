import BoundSql.Json.Basic

/-!
# Documents

What a document is can be said without the function that makes one of a tree: every part has a
value, and the members of every object are ordered by key, none of them twice
(`Json.IsDocument`).

Main statement: `Json.isDocument_iff`.  These are exactly the trees that are read as values.  A
document is its own document (`Json.document?_eq_self`), since members that come in order are put
behind one another; and whatever was made one is ordered, since a member is put where its key
belongs.
-/

namespace BoundSql.Json

/-! ## What a document is -/

mutual

/-- The tree is a document: every part of it has a value, and the members of every object are
ordered by key, none of them twice. -/
def IsDocument : Json → Prop
  | .array items => AllDocuments items
  | .object members => members.Pairwise (fun m n => m.1 < n.1) ∧ MembersDocuments members
  | .unread => False
  | _ => True

/-- The items are documents. -/
def AllDocuments : List Json → Prop
  | [] => True
  | item :: rest => IsDocument item ∧ AllDocuments rest

/-- The values of the members are documents. -/
def MembersDocuments : List (String × Json) → Prop
  | [] => True
  | (_, v) :: rest => IsDocument v ∧ MembersDocuments rest

end

/-! ## Documents are canonical -/

/-- A member whose key comes after all others goes to the end. -/
theorem insertMember_of_lt {key : String} {members : List (String × Json)}
    (h : ∀ m ∈ members, m.1 < key) (value : Json) :
    insertMember key value members = members ++ [(key, value)] := by
  induction members with
  | nil => rfl
  | cons m members ih =>
    rw [List.forall_mem_cons] at h
    have hne : ¬key = m.1 := fun heq => String.lt_irrefl key (heq ▸ h.1)
    rw [insertMember, if_neg hne, if_neg (String.lt_asymm h.1), ih h.2, List.cons_append]

/-- Members that are ordered stay as they are. -/
theorem foldl_insertMember {before members : List (String × Json)}
    (h : (before ++ members).Pairwise fun m n => m.1 < n.1) :
    members.foldl (fun ms (k, v) => insertMember k v ms) before = before ++ members := by
  induction members generalizing before with
  | nil => exact (List.append_nil before).symm
  | cons m members ih =>
    obtain ⟨k, v⟩ := m
    have hlast : ∀ n ∈ before, n.1 < k := fun n hn =>
      (List.pairwise_append.mp h).2.2 n hn (k, v) List.mem_cons_self
    rw [List.append_cons] at h ⊢
    rw [List.foldl_cons]
    dsimp only
    rw [insertMember_of_lt hlast, ih h]

mutual

/-- A document is its own document. -/
theorem canonical_of_isDocument (j : Json) (h : j.IsDocument) :
    j.canonical = j ∧ j.isRead = true := by
  cases j with
  | array items =>
    obtain ⟨hsame, hread⟩ := canonicalItems_of_allDocuments items h
    exact ⟨by rw [canonical, hsame], hread⟩
  | object members =>
    obtain ⟨hsame, hread⟩ := canonicalMembers_of_membersDocuments members h.2
    refine ⟨?_, hread⟩
    rw [canonical, hsame, foldl_insertMember (by rw [List.nil_append]; exact h.1), List.nil_append]
  | unread => exact h.elim
  | _ => exact ⟨rfl, rfl⟩

/-- The items of a document are their own documents. -/
theorem canonicalItems_of_allDocuments (items : List Json) (h : AllDocuments items) :
    canonicalItems items = items ∧ itemsRead items = true := by
  match items with
  | [] => exact ⟨rfl, rfl⟩
  | item :: rest =>
    obtain ⟨hsame, hread⟩ := canonical_of_isDocument item h.1
    obtain ⟨hsame', hread'⟩ := canonicalItems_of_allDocuments rest h.2
    exact ⟨by rw [canonicalItems, hsame, hsame'], by rw [itemsRead, hread, hread']; rfl⟩

/-- So are the values of its members. -/
theorem canonicalMembers_of_membersDocuments (members : List (String × Json))
    (h : MembersDocuments members) :
    canonicalMembers members = members ∧ membersRead members = true := by
  match members with
  | [] => exact ⟨rfl, rfl⟩
  | (k, v) :: rest =>
    obtain ⟨hsame, hread⟩ := canonical_of_isDocument v h.1
    obtain ⟨hsame', hread'⟩ := canonicalMembers_of_membersDocuments rest h.2
    exact ⟨by rw [canonicalMembers, hsame, hsame'], by rw [membersRead, hread, hread']; rfl⟩

end

/-- A document is read as itself. -/
theorem document?_eq_self {j : Json} (h : j.IsDocument) : j.document? = some j := by
  obtain ⟨hsame, hread⟩ := canonical_of_isDocument j h
  rw [document?, if_pos hread, hsame]

/-! ## Canonical trees are documents -/

/-- What is in an object after a member is put in was there before, or is that member. -/
theorem mem_of_mem_insertMember {key : String} {value : Json} {members : List (String × Json)}
    {m : String × Json} (h : m ∈ insertMember key value members) :
    m = (key, value) ∨ m ∈ members := by
  induction members with
  | nil => exact .inl (List.mem_singleton.mp h)
  | cons n members ih =>
    rw [insertMember] at h
    split at h
    · exact (List.mem_cons.mp h).imp_right (List.mem_cons_of_mem n)
    · split at h
      · exact List.mem_cons.mp h
      · rcases List.mem_cons.mp h with rfl | h
        · exact .inr List.mem_cons_self
        · exact (ih h).imp_right (List.mem_cons_of_mem n)

/-- A member that is put where its key belongs keeps the order. -/
theorem pairwise_insertMember {members : List (String × Json)}
    (h : members.Pairwise fun m n => m.1 < n.1) (key : String) (value : Json) :
    (insertMember key value members).Pairwise fun m n => m.1 < n.1 := by
  induction members with
  | nil => exact List.pairwise_singleton _ _
  | cons m members ih =>
    rw [List.pairwise_cons] at h
    obtain ⟨hm, hrest⟩ := h
    rw [insertMember]
    split
    · next heq =>
      rw [List.pairwise_cons]
      exact ⟨fun n hn => heq ▸ hm n hn, hrest⟩
    · next hne =>
      split
      · next hlt =>
        rw [List.pairwise_cons, List.forall_mem_cons, List.pairwise_cons]
        exact ⟨⟨hlt, fun n hn => String.lt_trans hlt (hm n hn)⟩, hm, hrest⟩
      · next hle =>
        rw [List.pairwise_cons]
        refine ⟨fun n hn => ?_, ih hrest⟩
        rcases mem_of_mem_insertMember hn with rfl | hn
        · exact Std.lt_of_le_of_ne (String.not_lt.mp hle) (Ne.symm hne)
        · exact hm n hn

/-- The values of members are documents if each of them is. -/
theorem membersDocuments_iff (members : List (String × Json)) :
    MembersDocuments members ↔ ∀ m ∈ members, m.2.IsDocument := by
  induction members with
  | nil => exact iff_of_true trivial (List.forall_mem_nil _)
  | cons m members ih => rw [List.forall_mem_cons, ← ih, MembersDocuments]

/-- An object into which documents are put one after another is a document. -/
theorem isDocument_foldl_insertMember {before members : List (String × Json)}
    (hbefore : (Json.object before).IsDocument) (h : MembersDocuments members) :
    (Json.object
      (members.foldl (fun ms (k, v) => insertMember k v ms) before)).IsDocument := by
  induction members generalizing before with
  | nil => exact hbefore
  | cons m members ih =>
    obtain ⟨k, v⟩ := m
    refine ih ⟨pairwise_insertMember hbefore.1 k v, ?_⟩ h.2
    rw [membersDocuments_iff]
    intro n hn
    rcases mem_of_mem_insertMember hn with rfl | hn
    · exact h.1
    · exact (membersDocuments_iff before).mp hbefore.2 n hn

mutual

/-- The canonical tree of what can be read is a document. -/
theorem isDocument_canonical (j : Json) (h : j.isRead = true) : j.canonical.IsDocument := by
  cases j with
  | array items => exact allDocuments_canonicalItems items h
  | object members =>
    exact isDocument_foldl_insertMember ⟨.nil, trivial⟩
      (membersDocuments_canonicalMembers members h)
  | unread => cases h
  | _ => trivial

/-- So are the canonical items of a list. -/
theorem allDocuments_canonicalItems (items : List Json) (h : itemsRead items = true) :
    AllDocuments (canonicalItems items) := by
  match items with
  | [] => trivial
  | item :: rest =>
    rw [itemsRead, Bool.and_eq_true] at h
    exact ⟨isDocument_canonical item h.1, allDocuments_canonicalItems rest h.2⟩

/-- So are the values of canonical members. -/
theorem membersDocuments_canonicalMembers (members : List (String × Json))
    (h : membersRead members = true) : MembersDocuments (canonicalMembers members) := by
  match members with
  | [] => trivial
  | (_, v) :: rest =>
    rw [membersRead, Bool.and_eq_true] at h
    exact ⟨isDocument_canonical v h.1, membersDocuments_canonicalMembers rest h.2⟩

end

/-- The documents are the trees that are read as values. -/
theorem isDocument_iff (j : Json) : j.IsDocument ↔ ∃ k : Json, k.document? = some j := by
  constructor
  · exact fun h => ⟨j, document?_eq_self h⟩
  · rintro ⟨k, hk⟩
    rw [document?, Option.ite_none_right_eq_some] at hk
    obtain ⟨hread, heq⟩ := hk
    exact Option.some.inj heq ▸ isDocument_canonical k hread

end BoundSql.Json
