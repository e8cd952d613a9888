import AnnotationReview.Proofs.Json.Reader
import AnnotationReview.Proofs.Lookup
import Mathlib.Data.List.Induction
import Mathlib.Data.List.Sort
import Mathlib.Data.String.Basic

/-!
# What a tree denotes

A tree without broken strings and without numbers that would be rounded (`Tree.IsWhole`) denotes one
value (`Denotes`).  This says what the tree means without reference to how it is read: a key that
comes twice has its last value, and the members stand in the order of their keys, so that two trees
are equal as documents exactly if they denote the same value.  Reading a tree gives the value that
it denotes (`Denotes.value?_eq`).
-/

namespace AnnotationReview.Json

/-! ## Denotation -/

/-- A number is written as a whole one that fits a word, with a sign or without one.  The negative
zero is not whole. -/
structure NumberText.Denotes (n : NumberText) (value : Int) : Prop where
  plain : n.fraction = [] ∧ n.exponent? = none
  value_eq : value = if n.negative then -(digitsValue n.whole : Int) else digitsValue n.whole
  ne_zero : n.negative = true → value ≠ 0
  least : -0x8000000000000000 ≤ value
  greatest : value < 0x10000000000000000

/-- Every key once and in their order, with the last of its values. -/
structure Resolves (members resolved : List (String × Value)) : Prop where
  ordered : resolved.Pairwise (·.1 < ·.1)
  latest : ∀ key, resolved.lookup key = members.reverse.lookup key

/-- What a member denotes by what its value denotes. -/
inductive MemberDenotes (denotes : Tree → Value → Prop) :
    List Piece × Tree → String × Value → Prop where
  | mk {pieces : List Piece} {key : String} {tree : Tree} {value : Value}
      (hkey : stringText pieces = some key) (hvalue : denotes tree value) :
      MemberDenotes denotes (pieces, tree) (key, value)

/-- The value that a tree denotes. -/
inductive Denotes : Tree → Value → Prop where
  | null : Denotes .null .null
  | bool (b : Bool) : Denotes (.bool b) (.bool b)
  | number {n : NumberText} {value : Int} (hn : n.Denotes value) :
      Denotes (.number n) (.number (.int value))
  | string {pieces : List Piece} {text : String} (htext : stringText pieces = some text) :
      Denotes (.string pieces) (.string text)
  | array {items : List Tree} {values : List Value}
      (hitems : List.Forall₂ Denotes items values) : Denotes (.array items) (.array values)
  | object {members : List (List Piece × Tree)} {said resolved : List (String × Value)}
      (hmembers : List.Forall₂ (MemberDenotes Denotes) members said)
      (hresolved : Resolves said resolved) : Denotes (.object members) (.object resolved)

namespace Tree

/-- A JSON value all of whose numbers are whole. -/
inductive IsWhole : Tree → Prop where
  | null : IsWhole .null
  | bool (b : Bool) : IsWhole (.bool b)
  | number {n : NumberText} {value : Int} (hn : n.Denotes value) : IsWhole (.number n)
  | string {pieces : List Piece} {text : String} (htext : stringText pieces = some text) :
      IsWhole (.string pieces)
  | array {items : List Tree} (hitems : ∀ item ∈ items, IsWhole item) : IsWhole (.array items)
  | object {members : List (List Piece × Tree)}
      (hkeys : ∀ member ∈ members, ∃ key, stringText member.1 = some key)
      (hvalues : ∀ member ∈ members, IsWhole member.2) : IsWhole (.object members)

/-- No part of the value has more than `depth` brackets around it. -/
def Within : Nat → Tree → Prop
  | _, .null | _, .bool _ | _, .number _ | _, .string _ => True
  | 0, .array _ | 0, .object _ => False
  | depth + 1, .array items => ∀ item ∈ items, item.Within depth
  | depth + 1, .object members => ∀ member ∈ members, member.2.Within depth

end Tree

/-! ## Numbers -/

section

variable {n : NumberText} {value : Int}

lemma NumberText.Denotes.value?_eq (hn : n.Denotes value) : n.value? = some (.int value) := by
  have hzero : ¬(n.negative = true ∧ digitsValue n.whole = 0) := by
    rintro ⟨hnegative, hvalue⟩
    refine hn.ne_zero hnegative ?_
    rw [hn.value_eq, hvalue]
    simp
  have hrange : minInt ≤ value ∧ value ≤ maxInt :=
    ⟨hn.least, Int.le_sub_one_of_lt hn.greatest⟩
  have hwhole : n.whole? = some value := by
    rw [NumberText.whole?, if_pos hn.plain]
    simp only [if_neg hzero, ← hn.value_eq, if_pos hrange]
  rw [NumberText.value?, hwhole]

end

/-! ## Members by their keys -/

section

variable {key : String} {value : Value} {members resolved resolved' : List (String × Value)}

lemma lookup_insertMember (key : String) (value : Value) (members : List (String × Value))
    (other : String) : (insertMember key value members).lookup other =
      if other = key then some value else members.lookup other := by
  induction members with
  | nil => grind [insertMember]
  | cons member members ih => grind [insertMember]

lemma mem_insertMember {member : String × Value}
    (hmember : member ∈ insertMember key value members) :
    member = (key, value) ∨ member ∈ members := by
  induction members with
  | nil => simpa [insertMember] using hmember
  | cons first members ih => grind [insertMember]

/-- A member is put where the order of the keys wants it. -/
lemma ordered_insertMember (hordered : members.Pairwise (·.1 < ·.1)) :
    (insertMember key value members).Pairwise (·.1 < ·.1) := by
  induction members with
  | nil => simp [insertMember]
  | cons first members ih =>
    obtain ⟨k, v⟩ := first
    obtain ⟨hfirst, hmore⟩ := List.pairwise_cons.mp hordered
    rw [insertMember]
    split_ifs with hlt heq
    · refine List.pairwise_cons.mpr ⟨fun member hmember => ?_, hordered⟩
      rcases List.mem_cons.mp hmember with rfl | hmember
      · exact hlt
      · exact hlt.trans (hfirst member hmember)
    · subst heq
      exact List.pairwise_cons.mpr ⟨hfirst, hmore⟩
    · refine List.pairwise_cons.mpr ⟨fun member hmember => ?_, ih hmore⟩
      rcases mem_insertMember hmember with rfl | hmember
      · exact lt_of_le_of_ne (not_lt.mp hlt) (Ne.symm heq)
      · exact hfirst member hmember

/-- Sorting keeps the last value of each key. -/
lemma resolves_sortMembers (members : List (String × Value)) :
    Resolves members (sortMembers members) := by
  induction members using List.reverseRecOn with
  | nil => exact ⟨.nil, fun _ => rfl⟩
  | append_singleton members member ih =>
    obtain ⟨k, v⟩ := member
    have hsort : sortMembers (members ++ [(k, v)]) = insertMember k v (sortMembers members) :=
      List.foldl_concat ..
    refine ⟨?_, fun key => ?_⟩
    · rw [hsort]
      exact ordered_insertMember ih.ordered
    · rw [hsort, lookup_insertMember, ih.latest, List.reverse_append, List.reverse_singleton,
        List.singleton_append]
      grind

namespace Resolves

lemma nodup (hresolved : Resolves members resolved) : (resolved.map Prod.fst).Nodup :=
  (List.pairwise_map.mpr hresolved.ordered).imp fun hlt => hlt.ne

/-- The members that are left are determined: their order is that of the keys. -/
lemma unique (hresolved : Resolves members resolved) (hresolved' : Resolves members resolved') :
    resolved = resolved' := by
  have hirrefl : Std.Irrefl fun a b : String × Value => a.1 < b.1 := ⟨fun a => lt_irrefl a.1⟩
  have hantisymm : Std.Antisymm fun a b : String × Value => a.1 < b.1 :=
    ⟨fun _ _ hlt hgt => absurd hgt hlt.asymm⟩
  refine hresolved.ordered.eq_of_mem_iff hresolved'.ordered fun (key, value) => ?_
  rw [← lookup_eq_some_iff_mem hresolved.nodup, ← lookup_eq_some_iff_mem hresolved'.nodup,
    hresolved.latest, hresolved'.latest]

/-- What is left has been said. -/
lemma subset (hresolved : Resolves members resolved) : resolved ⊆ members := by
  rintro ⟨key, value⟩ hmember
  have hlookup := (lookup_eq_some_iff_mem hresolved.nodup).mpr hmember
  rw [hresolved.latest] at hlookup
  obtain ⟨front, back, heq, -⟩ := List.lookup_eq_some_iff.mp hlookup
  rw [← List.mem_reverse, heq]
  simp

/-- What is left has no key twice. -/
lemma again (hresolved : Resolves members resolved) : Resolves resolved resolved :=
  ⟨hresolved.ordered, fun key => (lookup_reverse hresolved.nodup key).symm⟩

end Resolves

end

/-! ## Lists related item by item -/

section

variable {α β : Type} {R S : α → β → Prop} {xs : List α} {ys : List β}

lemma exists_forall₂ (hall : ∀ x ∈ xs, ∃ y, R x y) : ∃ ys, List.Forall₂ R xs ys := by
  induction xs with
  | nil => exact ⟨[], .nil⟩
  | cons x xs ih =>
    obtain ⟨y, hy⟩ := hall x List.mem_cons_self
    obtain ⟨ys, hys⟩ := ih fun x hx => hall x (List.mem_cons_of_mem _ hx)
    exact ⟨y :: ys, .cons hy hys⟩

lemma exists_mem_of_forall₂ (hall : List.Forall₂ R xs ys) {y : β} (hy : y ∈ ys) :
    ∃ x ∈ xs, R x y := by
  induction hall with
  | nil => cases hy
  | @cons x _ _ _ hxy _ ih =>
    rcases List.mem_cons.mp hy with rfl | hy
    · exact ⟨x, List.mem_cons_self, hxy⟩
    · obtain ⟨x', hx', hxy'⟩ := ih hy
      exact ⟨x', List.mem_cons_of_mem _ hx', hxy'⟩

lemma forall₂_imp_of_mem (hall : List.Forall₂ R xs ys)
    (himp : ∀ x ∈ xs, ∀ y, R x y → S x y) : List.Forall₂ S xs ys := by
  induction hall with
  | nil => exact .nil
  | cons hxy _ ih =>
    exact .cons (himp _ List.mem_cons_self _ hxy)
      (ih fun x hx => himp x (List.mem_cons_of_mem _ hx))

lemma mapM_of_forall₂ {f : α → Option β}
    (hall : List.Forall₂ (fun x y => f x = some y) xs ys) : xs.mapM f = some ys := by
  induction hall with
  | nil => rfl
  | cons hxy _ ih =>
    rw [List.mapM_cons, hxy, ih]
    rfl

end

/-! ## Values -/

section

variable {tree : Tree} {value value' : Value} {depth : Nat}

/-- What is nested within a depth is nested within a greater one. -/
lemma Tree.Within.mono {depth' : Nat} (hwithin : tree.Within depth) (hle : depth ≤ depth') :
    tree.Within depth' := by
  induction depth generalizing tree depth' with
  | zero =>
    cases tree with
    | array | object => exact hwithin.elim
    | null | bool | number | string => cases depth' <;> trivial
  | succ depth ih =>
    obtain ⟨depth', rfl⟩ := Nat.exists_eq_succ_of_ne_zero (Nat.ne_zero_of_lt hle)
    have hle := Nat.le_of_succ_le_succ hle
    cases tree with
    | array items => exact fun item hitem => ih (hwithin item hitem) hle
    | object members => exact fun member hmember => ih (hwithin member hmember) hle
    | null | bool | number | string => trivial

/-- A tree amounts to the value that it denotes. -/
lemma Denotes.value?_eq (hdenotes : Denotes tree value) (hdepth : tree.Within depth) :
    tree.value? depth = some value := by
  induction depth generalizing tree value with
  | zero =>
    cases hdenotes with
    | null | bool => simp
    | number hn => simp [hn.value?_eq]
    | string htext => simp [htext]
    | array | object => exact hdepth.elim
  | succ depth ih =>
    cases hdenotes with
    | null | bool => simp
    | number hn => simp [hn.value?_eq]
    | string htext => simp [htext]
    | @array items values hitems =>
      have hread : items.mapM (Tree.value? depth) = some values :=
        mapM_of_forall₂ <| forall₂_imp_of_mem hitems fun item hitem _ hvalue =>
          ih hvalue (hdepth item hitem)
      rw [Tree.value?, hread, Option.map_some]
    | @object members said resolved hmembers hresolved =>
      have hread : members.mapM (memberMeaning stringText (Tree.value? depth)) = some said := by
        refine mapM_of_forall₂ (forall₂_imp_of_mem hmembers fun member hmember _ hdenotes => ?_)
        obtain ⟨hkey, hvalue⟩ := hdenotes
        rw [memberMeaning, hkey, Option.bind_some, ih hvalue (hdepth _ hmember), Option.map_some]
      rw [Tree.value?, hread, Option.map_some, hresolved.unique (resolves_sortMembers said)]

/-- A tree denotes one value at most. -/
lemma Denotes.unique (hdenotes : Denotes tree value) (hdenotes' : Denotes tree value')
    (hdepth : tree.Within depth) : value = value' :=
  Option.some.inj ((hdenotes.value?_eq hdepth).symm.trans (hdenotes'.value?_eq hdepth))

/-- A value with whole numbers denotes something. -/
lemma Tree.IsWhole.exists_denotes (hwhole : tree.IsWhole) : ∃ value, Denotes tree value := by
  induction hwhole with
  | null => exact ⟨_, .null⟩
  | bool b => exact ⟨_, .bool b⟩
  | number hn => exact ⟨_, .number hn⟩
  | string htext => exact ⟨_, .string htext⟩
  | array _ ih =>
    obtain ⟨values, hvalues⟩ := exists_forall₂ ih
    exact ⟨_, .array hvalues⟩
  | object hkeys _ ih =>
    obtain ⟨said, hsaid⟩ := exists_forall₂ (R := MemberDenotes Denotes) fun member hmember => by
      obtain ⟨key, hkey⟩ := hkeys member hmember
      obtain ⟨value, hvalue⟩ := ih member hmember
      exact ⟨(key, value), .mk hkey hvalue⟩
    exact ⟨_, .object hsaid (resolves_sortMembers said)⟩

end

end AnnotationReview.Json
