import AnnotationReview.Proofs.Text.Split
import AnnotationReview.Proofs.Url.Form
import AnnotationReview.Url.Path

/-!
# A name at the end of a path

What stands below a base ends in a plain name, of letters and underscores.  Such a name is no dot
segment and needs no escapes, so it is still the last segment of the path when the dots before it
are resolved (`hostPath_name`); and no path holds a question mark, which would begin a query.
-/

namespace AnnotationReview.Url

variable {kind : SchemeKind} {name cs : List Char} {c : Char} {b : UInt8}

/-! ## Names -/

/-- A small letter or an underscore. -/
def IsNameChar (c : Char) : Prop := c.toNat = 95 ∨ 97 ≤ c.toNat ∧ c.toNat ≤ 122

instance : DecidablePred IsNameChar := fun _ => inferInstanceAs (Decidable (_ ∨ _))

/-- A text of small letters and underscores. -/
structure IsName (name : List Char) : Prop where
  filled : name ≠ []
  plain : ∀ c ∈ name, IsNameChar c

/-- What is true of every small letter and of the underscore is true of each character of a
name. -/
lemma IsNameChar.of_all {p : Char → Prop}
    (hall : ∀ n < 123, n = 95 ∨ 97 ≤ n → p (Char.ofNat n)) (hc : IsNameChar c) : p c := by
  have hvalue := hall c.toNat (by rcases hc with hc | hc <;> omega) (by
    rcases hc with hc | hc <;> omega)
  rwa [Char.ofNat_toNat] at hvalue

lemma IsName.notMem (hname : IsName name) (hc : ¬IsNameChar c) : c ∉ name :=
  fun hmem => hc (hname.plain c hmem)

/-! ## Escapes -/

lemma hexDigit_ne_question {n : Nat} (hn : n < 16) : hexDigit n ≠ '?' := by
  decide +revert

/-- No path holds a question mark. -/
lemma question_notMem_percentEncode (cs : List Char) : '?' ∉ percentEncode keptInPath cs := by
  intro hmem
  obtain ⟨b, -, hb⟩ := List.mem_flatMap.mp hmem
  have hlt := b.toNat_lt
  split at hb
  next hkept =>
    have hvalue := congrArg Char.toNat (List.mem_singleton.mp hb)
    have hprintable : b.toNat < 127 := by
      simp only [keptInPath, allBut, isPrintable, Bool.and_eq_true, decide_eq_true_eq] at hkept
      exact UInt8.lt_iff_toNat_lt.mp hkept.1.2
    have hascii : b.toNat < 128 := by omega
    rw [Text.toNat_ofNat_of_lt hascii] at hvalue
    obtain rfl : b = 63 := UInt8.toNat_inj.mp hvalue.symm
    exact absurd hkept (by decide)
  next =>
    simp only [percentByte, List.mem_cons, List.not_mem_nil, or_false] at hb
    rcases hb with hb | hb | hb
    · exact absurd hb (by decide)
    · exact hexDigit_ne_question (by omega) hb.symm
    · exact hexDigit_ne_question (by omega) hb.symm

/-- A name needs no escapes. -/
lemma percentEncode_name (hname : ∀ c ∈ name, IsNameChar c) :
    percentEncode keptInPath name = name := by
  induction name with
  | nil => rfl
  | cons c name ih =>
    have hwritten : percentEncode keptInPath [c] = [c] :=
      (hname c List.mem_cons_self).of_all (p := fun c => percentEncode keptInPath [c] = [c])
        (by decide)
    have hrest := ih fun c hc => hname c (List.mem_cons_of_mem _ hc)
    have hsplit : percentEncode keptInPath (c :: name) =
        percentEncode keptInPath [c] ++ percentEncode keptInPath name := by
      simp only [percentEncode, List.flatMap_cons, List.flatMap_append, List.flatMap_nil,
        List.append_nil]
    rw [hsplit, hwritten, hrest, List.singleton_append]

/-! ## The last segment -/

/-- A dot segment begins with a dot or an escape. -/
lemma IsName.not_dots (hname : IsName name) :
    isDoubleDot name = false ∧ isSingleDot name = false := by
  obtain ⟨c, name, rfl⟩ := List.exists_cons_of_ne_nil hname.filled
  have hletter : c.toLower ≠ '.' ∧ c.toLower ≠ '%' :=
    (hname.plain c List.mem_cons_self).of_all (p := fun c => c.toLower ≠ '.' ∧ c.toLower ≠ '%')
      (by decide)
  have hdiffers : ∀ (sign : Char) (more : List Char), c.toLower ≠ sign →
      String.ofList ((c :: name).map Char.toLower) ≠ String.ofList (sign :: more) := by
    intro sign more hsign heq
    exact hsign (List.cons.inj (String.ofList_injective heq)).1
  constructor
  · simp only [isDoubleDot, List.contains_eq_mem, decide_eq_false_iff_not, List.mem_cons,
      List.not_mem_nil, or_false, not_or]
    exact ⟨hdiffers '.' ['.'] hletter.1, hdiffers '.' ['%', '2', 'e'] hletter.1,
      hdiffers '%' ['2', 'e', '.'] hletter.2, hdiffers '%' ['2', 'e', '%', '2', 'e'] hletter.2⟩
  · simp only [isSingleDot, List.contains_eq_mem, decide_eq_false_iff_not, List.mem_cons,
      List.not_mem_nil, or_false, not_or]
    exact ⟨hdiffers '.' [] hletter.1, hdiffers '%' ['2', 'e'] hletter.2⟩

/-- The dots before a name are resolved without it. -/
lemma resolveDots_name (hname : IsName name) (segments done : List (List Char))
    (hdone : ∀ segment ∈ done, '?' ∉ segment) :
    ∃ front, resolveDots done (segments ++ [name]) = front ++ [name] ∧
      ∀ segment ∈ front, '?' ∉ segment := by
  induction segments generalizing done with
  | nil =>
    refine ⟨done.reverse, ?_, fun segment hmem => hdone segment (List.mem_reverse.mp hmem)⟩
    simp [resolveDots, hname.not_dots, percentEncode_name hname.plain]
  | cons segment segments ih =>
    have hmore : (segments ++ [name]).isEmpty = false := by simp
    have habove : ∀ segment ∈ placeAbove done, '?' ∉ segment := by
      intro segment hmem
      apply hdone
      cases done with
      | nil => exact hmem
      | cons last done =>
        rw [placeAbove] at hmem
        split at hmem
        next => exact hmem
        next => exact List.mem_cons_of_mem _ hmem
    rw [List.cons_append, resolveDots]
    simp only [hmore, Bool.false_eq_true, if_false]
    split
    next => exact ih _ habove
    next =>
      split
      next => exact ih _ hdone
      next =>
        apply ih
        rintro _ (_ | ⟨_, hmem⟩)
        · exact question_notMem_percentEncode segment
        · exact hdone _ hmem

/-- Segments are written with the last one at the end. -/
lemma writePath_name (front : List (List Char)) (hfront : ∀ segment ∈ front, '?' ∉ segment) :
    ∃ before, (writePath (front ++ [name])).toList = before ++ '/' :: name ∧ '?' ∉ before := by
  simp only [writePath, String.toList_ofList]
  induction front with
  | nil => exact ⟨[], by simp, by simp⟩
  | cons segment front ih =>
    obtain ⟨before, hbefore, hmark⟩ := ih fun segment hmem =>
      hfront segment (List.mem_cons_of_mem _ hmem)
    refine ⟨'/' :: (segment ++ before), ?_, ?_⟩
    · obtain ⟨next, more, hmore⟩ := List.exists_cons_of_ne_nil
        (List.append_ne_nil_of_right_ne_nil front (List.cons_ne_nil name []))
      rw [List.cons_append, hmore, List.intercalate_cons_cons, ← hmore]
      simp [← hbefore]
    · simp [hmark, hfront segment List.mem_cons_self]

/-- A name has neither slashes nor backslashes and so is one segment. -/
lemma splitOn_name (hname : IsName name) :
    Text.splitOn '/' (unifySlashes kind name) = [name] := by
  have hunify : unifySlashes kind name = name := by
    unfold unifySlashes
    split
    next =>
      have hnone : '\\' ∉ name := hname.notMem (by decide)
      have hkeep : ∀ c ∈ name, (if c = '\\' then '/' else c) = id c := fun c hc =>
        if_neg fun (heq : c = '\\') => hnone (heq ▸ hc)
      rw [List.map_congr_left hkeep, List.map_id]
    next => rfl
  rw [hunify, Text.splitOn_of_not_mem (hname.notMem (by decide))]

lemma dropSlash_cases (kind : SchemeKind) (cs : List Char) :
    dropSlash kind cs = cs ∨ dropSlash kind cs = cs.tail := by
  fun_cases dropSlash kind cs <;> simp

/-- **A path that ends in a name still ends in it in its usual form.** -/
lemma hostPath_name (kind : SchemeKind) (hname : IsName name) (cs : List Char) :
    ∃ before, (hostPath kind (cs ++ '/' :: name)).toList = before ++ '/' :: name ∧
      '?' ∉ before := by
  -- a slash is dropped at the beginning, which may be the one before the name
  have hdrop : dropSlash kind (cs ++ '/' :: name) = name ∨
      ∃ cs', dropSlash kind (cs ++ '/' :: name) = cs' ++ '/' :: name := by
    rcases dropSlash_cases kind (cs ++ '/' :: name) with hdrop | hdrop
    · exact Or.inr ⟨cs, hdrop⟩
    · cases cs with
      | nil => exact Or.inl hdrop
      | cons c cs => exact Or.inr ⟨cs, hdrop⟩
  have hsegments : ∃ segments, Text.splitOn '/' (unifySlashes kind
      (dropSlash kind (cs ++ '/' :: name))) = segments ++ [name] := by
    rcases hdrop with hdrop | ⟨cs', hdrop⟩
    · exact ⟨[], by rw [hdrop, splitOn_name hname, List.nil_append]⟩
    · have hunify : unifySlashes kind (cs' ++ '/' :: name) =
          unifySlashes kind cs' ++ '/' :: unifySlashes kind name := by
        unfold unifySlashes
        split <;> simp
      exact ⟨_, by rw [hdrop, hunify, Text.splitOn_append, splitOn_name hname]⟩
  obtain ⟨segments, hsegments⟩ := hsegments
  have hfilled : ¬((cs ++ '/' :: name).isEmpty ∧ !kind.isSpecial) := by simp
  obtain ⟨front, hresolved, hfront⟩ := resolveDots_name hname segments [] (by simp)
  rw [hostPath, if_neg hfilled, pathSegments, hsegments, hresolved]
  exact writePath_name front hfront

end AnnotationReview.Url
