import AnnotationReview.Proofs.Text.Split
import AnnotationReview.Proofs.Url.Path
import AnnotationReview.Url.Parse
import Mathlib.Data.List.DropRight

/-!
# URLs below a root

A name below a root is a URL on the same host, and its path ends in the name.  The text of the root
may have blanks at its ends, breaks anywhere and any number of slashes behind it; of these, only
blanks at the end of the root's text can do harm, as they come to stand in the middle of the text
of the URL below.
-/

namespace AnnotationReview.Url

variable {kind : SchemeKind} {name cs more rest letters : List Char} {c : Char} {p : Char → Bool}
  {base scheme : String} {root : Url}

/-! ## The beginning of a text -/

lemma takeWhile_append_of_neg (hc : p c = false) (cs more : List Char) :
    (cs ++ c :: more).takeWhile p = cs.takeWhile p := by
  induction cs with
  | nil => exact List.takeWhile_cons_of_neg (by simp [hc])
  | cons first cs ih => simp only [List.cons_append, List.takeWhile_cons, ih]

lemma dropWhile_append_of_neg (hc : p c = false) (cs more : List Char) :
    (cs ++ c :: more).dropWhile p = cs.dropWhile p ++ c :: more := by
  induction cs with
  | nil => exact List.dropWhile_cons_of_neg (by simp [hc])
  | cons first cs ih =>
    simp only [List.cons_append, List.dropWhile_cons, ih]
    split <;> rfl

lemma dropWhile_append_of_mem (hcs : ∃ c ∈ cs, p c = false) (more : List Char) :
    (cs ++ more).dropWhile p = cs.dropWhile p ++ more ∧ cs.dropWhile p ≠ [] := by
  obtain ⟨c, hmem, hc⟩ := hcs
  obtain ⟨front, back, rfl⟩ := List.append_of_mem hmem
  rw [List.append_assoc, List.cons_append, dropWhile_append_of_neg hc, dropWhile_append_of_neg hc]
  simp

/-! ## Blanks and breaks -/

/-- A blank at the end of a text that is read as a URL. -/
def isOuterBlank (c : Char) : Bool := c.toNat ≤ 32

/-- Not a break; breaks are left out wherever they stand. -/
def isUnbroken (c : Char) : Bool := c != '\t' && c != '\n' && c != '\r'

/-- A text without the blanks at its beginning and without breaks. -/
def cleanFront (cs : List Char) : List Char := (cs.dropWhile isOuterBlank).filter isUnbroken

/-- Only blanks can stand behind the clean text, and none do if the text ends otherwise. -/
lemma cleanFront_eq (cs : List Char) :
    ∃ blanks, cleanFront cs = clean cs ++ blanks ∧ (∀ c ∈ blanks, isOuterBlank c = true) ∧
      ((∀ c ∈ cs.getLast?, isOuterBlank c = false) → blanks = []) := by
  set front := cs.dropWhile isOuterBlank with hfront
  have hclean : clean cs = (front.rdropWhile isOuterBlank).filter isUnbroken := rfl
  refine ⟨(front.rtakeWhile isOuterBlank).filter isUnbroken, ?_, ?_, ?_⟩
  · rw [hclean, ← List.filter_append, List.rdropWhile_append_rtakeWhile]
    rfl
  · exact fun c hc => List.mem_rtakeWhile_imp (List.mem_of_mem_filter hc)
  · intro hends
    have hnone : front.rtakeWhile isOuterBlank = [] := by
      rw [List.rtakeWhile_eq_nil_iff]
      intro hfilled
      have hsuffix : front <:+ cs := List.dropWhile_suffix _
      rw [hsuffix.getLast hfilled, hends _ (List.getLast?_eq_some_getLast _)]
      exact Bool.false_ne_true
    rw [hnone]
    rfl

lemma cleanFront_append (hcs : ∃ c ∈ cs, isOuterBlank c = false)
    (hmore : ∀ c ∈ more, isUnbroken c = true) :
    cleanFront (cs ++ more) = cleanFront cs ++ more := by
  rw [cleanFront, (dropWhile_append_of_mem hcs more).1, List.filter_append,
    List.filter_eq_self.mpr hmore]
  rfl

/-! ## Authorities -/

/-- A slash ends an authority, and what stands behind it is the end of the path. -/
lemma Authority.read?_append (kind : SchemeKind) (cs more : List Char) :
    Authority.read? kind (cs ++ '/' :: more) =
      (Authority.read? kind cs).map fun (authority, path) => (authority, path ++ '/' :: more) := by
  have hends : (fun c => !endsAuthority kind c) '/' = false := by simp [endsAuthority]
  unfold Authority.read?
  rw [takeWhile_append_of_neg hends, dropWhile_append_of_neg hends]
  simp only [Option.bind_eq_bind, Option.pure_def, Option.bind_some, Option.bind_none]
  -- with a user and without one, the path is left as it is
  cases splitUser? (cs.takeWhile fun c => !endsAuthority kind c) with
  | none => simp only [Option.map_bind, Function.comp_def, Option.map_some, List.append_assoc]
  | some parts =>
    obtain ⟨_ | ⟨c, user⟩, place⟩ := parts
    · cases place with
      | nil => rfl
      | cons c place =>
        simp only [Option.map_bind, Function.comp_def, Option.map_some, List.append_assoc]
    · simp only [Option.map_bind, Function.comp_def, Option.map_some, List.append_assoc]

/-- Where a host is required, something has to stand for it. -/
lemma Authority.read?_nil (port : Nat) : Authority.read? (.special port) [] = none := by
  rfl

/-! ## Schemes -/

/-- What stands behind the colon is no matter to the scheme. -/
lemma splitScheme?_eq_some (hsplit : splitScheme? cs = some (scheme, rest)) :
    ∃ letters, cs = letters ++ ':' :: rest ∧
      ∀ rest', splitScheme? (letters ++ ':' :: rest') = some (scheme, rest') := by
  unfold splitScheme? at hsplit
  split at hsplit
  next first letters rest htake hdrop =>
    split at hsplit
    next halpha =>
      cases hsplit
      have hcolon : isSchemeChar ':' = false := by decide
      have hletters : ∀ c ∈ first :: letters, isSchemeChar c = true := fun c hc =>
        List.mem_takeWhile_imp (by rw [htake]; exact hc)
      refine ⟨first :: letters, ?_, fun rest' => ?_⟩
      · rw [← htake, ← hdrop, List.takeWhile_append_dropWhile]
      · rw [splitScheme?, takeWhile_append_of_neg hcolon, dropWhile_append_of_neg hcolon,
          List.takeWhile_eq_self_iff.mpr hletters, List.dropWhile_eq_nil_iff.mpr hletters]
        exact if_pos halpha
    next => cases hsplit
  next => cases hsplit

/-! ## A text without query and fragment -/

lemma splitAt_of_notMem {separator : Char} (hnone : separator ∉ cs) :
    splitAt separator cs = (cs, none) := by
  rw [splitAt, Text.splitFirst?_eq_none.mpr hnone]

lemma splitAt_eq {separator : Char} (hnone : (splitAt separator cs).2 = none) :
    separator ∉ cs ∧ splitAt separator cs = (cs, none) := by
  have hmem : separator ∉ cs := by
    rw [← Text.splitFirst?_eq_none]
    unfold splitAt at hnone
    split at hnone
    next => cases hnone
    next hsplit => exact hsplit
  exact ⟨hmem, splitAt_of_notMem hmem⟩

/-- A slash or a backslash, as they may stand before a host. -/
def isSlash (c : Char) : Bool := c == '/' || c == '\\'

/-- The URL of a place, which is an authority and a path behind it. -/
def ofPlace (scheme : String) (port : Nat) (place : Authority × List Char) : Url :=
  ⟨scheme, some place.1, hostPath (.special port) place.2, none, none⟩

/-- A text with a scheme of the web, and neither query nor fragment, is read as an authority and a
path. -/
lemma parse?_eq {text : String} {port : Nat}
    (hscheme : splitScheme? (clean text.toList) = some (scheme, rest))
    (hkind : SchemeKind.of scheme = .special port) (hhash : '#' ∉ rest) (hquestion : '?' ∉ rest) :
    parse? text = (Authority.read? (.special port) (rest.dropWhile isSlash)).map
      (ofPlace scheme port) := by
  have hplace : place? (.special port) rest =
      (Authority.read? (.special port) (rest.dropWhile isSlash)).map fun (authority, path) =>
        (some authority, hostPath (.special port) path) := by
    rw [place?, Option.map_eq_bind]
    rfl
  simp only [parse?, hscheme, Option.bind_eq_bind, Option.bind_some, splitAt_of_notMem hhash,
    splitAt_of_notMem hquestion, hkind, hplace, Option.map_none, Option.pure_def]
  cases Authority.read? (.special port) (rest.dropWhile isSlash) <;> rfl

/-- Where the query and the fragment of a URL come from. -/
lemma parse?_eq_some (hparse : parse? base = some root) :
    ∃ rest, splitScheme? (clean base.toList) = some (root.scheme, rest) ∧
      root.query? = (splitAt '?' (splitAt '#' rest).1).2.map (fun query => String.ofList
        (percentEncode (keptInQuery (SchemeKind.of root.scheme).isSpecial) query)) ∧
      root.fragment? = (splitAt '#' rest).2.map fun fragment =>
        String.ofList (percentEncode keptInFragment fragment) := by
  unfold parse? at hparse
  obtain ⟨⟨scheme, rest⟩, hsplit, hread⟩ := Option.bind_eq_some_iff.mp hparse
  obtain ⟨place, -, hread⟩ := Option.bind_eq_some_iff.mp hread
  cases Option.some.inj hread
  exact ⟨rest, hsplit, rfl, rfl⟩

/-! ## Roots -/

/-- The text denotes a root on the web, which has a host and nothing behind its path. -/
structure IsRoot (base : String) (root : Url) : Prop where
  read : parse? base = some root
  onWeb : root.scheme = "http" ∨ root.scheme = "https"
  hosted : root.hasHost = true
  noQuery : root.query? = none
  noFragment : root.fragment? = none

/-- The parts of the text of a root. -/
structure Anatomy (base : String) (root : Url) (letters rest : List Char) (port : Nat) : Prop where
  clean : clean base.toList = letters ++ ':' :: rest
  scheme : ∀ rest', splitScheme? (letters ++ ':' :: rest') = some (root.scheme, rest')
  kind : SchemeKind.of root.scheme = .special port
  noHash : '#' ∉ rest
  noQuestion : '?' ∉ rest
  read : ∃ authority path, root.authority? = some authority ∧
    Authority.read? (.special port) (rest.dropWhile isSlash) = some (authority, path)

lemma IsRoot.anatomy (hroot : IsRoot base root) :
    ∃ letters rest port, Anatomy base root letters rest port := by
  have hkind : ∃ port, SchemeKind.of root.scheme = .special port := by
    rcases hroot.onWeb with honWeb | honWeb
    · exact ⟨80, by rw [honWeb]; rfl⟩
    · exact ⟨443, by rw [honWeb]; rfl⟩
  obtain ⟨port, hkind⟩ := hkind
  obtain ⟨rest, hsplit, hquery, hfragment⟩ := parse?_eq_some hroot.read
  obtain ⟨hhash, hsplitHash⟩ :=
    splitAt_eq (Option.map_eq_none_iff.mp (hfragment.symm.trans hroot.noFragment))
  rw [hsplitHash] at hquery
  obtain ⟨hquestion, -⟩ :=
    splitAt_eq (Option.map_eq_none_iff.mp (hquery.symm.trans hroot.noQuery))
  obtain ⟨letters, hclean, hletters⟩ := splitScheme?_eq_some hsplit
  have hwhole := hroot.read
  rw [parse?_eq hsplit hkind hhash hquestion] at hwhole
  obtain ⟨⟨authority, path⟩, hauthority, hurl⟩ := Option.map_eq_some_iff.mp hwhole
  exact ⟨letters, rest, port, hclean, hletters, hkind, hhash, hquestion, authority, path,
    by rw [← hurl, ofPlace], hauthority⟩

/-! ## Below a root -/

/-- What a text holds in front of a character that is no slash is in front of the slashes at its
end. -/
lemma exists_of_append_slashes {n : Nat} {front back : List Char} (hc : c ≠ '/')
    (heq : cs ++ List.replicate n '/' = front ++ c :: back) :
    ∃ back', cs = front ++ c :: back' ∧ back' ++ List.replicate n '/' = back := by
  rcases List.append_eq_append_iff.mp heq with ⟨middle, hfront, hslashes⟩ | ⟨middle, hcs, hback⟩
  · have hmem : c ∈ List.replicate n '/' := by
      rw [hslashes]
      exact List.mem_append_right _ List.mem_cons_self
    exact absurd (List.eq_of_mem_replicate hmem) hc
  · cases middle with
    | nil =>
      have hmem : c ∈ List.replicate n '/' := by
        rw [← List.nil_append (List.replicate n '/'), ← hback]
        exact List.mem_cons_self
      exact absurd (List.eq_of_mem_replicate hmem) hc
    | cons first middle =>
      obtain ⟨rfl, rfl⟩ := List.cons.inj hback
      exact ⟨middle, hcs, rfl⟩

/-- A name behind a slash is left as it is, and so is what stands before it. -/
lemma clean_name (hname : IsName name) (hcs : ∃ c ∈ cs, isOuterBlank c = false) :
    clean (cs ++ '/' :: name) = cleanFront cs ++ '/' :: name := by
  have hplain : ∀ c ∈ '/' :: name, isUnbroken c = true ∧ isOuterBlank c = false := by
    rintro c (_ | ⟨_, hc⟩)
    · decide
    · exact (hname.plain c hc).of_all (p := fun c => isUnbroken c = true ∧ isOuterBlank c = false)
        (by decide)
  obtain ⟨blanks, hfront, -, hends⟩ := cleanFront_eq (cs ++ '/' :: name)
  have hnone : blanks = [] := by
    apply hends
    intro c hc
    rw [List.getLast?_append_of_ne_nil _ (List.cons_ne_nil _ _)] at hc
    exact (hplain c (List.mem_of_getLast? hc)).2
  rw [hnone, List.append_nil] at hfront
  rw [← hfront, cleanFront_append hcs fun c hc => (hplain c hc).1]

lemma mem_of_mem_clean (hc : c ∈ clean cs) : c ∈ cs :=
  (List.dropWhile_suffix _).subset ((List.rdropWhile_prefix isOuterBlank _).subset
    (List.mem_of_mem_filter hc))

/-- What stands before the slashes at the end of the text of a root is itself such a text, but for
blanks that come to its end. -/
lemma Anatomy.withoutSlashes {port n : Nat} {front : String}
    (hroot : Anatomy base root letters rest port)
    (hfront : base.toList = front.toList ++ List.replicate n '/') :
    (∃ c ∈ front.toList, isOuterBlank c = false) ∧
    ∃ rest' blanks, cleanFront front.toList = letters ++ ':' :: rest' ∧
      rest' ++ List.replicate n '/' = rest ++ blanks ∧
      (∀ c ∈ blanks, isOuterBlank c = true) ∧
      ((∀ c ∈ base.toList.getLast?, isOuterBlank c = false) → blanks = []) := by
  have hcolon : ':' ∈ front.toList := by
    have hmem : ':' ∈ base.toList :=
      mem_of_mem_clean (by rw [hroot.clean]; exact List.mem_append_right _ List.mem_cons_self)
    rw [hfront] at hmem
    rcases List.mem_append.mp hmem with hmem | hmem
    · exact hmem
    · exact absurd (List.eq_of_mem_replicate hmem) (by decide)
  have hmarked : ∃ c ∈ front.toList, isOuterBlank c = false := ⟨':', hcolon, by decide⟩
  obtain ⟨blanks, hwhole, hblanks, hends⟩ := cleanFront_eq base.toList
  have hslashes : ∀ c ∈ List.replicate n '/', isUnbroken c = true := by
    intro c hc
    rw [List.eq_of_mem_replicate hc]
    decide
  have heq : cleanFront front.toList ++ List.replicate n '/' =
      letters ++ ':' :: (rest ++ blanks) := by
    rw [← cleanFront_append hmarked hslashes, ← hfront, hwhole, hroot.clean, List.append_assoc,
      List.cons_append]
  obtain ⟨rest', hclean, hrest⟩ := exists_of_append_slashes (by decide) heq
  exact ⟨hmarked, rest', blanks, hclean, hrest, hblanks, hends⟩

/-- Every URL below a root is on the host of the root, if the text of the root does not end in a
blank; and if it does, whether there is any URL below it does not depend on the name. -/
lemma IsRoot.below {n : Nat} {front : String} (hroot : IsRoot base root)
    (hfront : base.toList = front.toList ++ List.replicate n '/') :
    ∃ (place? : Option (Authority × List Char)) (port : Nat),
      (∀ name, IsName name → parse? (front ++ "/" ++ String.ofList name) =
        place?.map fun place => ofPlace root.scheme port (place.1, place.2 ++ '/' :: name)) ∧
      ((∀ c ∈ base.toList.getLast?, isOuterBlank c = false) →
        ∃ authority path, root.authority? = some authority ∧
          place? = some (authority, path)) := by
  obtain ⟨letters, rest, port, hanatomy⟩ := hroot.anatomy
  obtain ⟨hmarked, rest', blanks, hclean, hrest, hblanks, hends⟩ :=
    hanatomy.withoutSlashes hfront
  obtain ⟨authority, path, hauthority, hread⟩ := hanatomy.read
  -- a host begins behind the slashes after the scheme
  have hhost : ∃ c ∈ rest', isSlash c = false := by
    have hmem : ∃ c ∈ rest, isSlash c = false := by
      by_contra hall
      have hslashes : rest.dropWhile isSlash = [] := List.dropWhile_eq_nil_iff.mpr fun c hc => by
        simpa using fun hslash => hall ⟨c, hc, hslash⟩
      rw [hslashes, Authority.read?_nil] at hread
      cases hread
    obtain ⟨c, hmem, hc⟩ := hmem
    have hmem' : c ∈ rest' ++ List.replicate n '/' := hrest ▸ List.mem_append_left _ hmem
    rcases List.mem_append.mp hmem' with hmem | hmem
    · exact ⟨c, hmem, hc⟩
    · rw [List.eq_of_mem_replicate hmem] at hc
      cases hc
  have hnone : ∀ c, isOuterBlank c = false → c ∉ rest → c ∉ rest' := by
    intro c hc hnone hmem
    have hmem' : c ∈ rest ++ blanks := hrest ▸ List.mem_append_left _ hmem
    rcases List.mem_append.mp hmem' with hmem | hmem
    · exact hnone hmem
    · rw [hblanks c hmem] at hc
      cases hc
  refine ⟨Authority.read? (.special port) (rest'.dropWhile isSlash), port, fun name hname => ?_,
    fun hlast => ?_⟩
  · have htext : clean (front ++ "/" ++ String.ofList name).toList =
        letters ++ ':' :: (rest' ++ '/' :: name) := by
      have hsplit : (front ++ "/" ++ String.ofList name).toList = front.toList ++ '/' :: name := by
        simp
      rw [hsplit, clean_name hname hmarked, hclean, List.append_assoc, List.cons_append]
    have hmark : ∀ c, isOuterBlank c = false → c ≠ '/' → ¬IsNameChar c → c ∉ rest →
        c ∉ rest' ++ '/' :: name := by
      intro c hc hslash hletter hrest
      simp [hnone c hc hrest, hslash, hname.notMem hletter]
    have hscheme := hanatomy.scheme (rest' ++ '/' :: name)
    rw [← htext] at hscheme
    rw [parse?_eq hscheme hanatomy.kind
      (hmark '#' (by decide) (by decide) (by decide) hanatomy.noHash)
      (hmark '?' (by decide) (by decide) (by decide) hanatomy.noQuestion),
      (dropWhile_append_of_mem hhost _).1, Authority.read?_append, Option.map_map]
    rfl
  · refine ⟨authority, ?_⟩
    obtain rfl := hends hlast
    rw [List.append_nil] at hrest
    rw [← hrest, (dropWhile_append_of_mem hhost _).1] at hread
    cases n with
    | zero => exact ⟨path, hauthority, by simpa using hread⟩
    | succ n =>
      rw [List.replicate_succ, Authority.read?_append] at hread
      obtain ⟨⟨authority', path'⟩, hread', hplace⟩ := Option.map_eq_some_iff.mp hread
      cases hplace
      exact ⟨path', hauthority, hread'⟩

end AnnotationReview.Url
