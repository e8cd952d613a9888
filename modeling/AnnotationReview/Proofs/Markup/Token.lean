import AnnotationReview.Markup.Token
import AnnotationReview.Proofs.Markup.Escape
import Mathlib.Data.List.Forall2

/-!
# Written tokens are read back

A list of tokens is written one after the other, and the scanner gives it back, except that runs of
text which meet become one and empty ones are lost (`scan_write`).  This asks no more of the tokens
than that they hold no character at which the scanner would take them for finished
(`Token.Legal`); what they say is otherwise free.

Two readings of tokens go with this.  `Token.shape?` keeps what a text and a value cannot be allowed
to change, and `Token.unescaped` reads the entities of texts and values back.
-/

namespace AnnotationReview.Markup.Token

/-! ## Writing -/

/-- An attribute with the space before it. -/
def writeAttribute : List Char × Option (List Char) → List Char
  | (name, none) => ' ' :: name
  | (name, some value) => ' ' :: name ++ '=' :: '"' :: value ++ ['"']

/-- The characters of a token. -/
def write : Token → List Char
  | .text content => content
  | .opening tag attributes => '<' :: tag ++ attributes.flatMap writeAttribute ++ ['>']
  | .closing tag => '<' :: '/' :: tag ++ ['>']

/-- A name that ends where the scanner takes it to end. -/
def IsName (name : List Char) : Prop :=
  name ≠ [] ∧ ∀ c ∈ name, c ∉ [' ', '<', '>', '/', '=', '"']

instance (name : List Char) : Decidable (IsName name) :=
  inferInstanceAs (Decidable (_ ∧ _))

/-- The token holds nothing that would end it early. -/
inductive Legal : Token → Prop where
  | text {content : List Char} (hopen : '<' ∉ content) : Legal (.text content)
  | opening {tag : List Char} {attributes : List (List Char × Option (List Char))}
      (htag : IsName tag) (hnames : ∀ a ∈ attributes, IsName a.1)
      (hvalues : ∀ a ∈ attributes, ∀ value ∈ a.2, '"' ∉ value) :
      Legal (.opening tag attributes)
  | closing {tag : List Char} (htag : IsName tag) : Legal (.closing tag)

/-- Tokens in which no two runs of text meet and none is empty; `seen` is text that was read before
them. -/
def joinFrom (seen : List Char) : List Token → List Token
  | [] => ofContent seen
  | .text content :: tokens => joinFrom (seen ++ content) tokens
  | token :: tokens => ofContent seen ++ token :: joinFrom [] tokens

/-- Tokens in which no two runs of text meet and none is empty. -/
def join (tokens : List Token) : List Token :=
  joinFrom [] tokens

/-! ## Scanning -/

variable {place next : Place} {c : Char} {cs rest : List Char} {tokens : List Token}

lemma scanFrom_cons (hstep : step place c = some (tokens, next)) :
    scanFrom place (c :: rest) = (scanFrom next rest).map (tokens ++ ·) := by
  simp only [scanFrom, hstep, Option.bind_eq_bind, Option.bind_some]
  cases scanFrom next rest <;> rfl

/-- A character that completes nothing. -/
lemma scanFrom_cons_silent (hstep : step place c = some ([], next)) :
    scanFrom place (c :: rest) = scanFrom next rest := by
  rw [scanFrom_cons hstep]
  cases scanFrom next rest <;> rfl

/-- A run of characters that the scanner collects. -/
lemma scanFrom_run {collect : List Char → Place} {seen : List Char}
    (hstep : ∀ seen, ∀ c ∈ cs, step (collect seen) c = some ([], collect (seen ++ [c]))) :
    scanFrom (collect seen) (cs ++ rest) = scanFrom (collect (seen ++ cs)) rest := by
  induction cs generalizing seen with
  | nil => rw [List.append_nil, List.nil_append]
  | cons c cs ih =>
    rw [List.cons_append, scanFrom_cons_silent (hstep seen c List.mem_cons_self),
      ih fun seen d hd => hstep seen d (List.mem_cons_of_mem _ hd), List.append_assoc,
      List.singleton_append]

/-- Nothing in a name means anything to the scanner. -/
lemma ne_of_isName {name : List Char} (hname : IsName name) (hmem : c ∈ name) :
    c ≠ ' ' ∧ c ≠ '<' ∧ c ≠ '>' ∧ c ≠ '/' ∧ c ≠ '=' ∧ c ≠ '"' := by
  simpa using hname.2 c hmem

lemma scanFrom_content (hopen : '<' ∉ cs) (seen : List Char) :
    scanFrom (.content seen) (cs ++ rest) = scanFrom (.content (seen ++ cs)) rest := by
  refine scanFrom_run fun seen c hmem => ?_
  have hplain : c ≠ '<' := fun hsame => hopen (hsame ▸ hmem)
  simp [step, hplain]

lemma scanFrom_tagName {tag : List Char} (htag : IsName tag) :
    scanFrom .tagStart (tag ++ rest) = scanFrom (.tagName tag) rest := by
  obtain ⟨hsome, -⟩ := id htag
  cases tag with
  | nil => exact absurd rfl hsome
  | cons c tag =>
    obtain ⟨hspace, hless, hgreater, hslash, -⟩ := ne_of_isName htag List.mem_cons_self
    have hstart : step .tagStart c = some ([], .tagName [c]) := by
      simp [step, hspace, hless, hgreater, hslash]
    rw [List.cons_append, scanFrom_cons_silent hstart, scanFrom_run fun seen d hmem => ?_]
    · rfl
    · obtain ⟨hspace, hless, hgreater, -⟩ := ne_of_isName htag (List.mem_cons_of_mem _ hmem)
      simp [step, hspace, hless, hgreater]

lemma scanFrom_attributeName {name : List Char} (hname : IsName name) (tag : List Char)
    (done : List (List Char × Option (List Char))) :
    scanFrom (.attributeName tag done []) (name ++ rest) =
      scanFrom (.attributeName tag done name) rest := by
  refine scanFrom_run fun seen c hmem => ?_
  obtain ⟨hspace, hless, hgreater, -, hequals, hquote⟩ := ne_of_isName hname hmem
  simp [step, hspace, hless, hgreater, hequals, hquote]

lemma scanFrom_attributeValue {value : List Char} (hvalue : '"' ∉ value) (tag : List Char)
    (done : List (List Char × Option (List Char))) (name : List Char) :
    scanFrom (.attributeValue tag done name []) (value ++ rest) =
      scanFrom (.attributeValue tag done name value) rest := by
  refine scanFrom_run fun seen c hmem => ?_
  have hplain : c ≠ '"' := fun hsame => hvalue (hsame ▸ hmem)
  simp [step, hplain]

/-- At the place an opening tag may end or go on with another attribute, the attributes read so far
being `done`. -/
structure Ends (place : Place) (tag : List Char)
    (done : List (List Char × Option (List Char))) : Prop where
  closes : step place '>' = some ([.opening tag done], .content [])
  continues : step place ' ' = some ([], .attributeName tag done [])

/-- The rest of an opening tag. -/
lemma scanFrom_attributes {tag : List Char} {done : List (List Char × Option (List Char))}
    {attributes : List (List Char × Option (List Char))} (hends : Ends place tag done)
    (hnames : ∀ a ∈ attributes, IsName a.1)
    (hvalues : ∀ a ∈ attributes, ∀ value ∈ a.2, '"' ∉ value) :
    scanFrom place (attributes.flatMap writeAttribute ++ '>' :: rest) =
      (scanFrom (.content []) rest).map (.opening tag (done ++ attributes) :: ·) := by
  induction attributes generalizing place done with
  | nil =>
    rw [List.append_nil]
    exact scanFrom_cons hends.closes
  | cons a attributes ih =>
    obtain ⟨hname, hmoreNames⟩ := List.forall_mem_cons.mp hnames
    obtain ⟨hvalue, hmoreValues⟩ := List.forall_mem_cons.mp hvalues
    rw [List.flatMap_cons, List.append_assoc]
    obtain ⟨name, _ | value⟩ := a
    · have hnext : Ends (.attributeName tag done name) tag (done ++ [(name, none)]) :=
        ⟨by simp [step], by simp [step]⟩
      have hrest := ih hnext hmoreNames hmoreValues
      rw [writeAttribute, List.cons_append, scanFrom_cons_silent hends.continues,
        scanFrom_attributeName hname, hrest, List.append_assoc, List.singleton_append]
    · have hnext : Ends (.attributeEnd tag (done ++ [(name, some value)])) tag
          (done ++ [(name, some value)]) := ⟨by simp [step], by simp [step]⟩
      have hrest := ih hnext hmoreNames hmoreValues
      have hequals : step (.attributeName tag done name) '=' =
          some ([], .attributeValueStart tag done name) := by simp [step]
      have hopened : step (.attributeValueStart tag done name) '"' =
          some ([], .attributeValue tag done name []) := by simp [step]
      have hclosed : step (.attributeValue tag done name value) '"' =
          some ([], .attributeEnd tag (done ++ [(name, some value)])) := by simp [step]
      simp only [writeAttribute, List.cons_append, List.append_assoc, List.nil_append]
      rw [scanFrom_cons_silent hends.continues, scanFrom_attributeName hname,
        scanFrom_cons_silent hequals, scanFrom_cons_silent hopened,
        scanFrom_attributeValue (hvalue value rfl), scanFrom_cons_silent hclosed, hrest,
        List.append_assoc, List.singleton_append]

/-- An opening tag ends the text before it. -/
lemma scanFrom_opening {tag : List Char} {attributes : List (List Char × Option (List Char))}
    (hlegal : (Token.opening tag attributes).Legal) (seen : List Char) :
    scanFrom (.content seen) ((Token.opening tag attributes).write ++ rest) =
      (scanFrom (.content []) rest).map (ofContent seen ++ .opening tag attributes :: ·) := by
  obtain ⟨⟩ | ⟨htag, hnames, hvalues⟩ | ⟨⟩ := hlegal
  have hstart : step (.content seen) '<' = some (ofContent seen, .tagStart) := by simp [step]
  have hends : Ends (.tagName tag) tag [] := ⟨by simp [step], by simp [step]⟩
  simp only [write, List.cons_append, List.append_assoc, List.nil_append]
  rw [scanFrom_cons hstart, scanFrom_tagName htag, scanFrom_attributes hends hnames hvalues,
    Option.map_map]
  rfl

/-- A closing tag ends the text before it. -/
lemma scanFrom_closing {tag : List Char} (htag : IsName tag) (seen : List Char) :
    scanFrom (.content seen) ((Token.closing tag).write ++ rest) =
      (scanFrom (.content []) rest).map (ofContent seen ++ .closing tag :: ·) := by
  have hstart : step (.content seen) '<' = some (ofContent seen, .tagStart) := by simp [step]
  have hslash : step .tagStart '/' = some ([], .closingTag []) := by simp [step]
  have hname : scanFrom (.closingTag []) (tag ++ '>' :: rest) =
      scanFrom (.closingTag tag) ('>' :: rest) := by
    refine scanFrom_run fun seen c hmem => ?_
    obtain ⟨-, hless, hgreater, -⟩ := ne_of_isName htag hmem
    simp [step, hless, hgreater]
  have hend : step (.closingTag tag) '>' = some ([.closing tag], .content []) := by simp [step]
  simp only [write, List.cons_append, List.append_assoc, List.nil_append]
  rw [scanFrom_cons hstart, scanFrom_cons_silent hslash, hname, scanFrom_cons hend, Option.map_map]
  rfl

lemma scanFrom_write (hlegal : ∀ token ∈ tokens, token.Legal) (seen : List Char) :
    scanFrom (.content seen) (tokens.flatMap write) = some (joinFrom seen tokens) := by
  induction tokens generalizing seen with
  | nil => rfl
  | cons token tokens ih =>
    obtain ⟨hfirst, hrest⟩ := List.forall_mem_cons.mp hlegal
    rw [List.flatMap_cons]
    cases token with
    | text content =>
      cases hfirst with
      | text hopen =>
        rw [write, scanFrom_content hopen, ih hrest]
        rfl
    | opening tag attributes =>
      rw [scanFrom_opening hfirst, ih hrest]
      rfl
    | closing tag =>
      cases hfirst with
      | closing htag =>
        rw [scanFrom_closing htag, ih hrest]
        rfl

/-- Legal tokens are read back as they were written. -/
lemma scan_write (hlegal : ∀ token ∈ tokens, token.Legal) :
    scan (tokens.flatMap write) = some (join tokens) :=
  scanFrom_write hlegal []

/-! ## Shapes -/

/-- A tag without the values of its attributes. -/
inductive Shape where
  /-- The names of the attributes, and whether each has a value. -/
  | opening (tag : List Char) (attributes : List (List Char × Bool))
  | closing (tag : List Char)
deriving DecidableEq, Repr

/-- The shape of a tag; text has none. -/
def shape? : Token → Option Shape
  | .text _ => none
  | .opening tag attributes =>
    some (.opening tag (attributes.map fun a => (a.1, a.2.isSome)))
  | .closing tag => some (.closing tag)

lemma shapes_ofContent (seen : List Char) : (ofContent seen).filterMap shape? = [] := by
  cases seen <;> rfl

/-- Joining texts leaves the tags alone. -/
lemma shapes_joinFrom (seen : List Char) (tokens : List Token) :
    (joinFrom seen tokens).filterMap shape? = tokens.filterMap shape? := by
  induction tokens generalizing seen with
  | nil => exact shapes_ofContent seen
  | cons token tokens ih =>
    cases token with
    | text content => exact ih _
    | opening tag attributes => simp [joinFrom, shapes_ofContent, ih, shape?]
    | closing tag => simp [joinFrom, shapes_ofContent, ih, shape?]

/-! ## Reading the entities back -/

/-- Attributes with the entities of their values read back. -/
def unescapedAttributes (attributes : List (List Char × Option (List Char))) :
    List (List Char × Option (List Char)) :=
  attributes.map fun a => (a.1, a.2.map unescape)

/-- The token with the entities of texts and values read back. -/
def unescaped : Token → Token
  | .text content => .text (unescape content)
  | .opening tag attributes => .opening tag (unescapedAttributes attributes)
  | .closing tag => .closing tag

/-- The first token is the second one written with entities. -/
inductive Spells : Token → Token → Prop where
  | text {written content : List Char} (hread : ReadsAs written content) :
      Spells (.text written) (.text content)
  | opening (tag : List Char) (written : List (List Char × Option (List Char))) :
      Spells (.opening tag written) (.opening tag (unescapedAttributes written))
  | closing (tag : List Char) : Spells (.closing tag) (.closing tag)

/-- A run of text is read back; it is empty where what it spells is. -/
lemma unescaped_ofContent {seen content : List Char} (hread : ReadsAs seen content) :
    (ofContent seen).map unescaped = ofContent content := by
  obtain rfl := hread.unescape_eq
  cases seen with
  | nil => rfl
  | cons c cs =>
    have hsome : unescape (c :: cs) ≠ [] := by simp [unescape_eq_nil_iff]
    obtain ⟨d, ds, hread⟩ := List.exists_cons_of_ne_nil hsome
    show [Token.text (unescape (c :: cs))] = _
    rw [hread]
    rfl

/-- Tokens written with entities are read back, also where texts meet. -/
lemma unescaped_joinFrom {written tokens : List Token} {seen content : List Char}
    (hspells : List.Forall₂ Spells written tokens) (hseen : ReadsAs seen content) :
    (joinFrom seen written).map unescaped = joinFrom content tokens := by
  induction hspells generalizing seen content with
  | nil => exact unescaped_ofContent hseen
  | cons hfirst hrest ih =>
    cases hfirst with
    | text hread => exact ih (hseen.append hread)
    | opening => simp [joinFrom, unescaped_ofContent hseen, ih .nil, unescaped]
    | closing => simp [joinFrom, unescaped_ofContent hseen, ih .nil, unescaped]

end AnnotationReview.Markup.Token
