import AnnotationReview.Host.Settings
import AnnotationReview.Proofs.Text.Numeral
import AnnotationReview.Proofs.Text.Split
import Mathlib.Algebra.Group.Nat.Defs
import Mathlib.Data.List.Forall2

/-!
# With which variables a host starts

Four of the variables are numbers, and each is accepted if it is not set or is a numeral within the
range of its type (`NumericVariable.Accepts`).  The start ends at the first that is not accepted, in
a fixed order, and says what is wrong with its text (`StopsAt`); else the settings are those that
the variables tell (`Settings.ToldBy`).

The origins are the pieces of a list divided at its commas, without the blanks at their ends and
without the empty ones (`NamesOrigins`), so that none has a comma (`IsOrigin`) and the list that is
made of them by commas names them again (`namesOrigins_intercalate`).
-/

namespace AnnotationReview

namespace Host

/-! ## Numeric variables -/

/-- A variable whose value is an unsigned number of so many bits. -/
structure NumericVariable where
  name : String
  bits : Nat
  default : Nat

namespace NumericVariable

def port : NumericVariable := ⟨"PORT", 16, 3000⟩

def requestTimeout : NumericVariable := ⟨"REQUEST_TIMEOUT_SECS", 64, 30⟩

def backendTimeout : NumericVariable := ⟨"BACKEND_TIMEOUT_SECS", 64, 10⟩

def annotationIdle : NumericVariable := ⟨"ANNOTATION_IDLE_SECS", 64, 3600⟩

/-- The numeric variables, in the order in which they are read. -/
def inOrder : List NumericVariable := [port, requestTimeout, backendTimeout, annotationIdle]

/-- The variable is not set, or it is a numeral in range. -/
def Accepts (v : NumericVariable) (environment : Environment) : Prop :=
  ∀ text, environment.lookup v.name = some text → ∃ n, Text.Denotes text n ∧ n < 2 ^ v.bits

/-- The value of the variable: what its text denotes, and its default where it is not set. -/
inductive Gives (v : NumericVariable) (environment : Environment) : Nat → Prop where
  | unset (hunset : environment.lookup v.name = none) : Gives v environment v.default
  | set {text : String} {n : Nat} (hset : environment.lookup v.name = some text)
      (hdenotes : Text.Denotes text n) (hrange : n < 2 ^ v.bits) : Gives v environment n

/-- The variable is set to a text that is no number in range, for this reason. -/
def Refuses (v : NumericVariable) (environment : Environment) (fault : Text.NumeralError) : Prop :=
  ∃ text, environment.lookup v.name = some text ∧ Text.Fault (2 ^ v.bits - 1) text fault

/-- What comes of reading the variable. -/
def read (v : NumericVariable) (environment : Environment) : Except StartError Nat :=
  environment.number v.name v.bits v.default

variable {v : NumericVariable} {environment : Environment} {n : Nat} {error : StartError}

lemma lt_iff_le_greatestWord {bits : Nat} : n < 2 ^ bits ↔ n ≤ Text.greatestWord bits :=
  (Nat.le_sub_one_iff_lt (Nat.two_pow_pos bits)).symm

lemma read_eq_ok_iff : v.read environment = .ok n ↔ v.Gives environment n := by
  rw [read, Environment.number]
  cases hlookup : environment.lookup v.name with
  | none =>
    constructor
    · rintro ⟨⟩
      exact .unset hlookup
    · rintro (_ | ⟨hset, -, -⟩)
      · rfl
      · cases hlookup.symm.trans hset
  | some text =>
    constructor
    · intro hread
      dsimp only at hread
      split at hread
      next found hnumeral =>
        cases hread
        obtain ⟨hdenotes, hn⟩ := Text.readNumeral_eq_ok_iff.mp hnumeral
        exact .set hlookup hdenotes (lt_iff_le_greatestWord.mpr hn)
      next => cases hread
    · rintro (hunset | ⟨hset, hdenotes, hrange⟩)
      · cases hlookup.symm.trans hunset
      · cases hlookup.symm.trans hset
        have hnumeral := Text.readNumeral_eq_ok_iff.mpr
          ⟨hdenotes, lt_iff_le_greatestWord.mp hrange⟩
        simp only [hnumeral]

lemma read_eq_error_iff : v.read environment = .error error ↔
    ∃ fault, v.Refuses environment fault ∧ error = .badNumber v.name v.bits fault := by
  rw [read, Environment.number]
  cases hlookup : environment.lookup v.name with
  | none => simp [Refuses, hlookup]
  | some text =>
    constructor
    · intro hread
      dsimp only at hread
      split at hread
      next => cases hread
      next fault hnumeral =>
        cases hread
        exact ⟨fault, ⟨text, hlookup, Text.readNumeral_eq_error_iff.mp hnumeral⟩, rfl⟩
    · rintro ⟨fault, ⟨found, hset, hfault⟩, rfl⟩
      cases hlookup.symm.trans hset
      have hnumeral : Text.readNumeral (Text.greatestWord v.bits) text = .error fault :=
        Text.readNumeral_eq_error_iff.mpr hfault
      simp only [hnumeral]

/-- A variable that is accepted is one that can be read. -/
lemma accepts_iff : v.Accepts environment ↔ ∃ n, v.read environment = .ok n := by
  simp only [read_eq_ok_iff]
  constructor
  · intro haccepts
    cases hlookup : environment.lookup v.name with
    | none => exact ⟨_, .unset hlookup⟩
    | some text =>
      obtain ⟨n, hdenotes, hrange⟩ := haccepts text hlookup
      exact ⟨n, .set hlookup hdenotes hrange⟩
  · rintro ⟨n, hgives⟩ text hset
    cases hgives with
    | unset hunset => cases hset.symm.trans hunset
    | set hset' hdenotes hrange =>
      cases hset.symm.trans hset'
      exact ⟨n, hdenotes, hrange⟩

end NumericVariable

/-! ## Origins -/

/-- The origins that a list separated by commas names: its pieces without the blanks at their ends,
in order, and without those of which nothing is left. -/
def NamesOrigins (text : String) (origins : List String) : Prop :=
  ∃ pieces cores : List String, pieces ≠ [] ∧ ",".intercalate pieces = text ∧
    (∀ piece ∈ pieces, ',' ∉ piece.toList) ∧
    List.Forall₂ (fun piece core : String => Text.StripsTo Text.isBlank piece.toList core.toList)
      pieces cores ∧
    origins = cores.filter (· ≠ "")

/-- An origin that is not blank, has no blanks at its ends and no comma. -/
structure IsOrigin (origin : String) : Prop where
  nonempty : origin ≠ ""
  first : ∀ c ∈ origin.toList.head?, Text.isBlank c = false
  last : ∀ c ∈ origin.toList.getLast?, Text.isBlank c = false
  comma : ',' ∉ origin.toList

variable {text : String} {origins : List String}

lemma trim_eq_iff {piece core : String} :
    Text.trim piece = core ↔ Text.StripsTo Text.isBlank piece.toList core.toList := by
  rw [Text.stripsTo_iff, Text.trim, ← String.toList_inj, String.toList_ofList]

lemma map_trim_eq_iff {pieces cores : List String} : pieces.map Text.trim = cores ↔
    List.Forall₂ (fun piece core : String => Text.StripsTo Text.isBlank piece.toList core.toList)
      pieces cores := by
  simp only [← trim_eq_iff]
  rw [← List.forall₂_map_left_iff (f := Text.trim) (R := fun trimmed core => trimmed = core),
    List.forall₂_eq_eq_eq]

lemma readOrigins_eq (text : String) :
    readOrigins text =
      (((text.toList.splitOn ',').map String.ofList).map Text.trim).filter (· ≠ "") := by
  rw [readOrigins, Text.splitOn_eq, List.map_map]
  refine List.filter_congr fun origin _ => ?_
  rw [Bool.eq_iff_iff]
  simp

/-- The origins are those that the text names, and no others are. -/
lemma readOrigins_eq_iff : readOrigins text = origins ↔ NamesOrigins text origins := by
  rw [readOrigins_eq]
  constructor
  · rintro rfl
    refine ⟨(text.toList.splitOn ',').map String.ofList, _, ?_, ?_, ?_, map_trim_eq_iff.mp rfl, rfl⟩
    · simp
    · rw [← String.toList_inj, String.toList_intercalate, List.map_map]
      have hsame : String.toList ∘ String.ofList = id := funext fun _ => String.toList_ofList
      rw [hsame, List.map_id]
      exact List.intercalate_splitOn ','
    · intro piece hpiece hcomma
      obtain ⟨chars, hchars, rfl⟩ := List.mem_map.mp hpiece
      rw [String.toList_ofList] at hcomma
      rw [← Text.splitOn_eq] at hchars
      exact (Text.mem_of_mem_splitOn hchars hcomma).2 rfl
  · rintro ⟨pieces, cores, hne, rfl, hcommas, hcores, rfl⟩
    have hpieces : ((",".intercalate pieces).toList.splitOn ',').map String.ofList = pieces := by
      have hcharacters : ∀ chars ∈ pieces.map String.toList, ',' ∉ chars := by
        simpa using hcommas
      have hjoined : (",".intercalate pieces).toList =
          [','].intercalate (pieces.map String.toList) := String.toList_intercalate
      rw [hjoined, List.splitOn_intercalate ',' hcharacters (by simpa using hne), List.map_map]
      have hsame : String.ofList ∘ String.toList = id := funext fun _ => String.ofList_toList
      rw [hsame, List.map_id]
    rw [hpieces, map_trim_eq_iff.mpr hcores]

lemma isOrigin_of_namesOrigins {origin : String} (hnames : NamesOrigins text origins)
    (horigin : origin ∈ origins) : IsOrigin origin := by
  obtain ⟨pieces, cores, -, -, hcommas, hcores, rfl⟩ := hnames
  obtain ⟨hcore, hfilled⟩ := List.mem_filter.mp horigin
  rw [← map_trim_eq_iff.mpr hcores] at hcore
  obtain ⟨piece, hpiece, htrim⟩ := List.mem_map.mp hcore
  have hstrips := trim_eq_iff.mp htrim
  obtain ⟨front, back, hparts, -, -⟩ := hstrips.parts
  refine ⟨by simpa using hfilled, hstrips.first, hstrips.last, fun hcomma => ?_⟩
  apply hcommas piece hpiece
  rw [hparts]
  simp [hcomma]

/-- Origins are named again by the list that is made of them with commas. -/
lemma namesOrigins_intercalate (horigins : ∀ origin ∈ origins, IsOrigin origin) :
    NamesOrigins (",".intercalate origins) origins := by
  have htrim : origins.map Text.trim = origins := by
    refine (List.map_congr_left fun origin horigin => ?_).trans (List.map_id origins)
    rw [trim_eq_iff, Text.stripsTo_iff]
    exact Text.stripBoth_eq_self (horigins origin horigin).first (horigins origin horigin).last
  by_cases hnone : origins = []
  · subst hnone
    exact readOrigins_eq_iff.mp (by decide +kernel)
  · refine ⟨origins, origins, hnone, rfl, fun origin horigin => (horigins origin horigin).comma,
      map_trim_eq_iff.mp htrim, (List.filter_eq_self.mpr fun origin horigin => ?_).symm⟩
    simpa using (horigins origin horigin).nonempty

/-- A host starts with origins all of which may stand in a header and none of which stands for
all. -/
lemma checkOrigins_eq_ok_iff : checkOrigins origins = .ok () ↔
    (∀ origin ∈ origins, ∀ b ∈ Text.encode origin, b = 0x09 ∨ 0x20 ≤ b ∧ b ≠ 0x7F) ∧
      "*" ∉ origins := by
  have hlegal : ∀ origin, Text.isHeaderValue origin = true ↔
      ∀ b ∈ Text.encode origin, b = 0x09 ∨ 0x20 ≤ b ∧ b ≠ 0x7F := by
    intro origin
    simp [Text.isHeaderValue, Text.isHeaderByte]
  simp only [← hlegal]
  unfold checkOrigins
  split
  next origin hfound =>
    have hmem := List.mem_of_find?_eq_some hfound
    have hbad := List.find?_some hfound
    constructor
    · rintro ⟨⟩
    · rintro ⟨hall, -⟩
      simp [hall origin hmem] at hbad
  next hfound =>
    have hall : ∀ origin ∈ origins, Text.isHeaderValue origin = true := by
      simpa using hfound
    rw [and_iff_right hall]
    by_cases hstar : "*" ∈ origins <;> simp [hstar]

/-! ## The settings -/

/-- The settings are those that the variables tell. -/
structure Settings.ToldBy (settings : Settings) (environment : Environment) : Prop where
  host : settings.host = (environment.lookup "HOST").getD "0.0.0.0"
  port : NumericVariable.port.Gives environment settings.port
  origins : NamesOrigins ((environment.lookup "CORS_ORIGINS").getD "http://localhost:5173")
    settings.origins
  requestTimeout : NumericVariable.requestTimeout.Gives environment settings.requestTimeout
  backendUrl : settings.backendUrl =
    (environment.lookup "BACKEND_URL").getD "http://localhost:8000"
  backendTimeout : NumericVariable.backendTimeout.Gives environment settings.backendTimeout
  annotationIdle : NumericVariable.annotationIdle.Gives environment settings.annotationIdle

/-- The start ends at a variable: all that are read before it are accepted, and it is refused. -/
structure StopsAt (environment : Environment) (v : NumericVariable) (fault : Text.NumeralError) :
    Prop where
  earlier : ∃ before after, NumericVariable.inOrder = before ++ v :: after ∧
    ∀ other ∈ before, other.Accepts environment
  refuses : v.Refuses environment fault

variable {environment : Environment} {settings : Settings} {error : StartError}

/-- The settings with these numbers; all else is told by the variables without a condition. -/
def Settings.withNumbers (environment : Environment)
    (port requestTimeout backendTimeout annotationIdle : Nat) : Settings where
  host := (environment.lookup "HOST").getD "0.0.0.0"
  port
  origins := readOrigins ((environment.lookup "CORS_ORIGINS").getD "http://localhost:5173")
  requestTimeout
  backendUrl := (environment.lookup "BACKEND_URL").getD "http://localhost:8000"
  backendTimeout
  annotationIdle

lemma load_eq (environment : Environment) : Settings.load environment = (do
    let port ← NumericVariable.port.read environment
    let requestTimeout ← NumericVariable.requestTimeout.read environment
    let backendTimeout ← NumericVariable.backendTimeout.read environment
    let annotationIdle ← NumericVariable.annotationIdle.read environment
    return .withNumbers environment port requestTimeout backendTimeout annotationIdle) := rfl

/-- The error with which a variable is read, if it is. -/
def NumericVariable.refusal? (environment : Environment) (v : NumericVariable) :
    Option StartError :=
  match v.read environment with
  | .ok _ => none
  | .error error => some error

lemma NumericVariable.refusal?_eq_some_iff {v : NumericVariable} :
    v.refusal? environment = some error ↔ v.read environment = .error error := by
  rw [refusal?]
  cases v.read environment <;> simp

lemma NumericVariable.refusal?_eq_none_iff {v : NumericVariable} :
    v.refusal? environment = none ↔ v.Accepts environment := by
  rw [refusal?, accepts_iff]
  cases v.read environment <;> simp

/-- The start ends with the first error of a variable. -/
lemma load_eq_error_iff_findSome : Settings.load environment = .error error ↔
    NumericVariable.inOrder.findSome? (NumericVariable.refusal? environment) = some error := by
  simp only [load_eq, NumericVariable.inOrder, List.findSome?_cons, List.findSome?_nil,
    NumericVariable.refusal?]
  cases NumericVariable.port.read environment with
  | error => simp [bind, Except.bind]
  | ok => ?_
  cases NumericVariable.requestTimeout.read environment with
  | error => simp [bind, Except.bind]
  | ok => ?_
  cases NumericVariable.backendTimeout.read environment with
  | error => simp [bind, Except.bind]
  | ok => ?_
  cases NumericVariable.annotationIdle.read environment <;>
    simp [bind, Except.bind, pure, Except.pure]

lemma load_eq_error_iff : Settings.load environment = .error error ↔
    ∃ v fault, StopsAt environment v fault ∧ error = .badNumber v.name v.bits fault := by
  rw [load_eq_error_iff_findSome, List.findSome?_eq_some_iff]
  constructor
  · rintro ⟨before, v, after, hinOrder, hrefusal, hbefore⟩
    obtain ⟨fault, hrefuses, rfl⟩ :=
      NumericVariable.read_eq_error_iff.mp (NumericVariable.refusal?_eq_some_iff.mp hrefusal)
    exact ⟨v, fault, ⟨⟨before, after, hinOrder, fun other hother =>
      NumericVariable.refusal?_eq_none_iff.mp (hbefore other hother)⟩, hrefuses⟩, rfl⟩
  · rintro ⟨v, fault, ⟨⟨before, after, hinOrder, hbefore⟩, hrefuses⟩, rfl⟩
    refine ⟨before, v, after, hinOrder, ?_, fun other hother =>
      NumericVariable.refusal?_eq_none_iff.mpr (hbefore other hother)⟩
    exact NumericVariable.refusal?_eq_some_iff.mpr
      (NumericVariable.read_eq_error_iff.mpr ⟨fault, hrefuses, rfl⟩)

/-- Where every numeric variable is accepted there are settings. -/
lemma exists_load_iff : (∃ settings, Settings.load environment = .ok settings) ↔
    ∀ v ∈ NumericVariable.inOrder, v.Accepts environment := by
  simp only [← NumericVariable.refusal?_eq_none_iff]
  rw [← List.findSome?_eq_none_iff]
  cases hload : Settings.load environment with
  | ok settings =>
    refine iff_of_true ⟨settings, rfl⟩ (Option.eq_none_iff_forall_ne_some.mpr ?_)
    intro error hfound
    cases hload.symm.trans (load_eq_error_iff_findSome.mpr hfound)
  | error error =>
    rw [load_eq_error_iff_findSome.mp hload]
    simp

lemma load_of_reads {port requestTimeout backendTimeout annotationIdle : Nat}
    (hport : NumericVariable.port.read environment = .ok port)
    (hrequest : NumericVariable.requestTimeout.read environment = .ok requestTimeout)
    (hbackend : NumericVariable.backendTimeout.read environment = .ok backendTimeout)
    (hidle : NumericVariable.annotationIdle.read environment = .ok annotationIdle) :
    Settings.load environment =
      .ok (.withNumbers environment port requestTimeout backendTimeout annotationIdle) := by
  rw [load_eq, hport, hrequest, hbackend, hidle]
  rfl

/-- A host that starts has the settings that its variables tell, and they tell of no others. -/
lemma load_eq_ok_iff : Settings.load environment = .ok settings ↔ settings.ToldBy environment := by
  constructor
  · intro hload
    have haccepts := exists_load_iff.mp ⟨settings, hload⟩
    simp only [NumericVariable.inOrder, List.forall_mem_cons,
      NumericVariable.accepts_iff] at haccepts
    obtain ⟨⟨port, hport⟩, ⟨requestTimeout, hrequest⟩, ⟨backendTimeout, hbackend⟩,
      ⟨annotationIdle, hidle⟩, -⟩ := haccepts
    obtain rfl := Except.ok.inj ((load_of_reads hport hrequest hbackend hidle).symm.trans hload)
    rw [NumericVariable.read_eq_ok_iff] at hport hrequest hbackend hidle
    exact ⟨rfl, hport, readOrigins_eq_iff.mp rfl, hrequest, rfl, hbackend, hidle⟩
  · rintro ⟨hhost, hport, horigins, hrequest, hurl, hbackend, hidle⟩
    rw [← NumericVariable.read_eq_ok_iff] at hport hrequest hbackend hidle
    rw [load_of_reads hport hrequest hbackend hidle, Settings.withNumbers, ← hhost, ← hurl,
      readOrigins_eq_iff.mpr horigins]

/-- The list that is made of the origins names them again, and it is all that has changed. -/
lemma Settings.ToldBy.rejoined (htold : settings.ToldBy environment) :
    settings.ToldBy (("CORS_ORIGINS", ",".intercalate settings.origins) :: environment) := by
  have hgives : ∀ {v : NumericVariable} {n : Nat}, (v.name == "CORS_ORIGINS") = false →
      v.Gives environment n →
        v.Gives (("CORS_ORIGINS", ",".intercalate settings.origins) :: environment) n := by
    intro v n hname hgives
    rw [← NumericVariable.read_eq_ok_iff] at hgives ⊢
    rwa [NumericVariable.read, Environment.number, List.lookup_cons, hname]
  refine ⟨htold.host, hgives (by decide) htold.port, ?_, hgives (by decide) htold.requestTimeout,
    htold.backendUrl, hgives (by decide) htold.backendTimeout,
    hgives (by decide) htold.annotationIdle⟩
  exact namesOrigins_intercalate fun origin => isOrigin_of_namesOrigins htold.origins

/-- **A host starts exactly with valid variables.**  There are settings if and only if each of the
four numeric variables is not set or is a numeral in range, and they are those that the variables
tell.  Else the start ends at the first variable, in their order, that is neither, and names it with
what is wrong with its text.  The origins in the settings have no blanks at their ends and no comma,
none is blank, and joined by commas they give the same settings again; and the host takes them if
and only if they hold nothing that a header value may not hold and none stands for all. -/
theorem settings_accepted_iff (environment : Environment) :
    ((∃ settings, Settings.load environment = .ok settings) ↔
      ∀ v ∈ NumericVariable.inOrder, v.Accepts environment) ∧
    (∀ settings, Settings.load environment = .ok settings ↔ settings.ToldBy environment) ∧
    (∀ error, Settings.load environment = .error error ↔
      ∃ v fault, StopsAt environment v fault ∧ error = .badNumber v.name v.bits fault ∧
        error.message = v.name ++ " must be a valid u" ++ toString v.bits ++
          ": ParseIntError \x7b kind: " ++ fault.name ++ " \x7d") ∧
    (∀ settings, Settings.load environment = .ok settings →
      (∀ origin ∈ settings.origins, IsOrigin origin) ∧
      Settings.load (("CORS_ORIGINS", ",".intercalate settings.origins) :: environment) =
        .ok settings ∧
      (checkOrigins settings.origins = .ok () ↔
        (∀ origin ∈ settings.origins, ∀ b ∈ Text.encode origin,
          b = 0x09 ∨ 0x20 ≤ b ∧ b ≠ 0x7F) ∧ "*" ∉ settings.origins)) := by
  refine ⟨exists_load_iff, fun settings => load_eq_ok_iff, fun error => ?_,
    fun settings hload => ?_⟩
  · rw [load_eq_error_iff]
    constructor
    · rintro ⟨v, fault, hstops, rfl⟩
      exact ⟨v, fault, hstops, rfl, rfl⟩
    · rintro ⟨v, fault, hstops, herror, -⟩
      exact ⟨v, fault, hstops, herror⟩
  · have htold := load_eq_ok_iff.mp hload
    exact ⟨fun origin => isOrigin_of_namesOrigins htold.origins,
      load_eq_ok_iff.mpr htold.rejoined, checkOrigins_eq_ok_iff⟩

/-- A sign and zeros in front of a port, the greatest number of seconds, and origins between blanks
and empty pieces. -/
def crowdedEnvironment : Environment :=
  [("PORT", "+0080"), ("ANNOTATION_IDLE_SECS", "18446744073709551615"),
    ("CORS_ORIGINS", " https://a.test ,,\u00A0, http://b.test:80\t")]

def crowdedSettings : Settings :=
  ⟨"0.0.0.0", 80, ["https://a.test", "http://b.test:80"], 30, "http://localhost:8000", 10,
    18446744073709551615⟩

theorem settings_of_crowded_environment :
    crowdedSettings.ToldBy crowdedEnvironment ∧
      Settings.load (("CORS_ORIGINS", "https://a.test,http://b.test:80") :: crowdedEnvironment) =
        .ok crowdedSettings ∧
      checkOrigins crowdedSettings.origins = .ok () := by
  have hload : Settings.load crowdedEnvironment = .ok crowdedSettings := by decide +kernel
  obtain ⟨-, htold, -, horigins⟩ := settings_accepted_iff crowdedEnvironment
  obtain ⟨-, hagain, hcheck⟩ := horigins crowdedSettings hload
  exact ⟨(htold crowdedSettings).mp hload, hagain, hcheck.mpr (by decide +kernel)⟩

/-- The port is read first, and its value is beyond its range before the letter is met. -/
example : Settings.load [("REQUEST_TIMEOUT_SECS", ""), ("PORT", "65536x")] =
    .error (.badNumber "PORT" 16 .overflow) := by
  decide +kernel

end Host

end AnnotationReview
