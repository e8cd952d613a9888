import AnnotationReview.Proofs.Submission
import Mathlib.Data.List.Basic

/-!
# Look-ups that are under way together

The status look-ups of a mount are put together, and `lookUpAll` has each result in the place of its
entry.  `lookUpTogether` tells in addition how they get there: the results arrive in any order, and
each of them is then put in the place of its entry.  In which order they arrive is told by
`Arrivals`.  Putting results back in their places undoes every order of arrival (`collect_deliver`,
`deliver_collect`), and where the results arrive as they were sent for, nothing has to be put back
(`lookUpTogether_inOrder`).
-/

namespace AnnotationReview

/-! ## Values by their places -/

section

variable {α β : Type} {places : List Nat}

/-- The value that stands beside a place. -/
def valueAt (places : List Nat) (values : List α) (place : Nat) : Option α :=
  (places.zip values).lookup place

lemma valueAt_cons (first : Nat) (places : List Nat) (value : α) (values : List α) (place : Nat) :
    valueAt (first :: places) (value :: values) place =
      if place = first then some value else valueAt places values place := by
  rw [valueAt, List.zip_cons_cons, List.lookup_cons]
  by_cases hfirst : place = first
  · rw [if_pos hfirst, beq_iff_eq.mpr hfirst]
  · rw [if_neg hfirst, beq_eq_false_iff_ne.mpr hfirst, valueAt]

/-- Beside distinct places the values are found in the order of the places. -/
lemma filterMap_valueAt (hplaces : places.Nodup) {values : List α}
    (hlength : places.length = values.length) :
    places.filterMap (valueAt places values) = values := by
  induction places generalizing values with
  | nil => exact (List.length_eq_zero_iff.mp hlength.symm).symm
  | cons first places ih =>
    cases values with
    | nil => cases hlength
    | cons value values =>
      obtain ⟨hfirst, hplaces⟩ := List.nodup_cons.mp hplaces
      have hhead : valueAt (first :: places) (value :: values) first = some value := by
        rw [valueAt_cons, if_pos rfl]
      have hlater : ∀ place ∈ places,
          valueAt (first :: places) (value :: values) place = valueAt places values place := by
        intro place hplace
        rw [valueAt_cons, if_neg (ne_of_mem_of_not_mem hplace hfirst)]
      rw [List.filterMap_cons_some hhead, List.filterMap_congr hlater,
        ih hplaces (Nat.succ.inj hlength)]

lemma valueAt_isSome {values : List α} (hlength : places.length = values.length) {place : Nat}
    (hmem : place ∈ places) : (valueAt places values place).isSome := by
  induction places generalizing values with
  | nil => cases hmem
  | cons first places ih =>
    cases values with
    | nil => cases hlength
    | cons value values =>
      rw [valueAt_cons]
      split
      · rfl
      · next hfirst => exact ih (Nat.succ.inj hlength) ((List.mem_cons.mp hmem).resolve_left hfirst)

/-- What is found at some places is beside them when it is written down there. -/
lemma valueAt_filterMap {find : Nat → Option α} (hfound : ∀ place ∈ places, (find place).isSome)
    {place : Nat} (hmem : place ∈ places) :
    valueAt places (places.filterMap find) place = find place := by
  induction places with
  | nil => cases hmem
  | cons first places ih =>
    obtain ⟨value, hvalue⟩ := Option.isSome_iff_exists.mp (hfound first List.mem_cons_self)
    rw [List.filterMap_cons_some hvalue, valueAt_cons]
    split
    · next hfirst => rw [hfirst, hvalue]
    · next hfirst =>
      have hlater := (List.mem_cons.mp hmem).resolve_left hfirst
      exact ih (fun other hother => hfound other (List.mem_cons_of_mem _ hother)) hlater

lemma valueAt_map (places : List Nat) (values : List α) (f : α → β) (place : Nat) :
    valueAt places (values.map f) place = (valueAt places values place).map f := by
  induction places generalizing values with
  | nil => rfl
  | cons first places ih =>
    cases values with
    | nil => rfl
    | cons value values =>
      rw [List.map_cons, valueAt_cons, valueAt_cons]
      split
      · rfl
      · exact ih values

/-- Where something is found at each of the first places, it stands in their order. -/
lemma getElem?_filterMap_range {find : Nat → Option α} {count : Nat}
    (hfound : ∀ place < count, (find place).isSome) :
    ((List.range count).filterMap find).length = count ∧
      ∀ place < count, ((List.range count).filterMap find)[place]? = find place := by
  induction count with
  | zero => simp
  | succ count ih =>
    obtain ⟨hlength, hearlier⟩ := ih fun place hplace => hfound place (by omega)
    obtain ⟨last, hlast⟩ := Option.isSome_iff_exists.mp (hfound count (by omega))
    rw [List.range_succ, List.filterMap_append, List.filterMap_cons_some hlast, List.filterMap_nil]
    refine ⟨by simp [hlength], fun place hplace => ?_⟩
    by_cases hbefore : place < count
    · rw [List.getElem?_append_left (by omega), hearlier place hbefore]
    · obtain rfl : place = count := by omega
      rw [List.getElem?_append_right (by omega), hlength, Nat.sub_self, hlast]
      rfl

lemma filterMap_getElem?_range (items : List α) :
    (List.range items.length).filterMap (items[·]?) = items := by
  have hfound : ∀ place < items.length, (items[place]?).isSome := by
    intro place hplace
    simpa using hplace
  obtain ⟨hlength, hplaces⟩ := getElem?_filterMap_range hfound
  refine List.ext_getElem? fun place => ?_
  by_cases hplace : place < items.length
  · exact hplaces place hplace
  · have hbeyond := Nat.le_of_not_lt hplace
    rw [List.getElem?_eq_none hbeyond, List.getElem?_eq_none_iff]
    exact Nat.le_trans (Nat.le_of_eq hlength) hbeyond

end

/-! ## Orders of arrival -/

/-- In which order things arrive that were sent for together, for each number of them: the places
in which they were sent for are told in the order of arrival. -/
structure Arrivals where
  places : Nat → List Nat
  perm : ∀ count, (places count).Perm (List.range count)

namespace Arrivals

/-- Things arrive in the order in which they were sent for. -/
def inOrder : Arrivals := ⟨List.range, fun _ => .refl _⟩

/-- What was sent for last arrives first. -/
def reversed : Arrivals := ⟨fun count => (List.range count).reverse, fun _ => List.reverse_perm _⟩

variable {α β : Type} (arrivals : Arrivals)

/-- The items in the order of their arrival. -/
def deliver (items : List α) : List α :=
  (arrivals.places items.length).filterMap (items[·]?)

/-- Items that have arrived, each in its place again. -/
def collect (arrived : List α) : List α :=
  (List.range arrived.length).filterMap (valueAt (arrivals.places arrived.length) arrived)

lemma mem_places {count place : Nat} : place ∈ arrivals.places count ↔ place < count := by
  rw [(arrivals.perm count).mem_iff, List.mem_range]

lemma length_places (count : Nat) : (arrivals.places count).length = count := by
  rw [(arrivals.perm count).length_eq, List.length_range]

lemma nodup_places (count : Nat) : (arrivals.places count).Nodup :=
  (arrivals.perm count).nodup_iff.mpr List.nodup_range

/-- Nothing is lost on the way. -/
lemma perm_deliver (items : List α) : (arrivals.deliver items).Perm items := by
  have hperm := (arrivals.perm items.length).filterMap (items[·]?)
  rw [filterMap_getElem?_range] at hperm
  exact hperm

lemma length_deliver (items : List α) : (arrivals.deliver items).length = items.length :=
  (arrivals.perm_deliver items).length_eq

lemma getElem?_collect (arrived : List α) :
    (arrivals.collect arrived).length = arrived.length ∧ ∀ place < arrived.length,
      (arrivals.collect arrived)[place]? =
        valueAt (arrivals.places arrived.length) arrived place := by
  refine getElem?_filterMap_range fun place hplace => ?_
  exact valueAt_isSome (arrivals.length_places _) (arrivals.mem_places.mpr hplace)

/-- Whatever the order of arrival was, collecting undoes it. -/
theorem collect_deliver (items : List α) : arrivals.collect (arrivals.deliver items) = items := by
  have hfound : ∀ place ∈ arrivals.places items.length, (items[place]?).isSome := by
    intro place hplace
    simpa using arrivals.mem_places.mp hplace
  rw [collect, length_deliver]
  calc (List.range items.length).filterMap
        (valueAt (arrivals.places items.length) (arrivals.deliver items))
      = (List.range items.length).filterMap (items[·]?) := by
        refine List.filterMap_congr fun place hplace => ?_
        exact valueAt_filterMap hfound (arrivals.mem_places.mpr (List.mem_range.mp hplace))
    _ = items := filterMap_getElem?_range items

/-- What was collected could have arrived as it did. -/
theorem deliver_collect (arrived : List α) :
    arrivals.deliver (arrivals.collect arrived) = arrived := by
  obtain ⟨hlength, hplaces⟩ := arrivals.getElem?_collect arrived
  rw [deliver, hlength]
  calc (arrivals.places arrived.length).filterMap ((arrivals.collect arrived)[·]?)
      = (arrivals.places arrived.length).filterMap
          (valueAt (arrivals.places arrived.length) arrived) := by
        refine List.filterMap_congr fun place hplace => ?_
        exact hplaces place (arrivals.mem_places.mp hplace)
    _ = arrived := filterMap_valueAt (arrivals.nodup_places _) (arrivals.length_places _)

lemma map_deliver (f : α → β) (items : List α) :
    (arrivals.deliver items).map f = arrivals.deliver (items.map f) := by
  simp only [deliver, List.map_filterMap, List.length_map, List.getElem?_map]

lemma map_collect (f : α → β) (arrived : List α) :
    (arrivals.collect arrived).map f = arrivals.collect (arrived.map f) := by
  simp only [collect, List.map_filterMap, List.length_map, valueAt_map]

lemma deliver_inOrder (items : List α) : inOrder.deliver items = items :=
  filterMap_getElem?_range items

lemma collect_inOrder (arrived : List α) : inOrder.collect arrived = arrived := by
  rw [← deliver_inOrder (inOrder.collect arrived), deliver_collect]

end Arrivals

namespace Review

open Backend (Answers Dialogue)
open Backend.Dialogue (Exchange Path Together path_askAll_of_done path_bind_iff together_cons_iff)

/-! ## Look-ups -/

/-- The results of look-ups, under the indices that entries have. -/
abbrev Results : Type := List (UInt32 × Except Backend.Error String)

/-- Looks up the status of each entry.  The look-ups are under way together and their results arrive
in some order; the answer is in the order of the entries. -/
def lookUpTogether (arrivals : Arrivals) (viewer : String) (names : List (UInt32 × String)) :
    Procedure Results := do
  let arrived ← lookUpAll viewer (arrivals.deliver names)
  return arrivals.collect arrived

/-- The look-up of a name with its result. -/
def lookedUp (viewer : String) (updateId : String) (result : Except Backend.Error String) :
    Exchange :=
  ⟨⟨viewer, .statusOf updateId⟩, .ofExcept result⟩

/-- Results that arrive as they were sent for are in their places. -/
lemma lookUpTogether_inOrder : lookUpTogether .inOrder = lookUpAll := by
  funext viewer names now
  rw [lookUpTogether, Arrivals.deliver_inOrder]
  show (lookUpAll viewer names now).bind _ = _
  refine Eq.trans (congrArg _ (funext fun ending => ?_)) (Dialogue.bind_done _)
  obtain ⟨value | error | message, after⟩ := ending
  · exact congrArg (fun results => Dialogue.done (Ending.returned results, after))
      (Arrivals.collect_inOrder value)
  · rfl
  · rfl

/-- Look-ups may end in every way. -/
lemma exists_together_lookUps (viewer : String)
    (found : List ((UInt32 × String) × Except Backend.Error String)) :
    ∃ answers, Together (lookUpCalls viewer (found.map Prod.fst))
        (found.map fun (name, result) => lookedUp viewer name.2 result) (.ok answers) ∧
      lookUpResults viewer (found.map Prod.fst) answers =
        found.map fun (name, result) => (name.1, result) := by
  induction found with
  | nil => exact ⟨(), .none, rfl⟩
  | cons first found ih =>
    obtain ⟨⟨index, updateId⟩, result⟩ := first
    obtain ⟨answers, hrest, hresults⟩ := ih
    refine ⟨(result, answers), ?_, congrArg (List.cons (index, result)) hresults⟩
    exact together_cons_iff.mpr ⟨_, .ok answers, hrest, .inl ⟨result, rfl, rfl⟩⟩

/-- Unless a call breaks down, look-ups end in one of these ways. -/
lemma exists_of_together_lookUps {viewer : String} {names : List (UInt32 × String)}
    {exchanges : List Exchange} {ended : Except String (Answers (lookUpCalls viewer names))}
    (htogether : Together (lookUpCalls viewer names) exchanges ended)
    (hkept : ∀ exchange ∈ exchanges, ¬BrokeDown exchange) :
    ∃ (found : List ((UInt32 × String) × Except Backend.Error String))
      (answers : Answers (lookUpCalls viewer names)), found.map Prod.fst = names ∧
        exchanges = found.map (fun (name, result) => lookedUp viewer name.2 result) ∧
        ended = .ok answers ∧
        lookUpResults viewer names answers = found.map fun (name, result) => (name.1, result) := by
  induction names generalizing exchanges with
  | nil =>
    cases htogether
    exact ⟨[], (), rfl, rfl, rfl, rfl⟩
  | cons name names ih =>
    obtain ⟨index, updateId⟩ := name
    obtain ⟨rest, later, hrest, ⟨result, rfl, rfl⟩ | ⟨message, rfl, -⟩⟩ :=
      together_cons_iff.mp htogether
    · obtain ⟨found, answers, rfl, rfl, rfl, hresults⟩ := ih hrest fun exchange hmem =>
        hkept exchange (List.mem_cons_of_mem _ hmem)
      exact ⟨((index, updateId), result) :: found, (result, answers), rfl, rfl, rfl,
        congrArg (List.cons (index, result)) hresults⟩
    · exact absurd ⟨message, rfl⟩ (hkept _ List.mem_cons_self)

/-- The paths on which all names are looked up, one for each way to answer for them. -/
lemma path_lookUpAll (viewer : String)
    (found : List ((UInt32 × String) × Except Backend.Error String)) (now : View) :
    Path (lookUpAll viewer (found.map Prod.fst) now)
      (found.map fun (name, result) => lookedUp viewer name.2 result)
      (.returned (found.map fun (name, result) => (name.1, result)), now) := by
  obtain ⟨answers, htogether, hresults⟩ := exists_together_lookUps viewer found
  rw [lookUpAll, Procedure.putAll_bind, ← hresults]
  exact path_askAll_of_done htogether rfl

/-- Unless a call breaks down, there is no other path. -/
lemma exists_of_path_lookUpAll {viewer : String} {names : List (UInt32 × String)}
    {now after : View} {exchanges : List Exchange} {ending : Ending Results}
    (hpath : Path (lookUpAll viewer names now) exchanges (ending, after))
    (hkept : ∀ exchange ∈ exchanges, ¬BrokeDown exchange) :
    ∃ found : List ((UInt32 × String) × Except Backend.Error String),
      found.map Prod.fst = names ∧
      exchanges = found.map (fun (name, result) => lookedUp viewer name.2 result) ∧
      ending = .returned (found.map fun (name, result) => (name.1, result)) ∧ after = now := by
  rw [lookUpAll, Procedure.putAll_bind] at hpath
  cases hpath with
  | askAll htogether hrest =>
    obtain ⟨found, answers, hnames, rfl, rfl, hresults⟩ :=
      exists_of_together_lookUps htogether fun exchange hmem =>
        hkept exchange (List.mem_append_left _ hmem)
    cases hrest
    exact ⟨found, hnames, List.append_nil _, congrArg _ hresults, rfl⟩

/-- However their results arrive, names that are looked up together can be answered for in every
way. -/
lemma path_lookUpTogether (arrivals : Arrivals) (viewer : String)
    (found : List ((UInt32 × String) × Except Backend.Error String)) (now : View) :
    Path (lookUpTogether arrivals viewer (found.map Prod.fst) now)
      (arrivals.deliver (found.map fun (name, result) => lookedUp viewer name.2 result))
      (.returned (found.map fun (name, result) => (name.1, result)), now) := by
  have harrived := path_lookUpAll viewer (arrivals.deliver found) now
  simp only [Arrivals.map_deliver] at harrived
  refine path_bind_iff.mpr ⟨_, _, [], (List.append_nil _).symm, harrived, ?_⟩
  show Path (.done (Ending.returned (arrivals.collect (arrivals.deliver _)), now)) _ _
  rw [Arrivals.collect_deliver]
  exact .done _

/-- Unless a call breaks down, the results are told in the order of the names and not in that of
their arrival. -/
lemma exists_of_path_lookUpTogether {arrivals : Arrivals} {viewer : String}
    {names : List (UInt32 × String)} {now after : View} {exchanges : List Exchange}
    {ending : Ending Results}
    (hpath : Path (lookUpTogether arrivals viewer names now) exchanges (ending, after))
    (hkept : ∀ exchange ∈ exchanges, ¬BrokeDown exchange) :
    ∃ found : List ((UInt32 × String) × Except Backend.Error String),
      found.map Prod.fst = names ∧
      exchanges =
        arrivals.deliver (found.map fun (name, result) => lookedUp viewer name.2 result) ∧
      ending = .returned (found.map fun (name, result) => (name.1, result)) ∧ after = now := by
  obtain ⟨front, ⟨middle, left⟩, back, rfl, hfront, hback⟩ := path_bind_iff.mp hpath
  obtain ⟨arrived, hnames, rfl, rfl, rfl⟩ := exists_of_path_lookUpAll hfront fun exchange hmem =>
    hkept exchange (List.mem_append_left _ hmem)
  cases hback
  -- `arrived` stands in the order of arrival; collected, it stands in that of the names
  refine ⟨arrivals.collect arrived, ?_, ?_, ?_, rfl⟩
  · rw [Arrivals.map_collect, hnames, Arrivals.collect_deliver]
  · rw [← Arrivals.map_deliver, Arrivals.deliver_collect, List.append_nil]
  · rw [Arrivals.map_collect]

end Review

end AnnotationReview
