/-
# CallSearch.Proofs.Path.Boxes — boxes lose no path

A walk through a level without boxes keeps one account of its marks.  The boxed level
keeps one for the regions outside of boxes and a fresh one for each pass through a box,
so a walk is cut where it comes to the border of an interval: the stretch inside an
interval of several regions is a walk of its own through the box, and the stretches
are put together again outside.  No account holds a mark that the whole walk did not
set (`Fewer`), so what the whole walk may do its pieces may do too.

* `Walks.boxed`: a bounded run of a level is one of the boxed level;
* `paths_boxed_complete`: boxes lose no call sequence.
-/
import CallSearch.Proofs.Path.Walk
import Mathlib.Order.CompletePartialOrder

namespace CallSearch.Region

set_option autoImplicit false

/-! ## Intervals of a level -/

/-- Where an interval of a level starts. -/
def border (level : List Region) (index : Nat) : Nat := spanStart (links level) index

/-- The regions of an interval of a level. -/
def interval (level : List Region) (index : Nat) : List Region :=
  spanAt (links level) level (border level index)

section Intervals

variable {level : List Region} {index offset position place depth : Nat} {region : Region}
  {target : String}

theorem border_succ (level : List Region) (index : Nat) :
    border level (index + 1) = spanEnd (links level) (border level index) :=
  spanStart_succ (links level) index

theorem border_strictMono (level : List Region) : StrictMono (border level) :=
  spanStart_strictMono (links level)

theorem border_succ_le (several : border level index + 1 < border level (index + 1)) :
    border level (index + 1) ≤ level.length := by
  rw [border_succ] at several ⊢
  rw [← length_links level]
  rcases spanEnd_cases (links level) (border level index) with single | ⟨-, inside, -⟩
  · omega
  · exact inside

theorem length_interval_le (level : List Region) (index : Nat) :
    (interval level index).length ≤ border level (index + 1) - border level index := by
  rw [interval, spanAt, border_succ]
  exact List.length_take_le _ _

theorem getElem?_interval (inside : border level index + offset < border level (index + 1)) :
    (interval level index)[offset]? = level[border level index + offset]? := by
  rw [border_succ] at inside
  rw [interval, spanAt, List.getElem?_take, if_pos (by omega), List.getElem?_drop]

theorem getElem?_boxed (here : level[border level index]? = some region)
    (single : border level (index + 1) = border level index + 1) :
    (boxedTo (depth + 1) level)[index]? = some region :=
  getElem?_boxedTo_of_single depth here (border_succ level index ▸ single)

theorem getElem?_boxed_of_several (several : border level index + 1 < border level (index + 1)) :
    (boxedTo (depth + 1) level)[index]? = some (.box (boxedTo depth (interval level index))) := by
  have inside : border level index < level.length := by
    have := border_succ_le several
    omega
  rw [border_succ] at several
  exact getElem?_boxedTo_of_several depth inside several

/-! ## Labels of intervals -/

theorem labelIndex?_le {name : String} {level : List Region} {index other : Nat}
    (found : labelIndex? name level = some index)
    (there : level[other]? = some (.control (.label name))) : other ≤ index := by
  induction level generalizing index other with
  | nil => cases found
  | cons region rest ih =>
      rw [labelIndex?] at found
      cases other with
      | zero => exact Nat.zero_le _
      | succ other =>
          rw [List.getElem?_cons_succ] at there
          obtain ⟨later, same⟩ := exists_labelIndex? (List.mem_of_getElem? there)
          rw [same] at found
          cases found
          exact Nat.succ_le_succ (ih same there)

/-- A label is found at its last place. -/
theorem labelIndex?_eq_some_iff :
    labelIndex? target level = some index ↔
      level[index]? = some (.control (.label target)) ∧
        ∀ other, level[other]? = some (.control (.label target)) → other ≤ index := by
  refine ⟨fun found => ⟨labelIndex?_eq_some found, fun _ => labelIndex?_le found⟩, ?_⟩
  rintro ⟨here, last⟩
  obtain ⟨other, found⟩ := exists_labelIndex? (List.mem_of_getElem? here)
  rw [found, Nat.le_antisymm (last other (labelIndex?_eq_some found)) (labelIndex?_le found here)]

theorem labelIndex?_interval
    (found : labelIndex? target level = some (border level index + offset))
    (inside : border level index + offset < border level (index + 1)) :
    labelIndex? target (interval level index) = some offset := by
  obtain ⟨here, last⟩ := labelIndex?_eq_some_iff.1 found
  refine labelIndex?_eq_some_iff.2 ⟨(getElem?_interval inside).trans here, fun other there => ?_⟩
  have bound := (List.getElem?_eq_some_iff.1 there).1
  have size := length_interval_le level index
  rw [getElem?_interval (by omega)] at there
  have := last _ there
  omega

theorem labelIndex?_boxed (found : labelIndex? target level = some (border level index))
    (single : border level (index + 1) = border level index + 1) :
    labelIndex? target (boxedTo (depth + 1) level) = some index := by
  obtain ⟨here, last⟩ := labelIndex?_eq_some_iff.1 found
  refine labelIndex?_eq_some_iff.2 ⟨getElem?_boxed here single, fun other there => ?_⟩
  have inside : border level other < level.length := by
    refine Nat.lt_of_not_le fun past => ?_
    have short := length_boxedTo_le depth past
    rw [List.getElem?_eq_none short] at there
    cases there
  have further := border_strictMono level (Nat.lt_add_one other)
  by_cases single' : border level (other + 1) = border level other + 1
  · rw [getElem?_boxed (List.getElem?_eq_getElem inside) single'] at there
    have := last _ ((List.getElem?_eq_getElem inside).trans there)
    exact (border_strictMono level).le_iff_le.1 this
  · rw [getElem?_boxed_of_several (by omega)] at there
    cases there

/-- A jump in an interval of several regions stays there. -/
theorem place_of_several (here : level[position]? = some region)
    (jump : place ∈ jumps level region)
    (several : border level index + 1 < border level (index + 1))
    (low : border level index ≤ position) (high : position < border level (index + 1)) :
    border level index ≤ place ∧ place < border level (index + 1) := by
  obtain ⟨other, low', high'⟩ := exists_span (links level) place
  rw [border_succ] at several high ⊢
  rcases interval_of_jump here jump low high low' high' with rfl | ⟨single, -⟩
  · exact ⟨low', high'⟩
  · exact absurd single several.ne'

/-- A jump from a region that is an interval leads to another. -/
theorem place_of_single (here : level[border level index]? = some region)
    (jump : place ∈ jumps level region)
    (single : border level (index + 1) = border level index + 1) :
    ∃ other, border level other = place ∧ border level (other + 1) = place + 1 := by
  obtain ⟨other, low, high⟩ := exists_span (links level) place
  rw [border_succ] at single
  have single' : spanEnd (links level) (spanStart (links level) other) =
      spanStart (links level) other + 1 := by
    rcases interval_of_jump here jump (Nat.le_refl _) (single ▸ Nat.lt_succ_self _) low high with
      rfl | ⟨-, single'⟩
    · exact single
    · exact single'
  have same : border level other = place := by
    unfold border
    omega
  refine ⟨other, same, ?_⟩
  rw [border_succ, ← same]
  exact single'

end Intervals

/-! ## Accounts of marks -/

/-- Every mark of an account is one of another, where positions have other places. -/
def Fewer (place : Nat → Nat) (few all : List Nat) : Prop :=
  ∀ position, few.count position ≤ all.count (place position)

section Fewer

variable {place : Nat → Nat} {few all : List Nat} {position mark : Nat}

theorem fewer_nil : Fewer place [] all := fun _ => Nat.zero_le _

theorem Fewer.cons (fewer : Fewer place few all) (same : place position = mark) :
    Fewer place (position :: few) (mark :: all) := fun other => by
  have := fewer other
  rw [List.count_cons, List.count_cons]
  by_cases h : position = other
  · simp [← h, same] at this ⊢
    exact this
  · simp [h]
    omega

theorem Fewer.later (fewer : Fewer place few all) : Fewer place few (mark :: all) := fun other =>
  Nat.le_trans (fewer other) List.count_le_count_cons

theorem Fewer.not_mem (fewer : Fewer place few all) (fresh : place position ∉ all) :
    position ∉ few := by
  have := fewer position
  rw [List.count_eq_zero.2 fresh] at this
  exact List.count_eq_zero.1 (Nat.le_zero.1 this)

end Fewer

/-! ## Cutting a walk at the borders -/

/-- What is left of a walk in an interval, from an offset in `part` on: it leaves the method there,
or passes the interval and goes on behind it, at `next` in the boxed level.  `inner` and `outer`
are the marks of the two. -/
inductive Crosses (part boxed : List Region) (offset next : Nat) (inner outer : List Nat) :
    List Invocation → Ending → Prop
  | leave {trace : List Invocation} :
      Walks part offset inner trace .exit →
      Crosses part boxed offset next inner outer trace .exit
  | pass {first second : List Invocation} {ending : Ending} :
      Walks part offset inner first .through → Walks boxed next outer second ending →
      Crosses part boxed offset next inner outer (first ++ second) ending

/-- A move inside an interval changes nothing behind it. -/
theorem Crosses.after {part boxed : List Region} {offset offset' next : Nat}
    {inner inner' outer : List Nat} {trace : List Invocation} {ending : Ending}
    (crosses : Crosses part boxed offset' next inner' outer trace ending) (calls : List Invocation)
    (move : ∀ {trace ending}, Walks part offset' inner' trace ending →
      Walks part offset inner (calls ++ trace) ending) :
    Crosses part boxed offset next inner outer (calls ++ trace) ending := by
  cases crosses with
  | leave left => exact .leave (move left)
  | pass passed rest =>
      rw [← List.append_assoc]
      exact .pass (move passed) rest

/-- A walk from a position of a level on, cut at the borders of its intervals. -/
structure Cut (depth : Nat) (level : List Region) (position : Nat) (marks : List Nat)
    (trace : List Invocation) (ending : Ending) : Prop where
  /-- From the start of an interval it is a walk through the boxed level. -/
  atBorder : ∀ {index : Nat} {outer : List Nat}, border level index = position →
    Fewer (border level) outer marks → Walks (boxedTo (depth + 1) level) index outer trace ending
  /-- Inside an interval of several regions it crosses the rest of it. -/
  inside : ∀ {index offset : Nat} {inner outer : List Nat},
    border level index + 1 < border level (index + 1) →
    border level index + offset = position → position < border level (index + 1) →
    Fewer (border level index + ·) inner marks → Fewer (border level) outer marks →
    Crosses (interval level index) (boxedTo (depth + 1) level) offset (index + 1) inner outer
      trace ending

section Cut

variable {depth : Nat} {level : List Region} {position : Nat} {marks : List Nat}
  {trace : List Invocation} {ending : Ending}

/-- Where the interval is over, its box is passed. -/
theorem Cut.crosses (cut : Cut depth level position marks trace ending) {index offset : Nat}
    {inner outer : List Nat} (several : border level index + 1 < border level (index + 1))
    (same : border level index + offset = position) (upTo : position ≤ border level (index + 1))
    (few : Fewer (border level index + ·) inner marks) (few' : Fewer (border level) outer marks) :
    Crosses (interval level index) (boxedTo (depth + 1) level) offset (index + 1) inner outer
      trace ending := by
  rcases Nat.eq_or_lt_of_le upTo with ended | before
  · have size := length_interval_le level index
    exact .pass (.past (by omega)) (cut.atBorder ended.symm few')
  · exact cut.inside several same before few few'

/-- A box is crossed by the walks of its interval, if boxing that loses none of them. -/
theorem Crosses.walks {index : Nat} {outer : List Nat}
    (lossless : ∀ {trace ending}, Walks (interval level index) 0 [] trace ending →
      Walks (boxedTo depth (interval level index)) 0 [] trace ending)
    (several : border level index + 1 < border level (index + 1))
    (crosses : Crosses (interval level index) (boxedTo (depth + 1) level) 0 (index + 1) [] outer
      trace ending) : Walks (boxedTo (depth + 1) level) index outer trace ending := by
  cases crosses with
  | leave left => exact .leave (getElem?_boxed_of_several several) (lossless left)
  | pass passed rest => exact .box (getElem?_boxed_of_several several) (lossless passed) rest

/-- A walk is cut if it is so inside intervals and on regions that are intervals. -/
theorem Cut.of_region {region : Region} (here : level[position]? = some region)
    (lossless : ∀ {part trace ending}, Walks part 0 [] trace ending →
      Walks (boxedTo depth part) 0 [] trace ending)
    (kept : ∀ {index : Nat} {outer : List Nat}, border level index = position →
      border level (index + 1) = position + 1 → (boxedTo (depth + 1) level)[index]? = some region →
      Fewer (border level) outer marks →
      Walks (boxedTo (depth + 1) level) index outer trace ending)
    (inside : ∀ {index offset : Nat} {inner outer : List Nat},
      border level index + 1 < border level (index + 1) →
      border level index + offset = position → position < border level (index + 1) →
      (interval level index)[offset]? = some region →
      Fewer (border level index + ·) inner marks → Fewer (border level) outer marks →
      Crosses (interval level index) (boxedTo (depth + 1) level) offset (index + 1) inner outer
        trace ending) : Cut depth level position marks trace ending where
  atBorder {index outer} same few := by
    subst same
    rcases Nat.eq_or_lt_of_le (Nat.succ_le_of_lt (border_strictMono level (Nat.lt_add_one index)))
      with single | several
    · exact kept rfl single.symm (getElem?_boxed here single.symm) few
    · have first : (interval level index)[0]? = some region :=
        (getElem?_interval (by omega)).trans here
      exact (inside several rfl (by omega) first fewer_nil few).walks lossless several
  inside several same high few few' :=
    inside several same high ((getElem?_interval (same ▸ high)).trans (same ▸ here)) few few'

/-- A move to the next region that marks nothing leaves a walk cut. -/
theorem Cut.step {region : Region} (calls : List Invocation) (here : level[position]? = some region)
    (lossless : ∀ {part trace ending}, Walks part 0 [] trace ending →
      Walks (boxedTo depth part) 0 [] trace ending)
    (move : ∀ {part : List Region} {place : Nat} {marks : List Nat} {trace : List Invocation}
      {ending : Ending}, part[place]? = some region →
      Walks part (place + 1) marks trace ending → Walks part place marks (calls ++ trace) ending)
    (cut : Cut depth level (position + 1) marks trace ending) :
    Cut depth level position marks (calls ++ trace) ending := by
  refine .of_region here lossless (fun _ single there few => ?_)
    (fun several same high there few few' => ?_)
  · exact move there (cut.atBorder single few)
  · exact (cut.crosses several (congrArg Nat.succ same) high few few').after calls (move there)

/-- A region in which a walk leaves the method leaves it cut. -/
theorem Cut.stop {region : Region} (here : level[position]? = some region)
    (lossless : ∀ {part trace ending}, Walks part 0 [] trace ending →
      Walks (boxedTo depth part) 0 [] trace ending)
    (move : ∀ {part : List Region} {place : Nat} {marks : List Nat}, part[place]? = some region →
      Walks part place marks trace .exit) : Cut depth level position marks trace .exit :=
  .of_region here lossless (fun _ _ there _ => move there)
    fun _ _ _ there _ _ => .leave (move there)

/-- A walk is cut at the borders, one move after the other. -/
theorem Walks.cut (lossless : ∀ {part trace ending}, Walks part 0 [] trace ending →
      Walks (boxedTo depth part) 0 [] trace ending)
    (walk : Walks level position marks trace ending) :
    Cut depth level position marks trace ending := by
  induction walk with
  | @past level position marks past =>
      constructor
      · rintro index outer rfl -
        exact .past (length_boxedTo_le depth past)
      · intro index offset inner outer several same high
        have := border_succ_le several
        omega
  | block here _ ih => exact .step _ here lossless .block ih
  | box here walkInner _ _ ih => exact .step _ here lossless (.box · walkInner) ih
  | leave here walkInner _ => exact .stop here lossless (.leave · walkInner)
  | ret here => exact .stop here lossless .ret
  | throw here => exact .stop here lossless .throw
  | label here fresh _ ih =>
      refine .of_region here lossless (fun same single there few => ?_)
        (fun several same high there few few' => ?_)
      · exact .label there (few.not_mem (same ▸ fresh)) (ih.atBorder single (few.cons same))
      · exact (ih.crosses several (congrArg Nat.succ same) high (few.cons same) few'.later).after
          [] (.label there (few.not_mem (same ▸ fresh)))
  | fall here _ ih => exact .step [] here lossless .fall ih
  | @jump level position place marks op target _ _ here jumps found notBack fresh _ ih =>
      have jump : place ∈ Region.jumps level (.control op) := mem_jumps.2 ⟨target, jumps, found⟩
      refine .of_region here lossless (fun {index outer} same single there few => ?_)
        (fun {index offset inner outer} several same high there few few' => ?_)
      · subst same
        obtain ⟨other, rfl, single'⟩ := place_of_single here jump single
        refine .jump there jumps (labelIndex?_boxed found single') (fun back => notBack ?_)
          (few.not_mem fresh) (ih.atBorder single' (few.cons rfl))
        exact ⟨back.1, border_strictMono level back.2⟩
      · obtain ⟨low', high'⟩ := place_of_several here jump several (by omega) high
        obtain ⟨offset', rfl⟩ := Nat.exists_eq_add_of_le low'
        refine (ih.crosses several (Nat.add_assoc _ offset' 1).symm high' (few.cons rfl)
          few'.later).after [] ?_
        refine .jump there jumps (labelIndex?_interval found high') (fun back => notBack ?_)
          (few.not_mem fresh)
        exact ⟨back.1, by have := back.2; omega⟩
  | @back level position place marks target line _ _ here found before room _ ih =>
      have jump : place ∈ Region.jumps level (.control (.branch target line)) :=
        mem_jumps.2 ⟨target, List.mem_singleton.2 rfl, found⟩
      refine .of_region here lossless (fun {index outer} same single there few => ?_)
        (fun {index offset inner outer} several same high there few few' => ?_)
      · subst same
        obtain ⟨other, rfl, single'⟩ := place_of_single here jump single
        exact .back there (labelIndex?_boxed found single')
          ((border_strictMono level).lt_iff_lt.1 before) (Nat.lt_of_le_of_lt (few index) room)
          (ih.atBorder single' (few.cons rfl))
      · subst same
        obtain ⟨low', high'⟩ := place_of_several here jump several (Nat.le_add_right _ _) high
        obtain ⟨offset', rfl⟩ := Nat.exists_eq_add_of_le low'
        refine (ih.crosses several (Nat.add_assoc _ offset' 1).symm high' (few.cons rfl)
          few'.later).after [] ?_
        exact .back there (labelIndex?_interval found high') (Nat.lt_of_add_lt_add_left before)
          (Nat.lt_of_le_of_lt (few offset) room)

end Cut

/-! ## Boxes lose no path -/

theorem walks_boxedTo (depth : Nat) {level : List Region} {trace : List Invocation}
    {ending : Ending} (walk : Walks level 0 [] trace ending) :
    Walks (boxedTo depth level) 0 [] trace ending := by
  induction depth generalizing level trace ending with
  | zero => exact walk
  | succ depth ih => exact (walk.cut ih).atBorder rfl fewer_nil

/-- A bounded run of a level is one of the boxed level. -/
theorem Walks.boxed {level : List Region} {trace : List Invocation} {ending : Ending}
    (walk : Walks level 0 [] trace ending) : Walks (boxed level) 0 [] trace ending :=
  walks_boxedTo level.length walk

/-- Every call sequence of the paths through code without boxes is one of the paths through its
boxes.  Neither repeated labels nor jumps without a label change that. -/
theorem paths_boxed_complete (code : TypedCode) :
    Path.languageOfAny (paths (ofCode code)) ≤
      Path.languageOfAny (paths (boxed (ofCode code))) := by
  intro trace mem
  obtain ⟨ending, walk⟩ := mem_languageOfAny_paths.1 mem
  exact mem_languageOfAny_paths.2 ⟨ending, walk.boxed⟩

end CallSearch.Region
