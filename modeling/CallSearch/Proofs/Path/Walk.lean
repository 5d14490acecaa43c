/-
# CallSearch.Proofs.Path.Walk — the paths through a level are its bounded runs

A bounded run passes no label twice on one level, with two exceptions: entering a box
again starts afresh, and a jump back skips the label it leads to and may be taken
twice.  `Walks` says this for runs by the calls they make.

* `mem_languageOfAny_level`: the paths of a level stand for the calls of its bounded
  runs, no more and no less;
* `allPassable_paths`: no path of a level is impossible;
* `Walks.runs`: bounded runs are runs;
* `walks_of_runs`: without jumps back every run is bounded.
-/
import CallSearch.Proofs.Path.Language
import CallSearch.Proofs.Region.Flatten

namespace CallSearch

set_option autoImplicit false

/-! ## One step of a walk -/

namespace Walk

variable {stages : List Stage} {position : Nat} {trail : Path} {marks : List Nat} {last : WalkEnd}

theorem mem_ends_past (past : stages.length ≤ position) :
    last ∈ ends stages position trail marks ↔ last = .through trail.reverse := by
  rw [ends, dif_neg (Nat.not_lt.2 past), List.mem_singleton]

theorem ends_of_getElem? {stage : Stage} (here : stages[position]? = some stage) :
    ∃ inside : position < stages.length, stages.get ⟨position, inside⟩ = stage :=
  List.getElem?_eq_some_iff.1 here

theorem mem_ends_block {calls : List Invocation} (here : stages[position]? = some (.block calls)) :
    last ∈ ends stages position trail marks ↔
      last ∈ ends stages (position + 1) (.block calls :: trail) marks := by
  obtain ⟨inside, same⟩ := ends_of_getElem? here
  rw [ends, dif_pos inside]
  simp only [same]

theorem mem_ends_box {through exits : List Path}
    (here : stages[position]? = some (.box through exits)) :
    last ∈ ends stages position trail marks ↔
      (exits ≠ [] ∧ last = .exit (.nested exits :: trail).reverse) ∨
        (through ≠ [] ∧ last ∈ ends stages (position + 1) (.nested through :: trail) marks) := by
  obtain ⟨inside, same⟩ := ends_of_getElem? here
  rw [ends, dif_pos inside]
  simp only [same, List.mem_append]
  refine or_congr ?_ ?_
  · cases exits <;> simp
  · cases through <;> simp

theorem mem_ends_ret {line : Option Nat}
    (here : stages[position]? = some (.control (.ret line))) :
    last ∈ ends stages position trail marks ↔ last = .exit trail.reverse := by
  obtain ⟨inside, same⟩ := ends_of_getElem? here
  rw [ends, dif_pos inside]
  simp only [same, List.mem_singleton]

theorem mem_ends_throw {line : Option Nat}
    (here : stages[position]? = some (.control (.throw line))) :
    last ∈ ends stages position trail marks ↔ last = .exit trail.reverse := by
  obtain ⟨inside, same⟩ := ends_of_getElem? here
  rw [ends, dif_pos inside]
  simp only [same, List.mem_singleton]

theorem mem_ends_label {name : String}
    (here : stages[position]? = some (.control (.label name))) :
    last ∈ ends stages position trail marks ↔
      position ∉ marks ∧ last ∈ ends stages (position + 1) trail (position :: marks) := by
  obtain ⟨inside, same⟩ := ends_of_getElem? here
  rw [ends, dif_pos inside]
  simp only [same]
  split <;> simp [*]

theorem mem_ends_condBranch {target : String} {line : Option Nat}
    (here : stages[position]? = some (.control (.condBranch target line))) :
    last ∈ ends stages position trail marks ↔
      (∃ place, labelIndex? target stages = some place ∧ place ∉ marks ∧
        last ∈ ends stages (place + 1) trail (place :: marks)) ∨
        last ∈ ends stages (position + 1) trail marks := by
  obtain ⟨inside, same⟩ := ends_of_getElem? here
  rw [ends, dif_pos inside]
  simp only [same, List.mem_append]
  refine or_congr_left ?_
  split
  · next none => simp [none]
  · next place found =>
    split <;> simp [*]

theorem mem_ends_branch {target : String} {line : Option Nat}
    (here : stages[position]? = some (.control (.branch target line))) :
    last ∈ ends stages position trail marks ↔
      ∃ place, labelIndex? target stages = some place ∧
        (place < position ∧ marks.count position < backPasses ∧
            last ∈ ends stages (place + 1) trail (position :: marks) ∨
          position ≤ place ∧ place ∉ marks ∧
            last ∈ ends stages (place + 1) trail (place :: marks)) := by
  obtain ⟨inside, same⟩ := ends_of_getElem? here
  rw [ends, dif_pos inside]
  simp only [same]
  split
  · next none => simp [none]
  · next place found =>
    split
    · next back => split <;> simp [*, Nat.not_le.2 back]
    · next ahead => split <;> simp [*, Nat.le_of_not_lt ahead]

theorem mem_ends_multiBranch {targets : List String} {line : Option Nat}
    (here : stages[position]? = some (.control (.multiBranch targets line))) :
    last ∈ ends stages position trail marks ↔
      ∃ target ∈ targets, ∃ place, labelIndex? target stages = some place ∧ place ∉ marks ∧
        last ∈ ends stages (place + 1) trail (place :: marks) := by
  obtain ⟨inside, same⟩ := ends_of_getElem? here
  rw [ends, dif_pos inside]
  simp only [same, List.mem_flatMap, List.mem_eraseDups, List.mem_filterMap]
  constructor
  · rintro ⟨place, ⟨target, mem, found⟩, h⟩
    split at h
    · next fresh => exact ⟨target, mem, place, found, fresh.2, h⟩
    · cases h
  · rintro ⟨target, mem, place, found, fresh, h⟩
    refine ⟨place, ⟨target, mem, found⟩, ?_⟩
    rw [dif_pos ⟨labelIndex?_lt found, fresh⟩]
    exact h

/-- Induction along walks, by what stands at a position: a jump leads behind a label that the walk
did not pass, or back as long as passes are left. -/
@[elab_as_elim]
theorem ends_induction (stages : List Stage) {motive : Nat → Path → List Nat → Prop}
    (past : ∀ position trail marks, stages.length ≤ position → motive position trail marks)
    (block : ∀ position trail marks calls, stages[position]? = some (.block calls) →
      motive (position + 1) (.block calls :: trail) marks → motive position trail marks)
    (box : ∀ position trail marks through exits, stages[position]? = some (.box through exits) →
      motive (position + 1) (.nested through :: trail) marks → motive position trail marks)
    (ret : ∀ position trail marks line, stages[position]? = some (.control (.ret line)) →
      motive position trail marks)
    (throw : ∀ position trail marks line, stages[position]? = some (.control (.throw line)) →
      motive position trail marks)
    (condBranch : ∀ position trail marks target line,
      stages[position]? = some (.control (.condBranch target line)) →
      (∀ place, labelIndex? target stages = some place → place ∉ marks →
        motive (place + 1) trail (place :: marks)) →
      motive (position + 1) trail marks → motive position trail marks)
    (branch : ∀ position trail marks target line,
      stages[position]? = some (.control (.branch target line)) →
      (∀ place, labelIndex? target stages = some place → place < position →
        marks.count position < backPasses → motive (place + 1) trail (position :: marks)) →
      (∀ place, labelIndex? target stages = some place → position ≤ place → place ∉ marks →
        motive (place + 1) trail (place :: marks)) →
      motive position trail marks)
    (multiBranch : ∀ position trail marks targets line,
      stages[position]? = some (.control (.multiBranch targets line)) →
      (∀ target ∈ targets, ∀ place, labelIndex? target stages = some place → place ∉ marks →
        motive (place + 1) trail (place :: marks)) →
      motive position trail marks)
    (label : ∀ position trail marks name, stages[position]? = some (.control (.label name)) →
      (position ∉ marks → motive (position + 1) trail (position :: marks)) →
      motive position trail marks)
    (position : Nat) (trail : Path) (marks : List Nat) : motive position trail marks := by
  -- The recursion has a case for each way a jump turns out; here the jump is one case.
  induction position, trail, marks using ends.induct stages with
  | case1 position trail marks inside calls same ih =>
      exact block _ _ _ _ (List.getElem?_eq_some_iff.2 ⟨inside, same⟩) ih
  | case2 position trail marks inside through exits same ih =>
      exact box _ _ _ _ _ (List.getElem?_eq_some_iff.2 ⟨inside, same⟩) ih
  | case3 position trail marks inside line same =>
      exact ret _ _ _ _ (List.getElem?_eq_some_iff.2 ⟨inside, same⟩)
  | case4 position trail marks inside line same =>
      exact throw _ _ _ _ (List.getElem?_eq_some_iff.2 ⟨inside, same⟩)
  | case5 position trail marks inside target line same jumped fell =>
      exact condBranch _ _ _ _ _ (List.getElem?_eq_some_iff.2 ⟨inside, same⟩) jumped fell
  | case6 position trail marks inside target line same none =>
      exact branch _ _ _ _ _ (List.getElem?_eq_some_iff.2 ⟨inside, same⟩)
        (fun _ found => nomatch none.symm.trans found) fun _ found => nomatch none.symm.trans found
  | case7 position trail marks inside target line same place found before room ih =>
      refine branch _ _ _ _ _ (List.getElem?_eq_some_iff.2 ⟨inside, same⟩)
        (fun other there _ _ => ?_) fun other there ahead _ => ?_
      · exact Option.some.inj (found.symm.trans there) ▸ ih
      · cases found.symm.trans there
        exact absurd before (Nat.not_lt.2 ahead)
  | case8 position trail marks inside target line same place found before full =>
      refine branch _ _ _ _ _ (List.getElem?_eq_some_iff.2 ⟨inside, same⟩)
        (fun _ _ _ room => absurd room full) fun other there ahead _ => ?_
      cases found.symm.trans there
      exact absurd before (Nat.not_lt.2 ahead)
  | case9 position trail marks inside target line same place found ahead passed =>
      refine branch _ _ _ _ _ (List.getElem?_eq_some_iff.2 ⟨inside, same⟩)
        (fun other there before _ => ?_) fun other there _ fresh => ?_
      · cases found.symm.trans there
        exact absurd before ahead
      · cases found.symm.trans there
        exact absurd passed fresh
  | case10 position trail marks inside target line same place found ahead fresh ih =>
      refine branch _ _ _ _ _ (List.getElem?_eq_some_iff.2 ⟨inside, same⟩)
        (fun other there before _ => ?_) fun other there _ _ => ?_
      · cases found.symm.trans there
        exact absurd before ahead
      · exact Option.some.inj (found.symm.trans there) ▸ ih
  | case11 position trail marks inside targets line same ih =>
      exact multiBranch _ _ _ _ _ (List.getElem?_eq_some_iff.2 ⟨inside, same⟩)
        fun _ _ place found fresh => ih place ⟨labelIndex?_lt found, fresh⟩
  | case12 position trail marks inside name same passed =>
      exact label _ _ _ _ (List.getElem?_eq_some_iff.2 ⟨inside, same⟩)
        fun fresh => absurd passed fresh
  | case13 position trail marks inside name same fresh ih =>
      exact label _ _ _ _ (List.getElem?_eq_some_iff.2 ⟨inside, same⟩) fun _ => ih
  | case14 position trail marks outside =>
      exact past _ _ _ (Nat.not_lt.1 outside)

end Walk

namespace Region

/-! ## Bounded runs -/

/-- An unconditional jump to a place before it. -/
def JumpsBack (op : Control) (position place : Nat) : Prop :=
  (∃ target line, op = .branch target line) ∧ place < position

/-- The bounded runs through `level` from a position on, by the calls they make and the way they
end.  `marks` holds the labels passed and, once a pass, the jumps back taken. -/
inductive Walks : List Region → Nat → List Nat → List Invocation → Ending → Prop
  | past {level : List Region} {position : Nat} {marks : List Nat} :
      level.length ≤ position → Walks level position marks [] .through
  | block {level : List Region} {position : Nat} {marks : List Nat}
      {calls trace : List Invocation} {ending : Ending} :
      level[position]? = some (.block calls) →
      Walks level (position + 1) marks trace ending →
      Walks level position marks (calls ++ trace) ending
  | box {level inner : List Region} {position : Nat} {marks : List Nat}
      {first second : List Invocation} {ending : Ending} :
      level[position]? = some (.box inner) → Walks inner 0 [] first .through →
      Walks level (position + 1) marks second ending →
      Walks level position marks (first ++ second) ending
  | leave {level inner : List Region} {position : Nat} {marks : List Nat}
      {trace : List Invocation} :
      level[position]? = some (.box inner) → Walks inner 0 [] trace .exit →
      Walks level position marks trace .exit
  | ret {level : List Region} {position : Nat} {marks : List Nat} {line : Option Nat} :
      level[position]? = some (.control (.ret line)) → Walks level position marks [] .exit
  | throw {level : List Region} {position : Nat} {marks : List Nat} {line : Option Nat} :
      level[position]? = some (.control (.throw line)) → Walks level position marks [] .exit
  | label {level : List Region} {position : Nat} {marks : List Nat} {name : String}
      {trace : List Invocation} {ending : Ending} :
      level[position]? = some (.control (.label name)) → position ∉ marks →
      Walks level (position + 1) (position :: marks) trace ending →
      Walks level position marks trace ending
  | fall {level : List Region} {position : Nat} {marks : List Nat} {target : String}
      {line : Option Nat} {trace : List Invocation} {ending : Ending} :
      level[position]? = some (.control (.condBranch target line)) →
      Walks level (position + 1) marks trace ending → Walks level position marks trace ending
  | jump {level : List Region} {position place : Nat} {marks : List Nat} {op : Control}
      {target : String} {trace : List Invocation} {ending : Ending} :
      level[position]? = some (.control op) → target ∈ op.targets →
      labelIndex? target level = some place → ¬ JumpsBack op position place → place ∉ marks →
      Walks level (place + 1) (place :: marks) trace ending →
      Walks level position marks trace ending
  | back {level : List Region} {position place : Nat} {marks : List Nat} {target : String}
      {line : Option Nat} {trace : List Invocation} {ending : Ending} :
      level[position]? = some (.control (.branch target line)) →
      labelIndex? target level = some place → place < position →
      marks.count position < Walk.backPasses →
      Walks level (place + 1) (position :: marks) trace ending →
      Walks level position marks trace ending

/-- A walk that ends in some way. -/
def Ending.of : Ending → Path → WalkEnd
  | .through, path => .through path
  | .exit, path => .exit path

/-- The paths of a level that end in some way. -/
def Ending.paths : Ending → Level → List Path
  | .through, level => level.through
  | .exit, level => level.exits

theorem mem_paths_ofStages {stages : List Stage} {ending : Ending} {path : Path} :
    path ∈ ending.paths (Level.ofStages stages) ↔ ending.of path ∈ Walk.ends stages 0 [] [] := by
  cases ending with
  | through =>
      rw [Ending.paths, Level.ofStages, mem_sortUnique, List.mem_filterMap]
      constructor
      · rintro ⟨last, mem, same⟩
        cases last with
        | through other => cases same; exact mem
        | exit other => cases same
      · intro mem
        exact ⟨_, mem, rfl⟩
  | exit =>
      rw [Ending.paths, Level.ofStages, mem_sortUnique, List.mem_filterMap]
      constructor
      · rintro ⟨last, mem, same⟩
        cases last with
        | through other => cases same
        | exit other => cases same; exact mem
      · intro mem
        exact ⟨_, mem, rfl⟩

theorem stages_eq_map (level : List Region) : stages level = level.map stage := by
  induction level with
  | nil => rfl
  | cons region rest ih => rw [stages, ih, List.map_cons]

theorem getElem?_stages {level : List Region} {position : Nat} {region : Region}
    (here : level[position]? = some region) :
    (stages level)[position]? = some region.stage := by
  rw [stages_eq_map, List.getElem?_map, here, Option.map_some]

theorem labelIndex?_stages (name : String) (level : List Region) :
    Walk.labelIndex? name (stages level) = labelIndex? name level := by
  induction level with
  | nil => rfl
  | cons region rest ih =>
      rw [stages, Walk.labelIndex?, labelIndex?, ih]
      have same : Walk.isLabel name region.stage = region.isLabel name := by
        cases region with
        | block calls => rfl
        | box inner => rfl
        | control op => cases op <;> rfl
      cases labelIndex? name rest <;> simp only [same]

/-! ## Paths of bounded runs -/

/-- A walk goes on behind every label that a jump leads to, but for a jump back. -/
theorem mem_ends_of_jump {level : List Region} {position place : Nat} {op : Control}
    {target : String} {trail : Path} {marks : List Nat} {last : WalkEnd}
    (here : level[position]? = some (.control op)) (jumps : target ∈ op.targets)
    (there : labelIndex? target level = some place) (ahead : ¬ JumpsBack op position place)
    (fresh : place ∉ marks)
    (found : last ∈ Walk.ends (stages level) (place + 1) trail (place :: marks)) :
    last ∈ Walk.ends (stages level) position trail marks := by
  have index := (labelIndex?_stages target level).trans there
  cases op with
  | ret | throw | label => cases jumps
  | condBranch other line =>
      obtain rfl := List.mem_singleton.1 jumps
      rw [Walk.mem_ends_condBranch (getElem?_stages here)]
      exact Or.inl ⟨place, index, fresh, found⟩
  | branch other line =>
      obtain rfl := List.mem_singleton.1 jumps
      rw [Walk.mem_ends_branch (getElem?_stages here)]
      have forward : position ≤ place := Nat.not_lt.1 fun back => ahead ⟨⟨_, _, rfl⟩, back⟩
      exact ⟨place, index, Or.inr ⟨forward, fresh, found⟩⟩
  | multiBranch targets line =>
      rw [Walk.mem_ends_multiBranch (getElem?_stages here)]
      exact ⟨target, jumps, place, index, fresh, found⟩

/-- Every bounded run is on a path. -/
theorem exists_path_of_walks {level : List Region} {position : Nat} {marks : List Nat}
    {trace : List Invocation} {ending : Ending} (walk : Walks level position marks trace ending)
    (trail : Path) : ∃ path, trace ∈ Path.language path ∧
      ending.of (trail.reverse ++ path) ∈ Walk.ends (stages level) position trail marks := by
  induction walk generalizing trail with
  | past past =>
      refine ⟨[], by simp [Path.language], ?_⟩
      rw [Walk.mem_ends_past (by simpa [stages_eq_map] using past), List.append_nil]
      rfl
  | @block _ _ _ calls trace _ here _ ih =>
      obtain ⟨path, mem, found⟩ := ih (.block calls :: trail)
      refine ⟨.block calls :: path, ?_, ?_⟩
      · rw [Path.language, Path.stepLanguage]
        exact Language.mem_mul.2 ⟨calls, rfl, trace, mem, rfl⟩
      · rw [Walk.mem_ends_block (getElem?_stages here)]
        simpa using found
  | @box _ inner _ _ first second _ here _ _ ihInner ih =>
      let through := (Level.ofStages (stages inner)).through
      obtain ⟨nested, memInner, foundInner⟩ := ihInner []
      have listed : nested ∈ through :=
        mem_paths_ofStages.2 (by simpa using foundInner)
      obtain ⟨path, mem, found⟩ := ih (.nested through :: trail)
      refine ⟨.nested through :: path, ?_, ?_⟩
      · rw [Path.language, Path.stepLanguage]
        exact Language.mem_mul.2
          ⟨first, Path.mem_languageOfAny.2 ⟨nested, listed, memInner⟩, second, mem, rfl⟩
      · rw [Walk.mem_ends_box (getElem?_stages here)]
        exact Or.inr ⟨List.ne_nil_of_mem listed, by simpa using found⟩
  | @leave _ inner _ _ trace here _ ihInner =>
      let exits := (Level.ofStages (stages inner)).exits
      obtain ⟨nested, memInner, foundInner⟩ := ihInner []
      have listed : nested ∈ exits :=
        mem_paths_ofStages.2 (by simpa using foundInner)
      refine ⟨[.nested exits], ?_, ?_⟩
      · rw [Path.language, Path.stepLanguage, Path.language, mul_one]
        exact Path.mem_languageOfAny.2 ⟨nested, listed, memInner⟩
      · rw [Walk.mem_ends_box (getElem?_stages here)]
        refine Or.inl ⟨List.ne_nil_of_mem listed, ?_⟩
        rw [List.reverse_cons]
        rfl
  | ret here =>
      refine ⟨[], by simp [Path.language], ?_⟩
      rw [Walk.mem_ends_ret (getElem?_stages here), List.append_nil]
      rfl
  | throw here =>
      refine ⟨[], by simp [Path.language], ?_⟩
      rw [Walk.mem_ends_throw (getElem?_stages here), List.append_nil]
      rfl
  | label here fresh _ ih =>
      obtain ⟨path, mem, found⟩ := ih trail
      refine ⟨path, mem, ?_⟩
      rw [Walk.mem_ends_label (getElem?_stages here)]
      exact ⟨fresh, found⟩
  | fall here _ ih =>
      obtain ⟨path, mem, found⟩ := ih trail
      refine ⟨path, mem, ?_⟩
      rw [Walk.mem_ends_condBranch (getElem?_stages here)]
      exact Or.inr found
  | jump here jumps there ahead fresh _ ih =>
      obtain ⟨path, mem, found⟩ := ih trail
      exact ⟨path, mem, mem_ends_of_jump here jumps there ahead fresh found⟩
  | @back _ _ place _ target _ _ _ here there before room _ ih =>
      obtain ⟨path, mem, found⟩ := ih trail
      refine ⟨path, mem, ?_⟩
      rw [Walk.mem_ends_branch (getElem?_stages here)]
      exact ⟨place, (labelIndex?_stages target _).trans there, Or.inl ⟨before, room, found⟩⟩

/-- A path that can be passed, and stands for bounded runs from a position on only. -/
structure Traced (level : List Region) (position : Nat) (marks : List Nat) (ending : Ending)
    (path : Path) : Prop where
  passable : Path.Passable path
  walks : ∀ trace ∈ Path.language path, Walks level position marks trace ending

/-- The paths of a level, in whichever way they end, stand for its bounded runs only. -/
def SoundLevel (inner : List Region) : Prop :=
  ∀ ending : Ending, ∀ path ∈ ending.paths (Level.ofStages (stages inner)),
    Traced inner 0 [] ending path

theorem SoundLevel.stepPassable {inner : List Region} (sound : SoundLevel inner) (ending : Ending)
    (some : ending.paths (Level.ofStages (stages inner)) ≠ []) :
    Path.StepPassable (.nested (ending.paths (Level.ofStages (stages inner)))) := by
  rw [Path.StepPassable]
  exact ⟨some, Path.allPassable_iff.2 fun path mem => (sound ending path mem).passable⟩

theorem SoundLevel.walks {inner : List Region} (sound : SoundLevel inner) {ending : Ending}
    {trace : List Invocation}
    (mem : trace ∈ Path.languageOfAny (ending.paths (Level.ofStages (stages inner)))) :
    Walks inner 0 [] trace ending := by
  obtain ⟨path, listed, mem⟩ := Path.mem_languageOfAny.1 mem
  exact (sound ending path listed).walks trace mem

section Traced

variable {level inner : List Region} {position : Nat} {marks : List Nat} {ending : Ending}
  {path : Path}

theorem traced_nil (walk : Walks level position marks [] ending) :
    Traced level position marks ending [] where
  passable := by simp [Path.Passable]
  walks trace mem := by
    rw [Path.language, Language.mem_one] at mem
    exact mem ▸ walk

theorem Traced.imp {next : Nat} {marks' : List Nat} (traced : Traced level next marks' ending path)
    (h : ∀ trace, Walks level next marks' trace ending → Walks level position marks trace ending) :
    Traced level position marks ending path :=
  ⟨traced.passable, fun trace mem => h trace (traced.walks trace mem)⟩

theorem Traced.block {calls : List Invocation} (here : level[position]? = some (.block calls))
    (traced : Traced level (position + 1) marks ending path) :
    Traced level position marks ending (.block calls :: path) where
  passable := by simp [Path.Passable, Path.StepPassable, traced.passable]
  walks trace mem := by
    rw [Path.language, Path.stepLanguage] at mem
    obtain ⟨_, rfl, second, tail, rfl⟩ := Language.mem_mul.1 mem
    exact .block here (traced.walks second tail)

theorem Traced.box (here : level[position]? = some (.box inner)) (sound : SoundLevel inner)
    (some : (Level.ofStages (stages inner)).through ≠ [])
    (traced : Traced level (position + 1) marks ending path) :
    Traced level position marks ending
      (.nested (Level.ofStages (stages inner)).through :: path) where
  passable := ⟨sound.stepPassable .through some, traced.passable⟩
  walks trace mem := by
    rw [Path.language, Path.stepLanguage] at mem
    obtain ⟨first, memInner, second, tail, rfl⟩ := Language.mem_mul.1 mem
    exact .box here (sound.walks memInner) (traced.walks second tail)

theorem traced_leave (here : level[position]? = some (.box inner)) (sound : SoundLevel inner)
    (some : (Level.ofStages (stages inner)).exits ≠ []) :
    Traced level position marks .exit [.nested (Level.ofStages (stages inner)).exits] where
  passable := by
    simp only [Path.Passable, and_true]
    exact sound.stepPassable .exit some
  walks trace mem := by
    rw [Path.language, Path.stepLanguage, Path.language, mul_one] at mem
    exact .leave here (sound.walks mem)

end Traced

theorem getElem?_of_stage {level : List Region} {position : Nat} {stage : Stage}
    (here : (stages level)[position]? = some stage) :
    ∃ region, level[position]? = some region ∧ region.stage = stage := by
  rw [stages_eq_map, List.getElem?_map] at here
  exact Option.map_eq_some_iff.1 here

theorem getElem?_of_stage_control {level : List Region} {position : Nat} {op : Control}
    (here : (stages level)[position]? = some (.control op)) :
    level[position]? = some (.control op) := by
  obtain ⟨region, here, same⟩ := getElem?_of_stage here
  cases region with
  | block calls => cases same
  | box inner => cases same
  | control other =>
      cases same
      exact here

theorem Ending.of_eq_through {ending : Ending} {path path' : Path}
    (h : ending.of path = .through path') : ending = .through ∧ path = path' := by
  cases ending with
  | through => exact ⟨rfl, WalkEnd.through.inj h⟩
  | exit => cases h

theorem Ending.of_eq_exit {ending : Ending} {path path' : Path}
    (h : ending.of path = .exit path') : ending = .exit ∧ path = path' := by
  cases ending with
  | through => cases h
  | exit => exact ⟨rfl, WalkEnd.exit.inj h⟩

theorem not_jumpsBack {op : Control} {position place : Nat}
    (other : ∀ target line, op ≠ .branch target line) : ¬ JumpsBack op position place := by
  rintro ⟨⟨target, line, same⟩, -⟩
  exact other target line same

/-- What a walk adds to its trail stands for bounded runs. -/
theorem exists_traced_of_mem_ends {level : List Region}
    (sound : ∀ inner, .box inner ∈ level → SoundLevel inner) (position : Nat) (trail : Path)
    (marks : List Nat) {ending : Ending} {path : Path}
    (mem : ending.of path ∈ Walk.ends (stages level) position trail marks) :
    ∃ rest, path = trail.reverse ++ rest ∧ Traced level position marks ending rest := by
  induction position, trail, marks using Walk.ends_induction (stages level) with
  | past position trail marks past =>
      obtain ⟨rfl, rfl⟩ := Ending.of_eq_through ((Walk.mem_ends_past past).1 mem)
      exact ⟨[], (List.append_nil _).symm,
        traced_nil (.past (by simpa [stages_eq_map] using past))⟩
  | block position trail marks calls stage ih =>
      rw [Walk.mem_ends_block stage] at mem
      obtain ⟨region, here, same⟩ := getElem?_of_stage stage
      cases region with
      | block other =>
          cases same
          obtain ⟨rest, rfl, traced⟩ := ih mem
          exact ⟨.block calls :: rest, by simp, traced.block here⟩
      | box inner => cases same
      | control op => cases same
  | box position trail marks through exits stage ih =>
      rw [Walk.mem_ends_box stage] at mem
      obtain ⟨region, here, same⟩ := getElem?_of_stage stage
      cases region with
      | block calls => cases same
      | control op => cases same
      | box inner =>
          cases same
          have soundInner := sound inner (List.mem_of_getElem? here)
          rcases mem with ⟨some, left⟩ | ⟨some, passed⟩
          · obtain ⟨rfl, rfl⟩ := Ending.of_eq_exit left
            exact ⟨[.nested _], List.reverse_cons, traced_leave here soundInner some⟩
          · obtain ⟨rest, rfl, traced⟩ := ih passed
            exact ⟨.nested _ :: rest, by simp, traced.box here soundInner some⟩
  | ret position trail marks line stage =>
      obtain ⟨rfl, rfl⟩ := Ending.of_eq_exit ((Walk.mem_ends_ret stage).1 mem)
      exact ⟨[], (List.append_nil _).symm, traced_nil (.ret (getElem?_of_stage_control stage))⟩
  | throw position trail marks line stage =>
      obtain ⟨rfl, rfl⟩ := Ending.of_eq_exit ((Walk.mem_ends_throw stage).1 mem)
      exact ⟨[], (List.append_nil _).symm, traced_nil (.throw (getElem?_of_stage_control stage))⟩
  | condBranch position trail marks target line stage ihJump ihFall =>
      have here := getElem?_of_stage_control stage
      rcases (Walk.mem_ends_condBranch stage).1 mem with ⟨place, found, fresh, jumped⟩ | fell
      · obtain ⟨rest, split, traced⟩ := ihJump place found fresh jumped
        rw [labelIndex?_stages] at found
        exact ⟨rest, split, traced.imp fun _ =>
          .jump here List.mem_cons_self found (not_jumpsBack fun _ _ h => nomatch h) fresh⟩
      · obtain ⟨rest, split, traced⟩ := ihFall fell
        exact ⟨rest, split, traced.imp fun _ => .fall here⟩
  | branch position trail marks target line stage ihBack ihAhead =>
      have here := getElem?_of_stage_control stage
      obtain ⟨place, found, ⟨before, room, jumped⟩ | ⟨ahead, fresh, jumped⟩⟩ :=
        (Walk.mem_ends_branch stage).1 mem
      · obtain ⟨rest, split, traced⟩ := ihBack place found before room jumped
        rw [labelIndex?_stages] at found
        exact ⟨rest, split, traced.imp fun _ => .back here found before room⟩
      · obtain ⟨rest, split, traced⟩ := ihAhead place found ahead fresh jumped
        rw [labelIndex?_stages] at found
        exact ⟨rest, split, traced.imp fun _ => .jump here List.mem_cons_self found
          (fun back => Nat.not_lt.2 ahead back.2) fresh⟩
  | multiBranch position trail marks targets line stage ih =>
      obtain ⟨target, jumps, place, found, fresh, jumped⟩ :=
        (Walk.mem_ends_multiBranch stage).1 mem
      obtain ⟨rest, split, traced⟩ := ih target jumps place found fresh jumped
      rw [labelIndex?_stages] at found
      exact ⟨rest, split, traced.imp fun _ => .jump (getElem?_of_stage_control stage) jumps found
        (not_jumpsBack fun _ _ h => nomatch h) fresh⟩
  | label position trail marks name stage ih =>
      obtain ⟨fresh, passed⟩ := (Walk.mem_ends_label stage).1 mem
      obtain ⟨rest, split, traced⟩ := ih fresh passed
      exact ⟨rest, split, traced.imp fun _ => .label (getElem?_of_stage_control stage) fresh⟩

theorem soundLevel (level : List Region) : SoundLevel level := by
  intro ending path mem
  have inside : ∀ inner, .box inner ∈ level → SoundLevel inner := fun inner here =>
    have := List.sizeOf_lt_of_mem here
    soundLevel inner
  -- A walk from the start has an empty trail, so what it adds is the whole path.
  obtain ⟨rest, rfl, traced⟩ :=
    exists_traced_of_mem_ends inside 0 [] [] (mem_paths_ofStages.1 mem)
  exact traced
termination_by sizeOf level
decreasing_by
  simp at this
  omega

/-- The paths of a level stand for the calls of its bounded runs. -/
theorem mem_languageOfAny_level {regions : List Region} {ending : Ending}
    {trace : List Invocation} :
    trace ∈ Path.languageOfAny (ending.paths (level regions)) ↔ Walks regions 0 [] trace ending := by
  constructor
  · exact (soundLevel regions).walks
  · intro walk
    obtain ⟨path, mem, found⟩ := exists_path_of_walks walk []
    exact Path.mem_languageOfAny.2 ⟨path, mem_paths_ofStages.2 (by simpa using found), mem⟩

/-- The paths through a method body stand for the calls of its bounded runs. -/
theorem mem_languageOfAny_paths {regions : List Region} {trace : List Invocation} :
    trace ∈ Path.languageOfAny (paths regions) ↔ ∃ ending, Walks regions 0 [] trace ending := by
  rw [paths, Path.languageOfAny_sortUnique, Path.mem_languageOfAny]
  constructor
  · rintro ⟨path, listed, mem⟩
    rcases List.mem_append.1 listed with listed | listed
    · exact ⟨.through, mem_languageOfAny_level.1 (Path.mem_languageOfAny.2 ⟨path, listed, mem⟩)⟩
    · exact ⟨.exit, mem_languageOfAny_level.1 (Path.mem_languageOfAny.2 ⟨path, listed, mem⟩)⟩
  · rintro ⟨ending, walk⟩
    obtain ⟨path, listed, mem⟩ := Path.mem_languageOfAny.1 (mem_languageOfAny_level.2 walk)
    cases ending with
    | through => exact ⟨path, List.mem_append_left _ listed, mem⟩
    | exit => exact ⟨path, List.mem_append_right _ listed, mem⟩

/-- No path through a method body is impossible. -/
theorem allPassable_paths (regions : List Region) : Path.AllPassable (paths regions) := by
  refine Path.allPassable_sortUnique (Path.allPassable_iff.2 fun path listed => ?_)
  rcases List.mem_append.1 listed with listed | listed
  · exact (soundLevel regions .through path listed).passable
  · exact (soundLevel regions .exit path listed).passable

/-! ## Bounded runs and runs -/

theorem drop_eq_cons {level : List Region} {position : Nat} {region : Region}
    (here : level[position]? = some region) :
    level.drop position = region :: level.drop (position + 1) := by
  obtain ⟨inside, rfl⟩ := List.getElem?_eq_some_iff.1 here
  exact List.drop_eq_getElem_cons inside

theorem getElem?_of_drop {level rest : List Region} {position : Nat} {region : Region}
    (h : level.drop position = region :: rest) :
    level[position]? = some region ∧ level.drop (position + 1) = rest := by
  constructor
  · rw [← List.head?_drop, h, List.head?_cons]
  · rw [← List.drop_drop, h, List.drop_one, List.tail_cons]

theorem label_suffix_of_labelIndex? {level : List Region} {target : String} {place : Nat}
    (found : labelIndex? target level = some place) :
    .control (.label target) :: level.drop (place + 1) <:+ level := by
  rw [← drop_eq_cons (labelIndex?_eq_some found)]
  exact List.drop_suffix _ _

/-- A bounded run is a run. -/
theorem Walks.runs {level : List Region} {position : Nat} {marks : List Nat}
    {trace : List Invocation} {ending : Ending} (walk : Walks level position marks trace ending) :
    Runs level (level.drop position) trace ending := by
  induction walk with
  | past past =>
      rw [List.drop_eq_nil_of_le past]
      exact .past
  | block here _ ih =>
      rw [drop_eq_cons here]
      exact .block ih
  | box here _ _ ihInner ih =>
      rw [drop_eq_cons here]
      exact .box ihInner ih
  | leave here _ ihInner =>
      rw [drop_eq_cons here]
      exact .leave ihInner
  | ret here =>
      rw [drop_eq_cons here]
      exact .ret
  | throw here =>
      rw [drop_eq_cons here]
      exact .throw
  | label here _ _ ih =>
      rw [drop_eq_cons here]
      exact .label ih
  | fall here _ ih =>
      rw [drop_eq_cons here]
      exact .fall ih
  | jump here jumps found _ _ _ ih =>
      rw [drop_eq_cons here]
      exact .jump jumps (label_suffix_of_labelIndex? found) (.label ih)
  | back here found _ _ _ ih =>
      rw [drop_eq_cons here]
      exact .jump List.mem_cons_self (label_suffix_of_labelIndex? found) (.label ih)

/-- The label a region defines on its level. -/
def label? : Region → Option String
  | .control (.label name) => some name
  | _ => none

theorem filterMap_label?_sublist (level : List Region) :
    (level.filterMap label?).Sublist (Code.labels (flat level)) := by
  induction level with
  | nil => exact .refl _
  | cons region rest ih =>
      rw [flat, Code.labels_append]
      have one : region.label?.toList.Sublist (Code.labels (flatOne region)) := by
        cases region with
        | block calls => exact List.nil_sublist _
        | box inner => exact List.nil_sublist _
        | control op => cases op <;> exact .refl _
      have split : (region :: rest).filterMap label? =
          region.label?.toList ++ rest.filterMap label? := by
        rw [List.filterMap_cons]
        cases region.label? <;> rfl
      rw [split]
      exact one.append ih

/-- Where no label is defined twice, a label of a level is found at one place only. -/
theorem drop_labelIndex? {level after : List Region}
    (distinct : (Code.labels (flat level)).Nodup) {target : String} {place : Nat}
    (found : labelIndex? target level = some place)
    (sub : .control (.label target) :: after <:+ level) :
    level.drop place = .control (.label target) :: after := by
  rw [drop_eq_cons (labelIndex?_eq_some found)]
  exact suffix_eq_of_name ((filterMap_label?_sublist level).nodup distinct) rfl rfl
    (label_suffix_of_labelIndex? found) sub

theorem Walks.label_inv {level : List Region} {position : Nat} {marks : List Nat} {name : String}
    {trace : List Invocation} {ending : Ending}
    (here : level[position]? = some (.control (.label name)))
    (walk : Walks level position marks trace ending) :
    Walks level (position + 1) (position :: marks) trace ending := by
  cases walk with
  | past past => simp [List.getElem?_eq_none past] at here
  | label _ _ walk => exact walk
  | jump here' jumps => cases here.symm.trans here'; cases jumps
  | block here' | box here' | leave here' | ret here' | throw here' | fall here' | back here' =>
      cases here.symm.trans here'

/-- Without jumps back every run is bounded: the labels it passed are behind it. -/
theorem walks_of_runs {level rest : List Region} {trace : List Invocation} {ending : Ending}
    (distinct : (Code.labels (flat level)).Nodup) (free : Code.LoopFree (flat level))
    (run : Runs level rest trace ending) {position : Nat} {marks : List Nat}
    (same : level.drop position = rest) (behind : ∀ mark ∈ marks, mark < position) :
    Walks level position marks trace ending := by
  induction run generalizing position marks with
  | past => exact .past (List.drop_eq_nil_iff.1 same)
  | block _ ih =>
      obtain ⟨here, next⟩ := getElem?_of_drop same
      exact .block here (ih distinct free next fun mark mem => Nat.lt_succ_of_lt (behind mark mem))
  | box _ _ ihInner ih =>
      obtain ⟨here, next⟩ := getElem?_of_drop same
      have sub := flat_inner_sublist (List.mem_of_getElem? here)
      refine .box here (ihInner ((sub.filterMap _).nodup distinct) (free.sublist sub) rfl ?_)
        (ih distinct free next fun mark mem => Nat.lt_succ_of_lt (behind mark mem))
      simp
  | leave _ ihInner =>
      obtain ⟨here, -⟩ := getElem?_of_drop same
      have sub := flat_inner_sublist (List.mem_of_getElem? here)
      refine .leave here (ihInner ((sub.filterMap _).nodup distinct) (free.sublist sub) rfl ?_)
      simp
  | ret => exact .ret (getElem?_of_drop same).1
  | throw => exact .throw (getElem?_of_drop same).1
  | label _ ih =>
      obtain ⟨here, next⟩ := getElem?_of_drop same
      refine .label here (fun mem => Nat.lt_irrefl _ (behind _ mem)) (ih distinct free next ?_)
      intro mark mem
      rcases List.mem_cons.1 mem with rfl | mem
      · exact Nat.lt_succ_self _
      · exact Nat.lt_succ_of_lt (behind mark mem)
  | fall _ ih =>
      obtain ⟨here, next⟩ := getElem?_of_drop same
      exact .fall here (ih distinct free next fun mark mem => Nat.lt_succ_of_lt (behind mark mem))
  | @jump level rest after op target _ _ jumps sub _ ih =>
      obtain ⟨here, -⟩ := getElem?_of_drop same
      obtain ⟨place, found⟩ := exists_labelIndex? (mem_of_suffix sub)
      have there := drop_labelIndex? distinct found sub
      have ahead : position < place := by
        refine Nat.lt_of_not_le fun before => ?_
        rcases Nat.eq_or_lt_of_le before with equal | before
        · rw [equal, same] at there
          cases there
          cases jumps
        · -- The jump comes after its label, which a jump forward does not.
          have later : .control op ∈ flat after := by
            refine mem_flat.2 ⟨.control op, ?_, List.mem_singleton.2 rfl⟩
            rw [← (getElem?_of_drop there).2, List.mem_iff_getElem?]
            refine ⟨position - (place + 1), ?_⟩
            rw [List.getElem?_drop, Nat.add_sub_cancel' before]
            exact here
          exact free target (flat after) (flat_suffix sub) _ later jumps
      have fresh : place ∉ marks := fun mem => by
        have := behind place mem
        omega
      refine .jump here jumps found (fun back => by have := back.2; omega) fresh ?_
      refine (ih distinct free there ?_).label_inv (labelIndex?_eq_some found)
      exact fun mark mem => Nat.lt_trans (behind mark mem) ahead

end Region

end CallSearch
