import ShaderPipeline.Cache.Settings
import ShaderPipeline.Proofs.Cache.Store
import ShaderPipeline.Proofs.Files.Descent

/-!
# The names of programs and the places of their files

A name is accepted by the components of its path, in which a single dot behind the
first part means nothing and is not seen.  The file of a program has the extension
behind its name, so its last part is another than the one that was looked at.  It can
step up once, but then the name has led down before.
-/

namespace ShaderPipeline

open Path FileLocation

namespace CacheSettings

/-- The parts of a name between slashes, as they are written. -/
def partsOf (name : String) : List (List Char) :=
  Text.splitAt (· == '/') name.toList

theorem segments_ofString {text : String} (isRelative : (Path.ofString text).absolute = false)
    (notEmpty : text ≠ "") : (Path.ofString text).segments = partsOf text := by
  have someText : text.toList ≠ [] := fun isEmpty => notEmpty (String.toList_eq_nil_iff.mp isEmpty)
  unfold Path.ofString at isRelative ⊢
  split
  · next rest isText =>
      rw [isText] at isRelative
      cases isRelative
  · exact if_neg someText

theorem slash_notMem_partsOf {name : String} {part : List Char} (member : part ∈ partsOf name) :
    '/' ∉ part := by
  intro inside
  have notCut := Text.cut_notMem_splitAt member '/' inside
  simp at notCut

/-- The first part of a relative name is not empty. -/
theorem exists_first_part {name : String} (notEmpty : name ≠ "")
    (isRelative : name.toList.head? ≠ some '/') :
    ∃ first others, partsOf name = first :: others ∧ first ≠ [] := by
  cases isName : name.toList with
  | nil => exact absurd (String.toList_eq_nil_iff.mp isName) notEmpty
  | cons character rest =>
      have uncut : ∀ other ∈ [character], (other == '/') = false := by
        rw [isName] at isRelative
        simpa using isRelative
      obtain ⟨part, parts, isSplit⟩ := Text.exists_splitAt (· == '/') rest
      refine ⟨character :: part, parts, ?_, List.cons_ne_nil _ _⟩
      rw [partsOf, isName]
      exact Text.splitAt_append_of_not uncut isSplit

theorem isPlain_componentOf?_iff (segment : List Char) :
    (componentOf? segment).all isPlain ↔ ['.', '.'] ≠ segment := by
  unfold componentOf?
  split
  · next silent =>
      rcases silent with rfl | rfl <;> simp
  · split
    · next isUp => simp [isUp, isPlain]
    · next notUp => simp [isPlain, Ne.symm notUp]

theorem all_isPlain_iff (segments : List (List Char)) :
    (segments.filterMap componentOf?).all isPlain ↔ ['.', '.'] ∉ segments := by
  induction segments with
  | nil => simp
  | cons segment segments ih =>
      rw [List.mem_cons, not_or, ← ih, ← Ne, ← isPlain_componentOf?_iff, List.filterMap_cons]
      cases componentOf? segment <;> simp

theorem components_of_relative {segments : List (List Char)}
    (notHere : segments.head? ≠ some ['.']) :
    components ⟨false, segments⟩ = segments.filterMap componentOf? := by
  unfold components
  rw [if_neg Bool.false_ne_true]
  split
  · next rest isHere =>
      rw [show segments = ['.'] :: rest from isHere] at notHere
      exact absurd rfl notHere
  · rfl

/-- Dots are refused where they step up, and one dot where it comes first. -/
theorem accepts_iff (name : String) :
    accepts name ↔ name ≠ "" ∧ name.toList.head? ≠ some '/' ∧
      (partsOf name).head? ≠ some ['.'] ∧ ['.', '.'] ∉ partsOf name := by
  by_cases isEmpty : name = ""
  · subst isEmpty
    simp [accepts, components, Path.ofString, segmentsOf]
  by_cases isAbsolute : name.toList.head? = some '/'
  · have absolute : (Path.ofString name).absolute = true := by
      rw [absolute_ofString, isAbsolute]
      rfl
    simp [accepts, components, absolute, isAbsolute, isPlain]
  have relative : (Path.ofString name).absolute = false := by
    rw [absolute_ofString]
    simpa using isAbsolute
  have isPath : Path.ofString name = ⟨false, partsOf name⟩ := by
    rw [← segments_ofString relative isEmpty, ← relative]
  obtain ⟨first, others, isParts, someFirst⟩ := exists_first_part isEmpty isAbsolute
  rw [accepts, isPath, isParts]
  by_cases isHere : first = ['.']
  · simp [components, isHere, isPlain]
  · have someComponent : ((first :: others).filterMap componentOf?).isEmpty = false := by
      have isSome : (componentOf? first).isSome := by
        unfold componentOf?
        rw [if_neg (by simp [someFirst, isHere])]
        split <;> rfl
      obtain ⟨component, isComponent⟩ := Option.isSome_iff_exists.mp isSome
      rw [List.filterMap_cons, isComponent]
      rfl
    rw [components_of_relative (by simpa using isHere), someComponent, Bool.not_false,
      Bool.true_and, all_isPlain_iff]
    simp [isEmpty, isAbsolute, isHere]

theorem pathFor?_eq_none_iff (settings : CacheSettings) (name : String) :
    settings.pathFor? name = none ↔ ¬ accepts name := by
  unfold pathFor?
  split <;> simp_all

/-- The names that the rule for programs forbids: those without text, those that start at the
root, and those with a part that stands for a directory by dots. -/
def Forbidden (name : String) : Prop :=
  name = "" ∨ name.toList.head? = some '/' ∨
    ∃ part ∈ partsOf name, part = ['.'] ∨ part = ['.', '.']

/-- A name has no path if it is empty, starts at the root, has a part that steps up, or starts
with a single dot.  Of what the rule forbids this leaves out the single dots behind the first
part. -/
theorem pathFor?_refuses (settings : CacheSettings) (name : String) :
    (settings.pathFor? name = none ↔ name = "" ∨ name.toList.head? = some '/' ∨
        (partsOf name).head? = some ['.'] ∨ ['.', '.'] ∈ partsOf name) ∧
      (Forbidden name ↔ settings.pathFor? name = none ∨ ['.'] ∈ (partsOf name).tail) := by
  have refused : settings.pathFor? name = none ↔ name = "" ∨ name.toList.head? = some '/' ∨
      (partsOf name).head? = some ['.'] ∨ ['.', '.'] ∈ partsOf name := by
    rw [pathFor?_eq_none_iff, accepts_iff]
    simp only [not_and_or, ne_eq, not_not]
  have someDots : (∃ part ∈ partsOf name, part = ['.'] ∨ part = ['.', '.']) ↔
      ['.'] ∈ partsOf name ∨ ['.', '.'] ∈ partsOf name := by
    constructor
    · rintro ⟨part, member, rfl | rfl⟩
      · exact Or.inl member
      · exact Or.inr member
    · rintro (member | member)
      · exact ⟨_, member, Or.inl rfl⟩
      · exact ⟨_, member, Or.inr rfl⟩
  have oneDot : ['.'] ∈ partsOf name ↔
      (partsOf name).head? = some ['.'] ∨ ['.'] ∈ (partsOf name).tail := by
    cases partsOf name with
    | nil => simp
    | cons first others => simp [eq_comm]
  refine ⟨refused, ?_⟩
  rw [refused, Forbidden, someDots, oneDot]
  exact Iff.of_eq (by ac_rfl)

/-- A dot inside a name is accepted, and the program takes the file of another. -/
theorem inner_dot_accepted :
    Forbidden "sky/./night" ∧
      pathFor? {} "sky/./night" = some "cache/programs/sky/./night.programbin" ∧
      ProgramCache.placeFor? {} "sky/./night" = ProgramCache.placeFor? {} "sky/night" := by
  refine ⟨Or.inr (Or.inr ⟨['.'], ?_, Or.inl rfl⟩), ?_, ?_⟩
  · decide +kernel
  · decide +kernel
  · decide +kernel

/-- The parts of a file's text are those of the name, with the extension behind the last. -/
theorem partsOf_append {name tail : String} (noSlash : '/' ∉ tail.toList) {last : List Char}
    {before : List (List Char)} (isParts : partsOf name = before ++ [last]) :
    partsOf (name ++ tail) = before ++ [last ++ tail.toList] := by
  rw [partsOf, String.toList_append]
  exact Text.splitAt_append isParts (Text.splitAt_of_uncut (Text.uncut_of_notMem noSlash))

/-- The text of a program's file never leads out of the directory. -/
theorem exists_walkBelow?_parts {name extension : String} (accepted : accepts name)
    (noSlash : '/' ∉ extension.toList) :
    ∃ names, walkBelow? [] (partsOf (name ++ "." ++ extension)) = some names := by
  obtain ⟨notEmpty, isRelative, notHere, noUp⟩ := (accepts_iff name).mp accepted
  obtain ⟨first, others, isParts, someFirst⟩ := exists_first_part notEmpty isRelative
  have notDot : first ≠ ['.'] := by simpa [isParts] using notHere
  have noSlash : '/' ∉ ("." ++ extension).toList := by simpa using noSlash
  have tail : ("." ++ extension).toList = '.' :: extension.toList := by simp
  rw [String.append_assoc]
  rcases List.eq_nil_or_concat others with rfl | ⟨middle, last, rfl⟩
  · -- The only part is a name, and a name with something behind it is one too.
    have isParts : partsOf name = [] ++ [first] := isParts
    rw [partsOf_append noSlash isParts, tail]
    have noUp : ['.', '.'] ∉ [first ++ '.' :: extension.toList] := by
      rw [List.mem_singleton]
      rcases first with _ | ⟨character, _ | ⟨next, rest⟩⟩
      · exact absurd rfl someFirst
      · intro isUp
        have isDot : '.' = character := (List.cons_eq_cons.mp isUp).1
        exact notDot (by rw [isDot])
      · simp
    obtain ⟨names, walks⟩ := walkBelow?_of_noUp noUp []
    exact ⟨_, walks⟩
  · -- The first part leads down, so that the last one may step up.
    have isParts : partsOf name = (first :: middle) ++ [last] := by simpa using isParts
    have steps : stepBelow? [] first = some [String.ofList first] := by
      have notUp : first ≠ ['.', '.'] := by
        rintro rfl
        exact noUp (by simp [isParts])
      rw [stepBelow?, if_neg (by simp [someFirst, notDot]), if_neg notUp]
      rfl
    have noUpBetween : ['.', '.'] ∉ middle := fun inside => noUp (by simp [isParts, inside])
    obtain ⟨more, walks⟩ := walkBelow?_of_noUp noUpBetween [String.ofList first]
    obtain ⟨names, lastStep⟩ := exists_stepBelow? (List.append_ne_nil_of_left_ne_nil
      (List.cons_ne_nil (String.ofList first) []) more) (last ++ '.' :: extension.toList)
    refine ⟨names, ?_⟩
    rw [partsOf_append noSlash isParts, tail, walkBelow?_append, walkBelow?, steps,
      Option.bind_some, walks, Option.bind_some, walkBelow?, lastStep]
    rfl

/-- The file of a program lies in the directory.  Its path is the directory with a relative text
behind it, no part of this text leads out of the directory on the way, and the whole of it leads
to plain names below the directory. -/
theorem pathFor?_stays_below {settings : CacheSettings} {name path : String}
    (noSlash : '/' ∉ settings.extension.toList) (isPath : settings.pathFor? name = some path) :
    let relative := name ++ "." ++ settings.extension
    path = Path.join settings.directory relative ∧
      (Path.ofString relative).absolute = false ∧
      (∀ walked, walked <+: (Path.ofString relative).segments →
        ∃ names, walkBelow? [] walked = some names ∧
          walked.foldl step (named settings.directory) = named settings.directory ++ names) ∧
      ∃ names, (∀ name ∈ names, IsName name) ∧ named path = named settings.directory ++ names := by
  intro relative
  have accepted : accepts name := by
    by_contra refused
    rw [(pathFor?_eq_none_iff settings name).mpr refused] at isPath
    cases isPath
  have isJoin : path = Path.join settings.directory relative := by
    rw [pathFor?, if_pos accepted] at isPath
    exact (Option.some.inj isPath).symm
  obtain ⟨notEmpty, isRelative, -, -⟩ := (accepts_iff name).mp accepted
  have notAbsolute : (Path.ofString relative).absolute = false := by
    have someText : name.toList ≠ [] := by simpa using notEmpty
    rw [absolute_ofString, String.toList_append, String.toList_append, List.append_assoc,
      List.head?_append_of_ne_nil _ someText]
    simpa using isRelative
  have isSegments : (Path.ofString relative).segments = partsOf relative :=
    segments_ofString notAbsolute (by simp [relative])
  obtain ⟨final, walks⟩ := exists_walkBelow?_parts accepted noSlash
  have walksOn : ∀ walked names, walked <+: partsOf relative → walkBelow? [] walked = some names →
      walked.foldl step (named settings.directory) = named settings.directory ++ names ∧
        ∀ name ∈ names, IsName name := by
    intro walked names isPrefix walks
    have leads := foldl_step_of_walkBelow? (by simp)
      (fun segment member => slash_notMem_partsOf (isPrefix.subset member)) walks
      (named settings.directory)
    rwa [List.append_nil] at leads
  refine ⟨isJoin, notAbsolute, ?_, ?_⟩
  · intro walked isPrefix
    rw [isSegments] at isPrefix
    obtain ⟨names, walksSoFar⟩ := exists_walkBelow?_of_prefix isPrefix walks
    exact ⟨names, walksSoFar, (walksOn walked names isPrefix walksSoFar).1⟩
  · obtain ⟨leads, areNames⟩ := walksOn _ final List.prefix_rfl walks
    exact ⟨final, areNames, by rw [isJoin, named_join _ notAbsolute]; exact leads⟩

/-- Settings whose extension can make the last part of a file's text step up. -/
def steppingUp : CacheSettings :=
  { directory := "../shared/", extension := "." }

theorem pathFor?_stays_below_steppingUp :
    '/' ∉ steppingUp.extension.toList ∧ steppingUp.pathFor? "sky/" = some "../shared/sky/.." ∧
      (∀ walked, walked <+: (Path.ofString ("sky/" ++ "." ++ ".")).segments →
        ∃ names, walkBelow? [] walked = some names ∧
          walked.foldl step (named "../shared/") = named "../shared/" ++ names) ∧
      ∃ names, (∀ name ∈ names, IsName name) ∧
        named "../shared/sky/.." = named "../shared/" ++ names := by
  have noSlash : '/' ∉ steppingUp.extension.toList := by decide +kernel
  have isPath : steppingUp.pathFor? "sky/" = some "../shared/sky/.." := by decide +kernel
  obtain ⟨-, -, onTheWay, atTheEnd⟩ := pathFor?_stays_below noSlash isPath
  exact ⟨noSlash, isPath, onTheWay, atTheEnd⟩

end CacheSettings

end ShaderPipeline
