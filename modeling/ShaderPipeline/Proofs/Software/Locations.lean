import Mathlib.Data.List.Nodup
import Mathlib.Data.List.Pairwise
import ShaderPipeline.Proofs.Software.Statements
import ShaderPipeline.Software.Device

/-!
# The locations of uniforms

Linked texts get their locations in one pass over their declarations.  A name counts
where it is declared first, and its uniform takes as many locations as it has elements,
right behind the uniforms before it.  One table holds the names of uniforms and the
names that are made for elements.  No name stands in it twice, since a declared name
holds no bracket beside other characters.
-/

namespace ShaderPipeline.Software

/-- The declarations of linked texts, in the order of the texts. -/
def declarations (stages : List (Stage × String)) : List DeclaredUniform :=
  stages.flatMap fun stage => declaredUniforms stage.2

/-- The first declaration of every name. -/
def firstDeclarations : List DeclaredUniform → List DeclaredUniform
  | [] => []
  | one :: rest => one :: (firstDeclarations rest).filter (·.name ≠ one.name)

/-- The kept declarations are the first ones of all names, in the order of declaration. -/
structure AreFirst (declared kept : List DeclaredUniform) : Prop where
  inOrder : kept.Sublist declared
  once : (kept.map (·.name)).Nodup
  complete : ∀ one ∈ declared, one.name ∈ kept.map (·.name)
  first : ∀ one ∈ kept, declared.find? (·.name = one.name) = some one

theorem areFirst_firstDeclarations (declared : List DeclaredUniform) :
    AreFirst declared (firstDeclarations declared) := by
  induction declared with
  | nil => exact ⟨.slnil, .nil, by simp, by simp [firstDeclarations]⟩
  | cons one rest ih =>
      rw [firstDeclarations]
      constructor
      · exact (List.filter_sublist.trans ih.inOrder).cons_cons one
      · rw [List.map_cons, List.nodup_cons]
        constructor
        · simp
        · exact ih.once.sublist (List.filter_sublist.map _)
      · intro other member
        by_cases sameName : other.name = one.name
        · simp [sameName]
        · have inRest := ih.complete other ((List.mem_cons.mp member).resolve_left fun isOne =>
            sameName (by rw [isOne]))
          obtain ⟨kept, isKept, isName⟩ := List.mem_map.mp inRest
          have notOne : kept.name ≠ one.name := isName ▸ sameName
          have isLeft : kept ∈ (firstDeclarations rest).filter (·.name ≠ one.name) :=
            List.mem_filter.mpr ⟨isKept, by simpa using notOne⟩
          exact List.mem_map.mpr ⟨kept, List.mem_cons_of_mem _ isLeft, isName⟩
      · intro other member
        rcases List.mem_cons.mp member with rfl | inRest
        · simp
        · obtain ⟨isKept, otherName⟩ := List.mem_filter.mp inRest
          have otherName : other.name ≠ one.name := by simpa using otherName
          rw [List.find?_cons_of_neg (by simpa using otherName.symm)]
          exact ih.first other isKept

/-- The number of locations that uniforms take together. -/
def total : List DeclaredUniform → Nat
  | [] => 0
  | one :: rest => one.size.toNat + total rest

theorem total_append (before behind : List DeclaredUniform) :
    total (before ++ behind) = total before + total behind := by
  induction before with
  | nil => simp [total]
  | cons one before ih =>
      rw [List.cons_append, total, total, ih]
      omega

namespace UniformLayout

section Names

theorem toList_elementName (name : String) (element : Nat) :
    (elementName name element).toList =
      name.toList ++ '[' :: ((Nat.repr element).toList ++ [']']) := by
  simp [elementName]

/-- A text is cut at its last bracket in one way only. -/
theorem append_bracket_inj {front front' back back' : List Char} (noBracket : '[' ∉ back)
    (noBracket' : '[' ∉ back') (same : front ++ '[' :: back = front' ++ '[' :: back') :
    front = front' ∧ back = back' := by
  -- Either front may be the longer one, and then the other back holds the bracket.
  rcases List.append_eq_append_iff.mp same with ⟨gap, isFront, isBack⟩ | ⟨gap, isFront, isBack⟩
  · cases gap with
    | nil => exact ⟨by rw [isFront, List.append_nil], (List.cons_eq_cons.mp isBack).2⟩
    | cons character gap =>
        rw [(List.cons_eq_cons.mp isBack).2] at noBracket
        simp at noBracket
  · cases gap with
    | nil => exact ⟨by rw [isFront, List.append_nil], (List.cons_eq_cons.mp isBack).2.symm⟩
    | cons character gap =>
        rw [(List.cons_eq_cons.mp isBack).2] at noBracket'
        simp at noBracket'

theorem elementName_inj {name name' : String} {element element' : Nat}
    (same : elementName name element = elementName name' element') :
    name = name' ∧ element = element' := by
  have noBracket : ∀ number, '[' ∉ (Nat.repr number).toList ++ [']'] := by
    intro number inside
    rcases List.mem_append.mp inside with inDigits | isBracket
    · cases Text.isDigit_of_mem_repr inDigits
    · simp at isBracket
  have sameText := congrArg String.toList same
  rw [toList_elementName, toList_elementName] at sameText
  obtain ⟨sameName, sameDigits⟩ := append_bracket_inj (noBracket _) (noBracket _) sameText
  have sameDigits := List.append_cancel_right sameDigits
  rw [Nat.repr, Nat.repr, String.toList_ofList, String.toList_ofList] at sameDigits
  refine ⟨String.toList_inj.mp sameName, ?_⟩
  rw [← Nat.ofDigitChars_toDigits (b := 10) (n := element) (by decide) (by decide), sameDigits,
    Nat.ofDigitChars_toDigits (by decide) (by decide)]

/-- A name that holds a bracket is that bracket. -/
def IsPlain (name : String) : Prop :=
  '[' ∈ name.toList → name.toList = ['[']

theorem IsPlain.ne_elementName {name : String} (plain : IsPlain name) (base : String)
    (element : Nat) : name ≠ elementName base element := by
  rintro rfl
  have isBracket := plain (by simp [toList_elementName])
  rw [toList_elementName] at isBracket
  have tooLong := congrArg List.length isBracket
  rw [List.length_append, List.length_cons, List.length_append] at tooLong
  simp only [List.length_singleton] at tooLong
  omega

theorem isPlain_of_mem_declaredUniforms {source : String} {declared : DeclaredUniform}
    (member : declared ∈ declaredUniforms source) : IsPlain declared.name := by
  obtain ⟨statement, -, inStatement⟩ := List.mem_flatMap.mp member
  rw [statementUniforms_eq] at inStatement
  obtain ⟨word, inWords, isName⟩ := List.mem_map.mp (name_mem_of_mem_wordUniforms inStatement)
  intro inside
  rw [← isName, String.toList_ofList] at inside ⊢
  rcases mem_words_spaceOut inWords with ⟨mark, -, isMark'⟩ | ⟨noMark, -⟩
  · rw [isMark'] at inside ⊢
    rw [List.mem_singleton.mp inside]
  · cases noMark '[' inside

end Names

section Table

/-- The names under which a uniform is found. -/
def namesOf (declared : DeclaredUniform) : List String :=
  declared.name :: if 1 < declared.size then
    (List.range declared.size.toNat).map (elementName declared.name) else []

def reported (declared : DeclaredUniform) : ActiveUniform where
  name := if 1 < declared.size then elementName declared.name 0 else declared.name
  size := declared.size.toInt32
  type := declared.type

def entriesOf (declared : DeclaredUniform) (start : Nat) : List (String × UniformLocation) :=
  (declared.name, ⟨start.toUInt32⟩) :: elementLocations declared start.toUInt32

/-- The entries of uniforms that follow one another. -/
def tableFrom (start : Nat) : List DeclaredUniform → List (String × UniformLocation)
  | [] => []
  | one :: rest => entriesOf one start ++ tableFrom (start + one.size.toNat) rest

def layoutOf (kept : List DeclaredUniform) : UniformLayout where
  uniforms := kept.map reported
  locations := tableFrom 0 kept
  next := (total kept).toUInt32

theorem tableFrom_append (start : Nat) (before behind : List DeclaredUniform) :
    tableFrom start (before ++ behind) =
      tableFrom start before ++ tableFrom (start + total before) behind := by
  induction before generalizing start with
  | nil => rfl
  | cons one before ih =>
      rw [List.cons_append, tableFrom, tableFrom, ih, total, List.append_assoc, Nat.add_assoc]

theorem map_fst_entriesOf (declared : DeclaredUniform) (start : Nat) :
    (entriesOf declared start).map Prod.fst = namesOf declared := by
  unfold entriesOf namesOf elementLocations
  split <;> simp [Function.comp_def]

theorem map_fst_tableFrom (start : Nat) (kept : List DeclaredUniform) :
    (tableFrom start kept).map Prod.fst = kept.flatMap namesOf := by
  induction kept generalizing start with
  | nil => rfl
  | cons one kept ih =>
      rw [tableFrom, List.map_append, map_fst_entriesOf, ih, List.flatMap_cons]

/-- Uniforms that share a name of theirs are declared under one name. -/
theorem name_eq_of_mem_namesOf {first second : DeclaredUniform} (plain : IsPlain first.name)
    (plain' : IsPlain second.name) {name : String} (inFirst : name ∈ namesOf first)
    (inSecond : name ∈ namesOf second) : first.name = second.name := by
  have cases' : ∀ {one : DeclaredUniform}, name ∈ namesOf one →
      name = one.name ∨ ∃ element, name = elementName one.name element := by
    intro one member
    rcases List.mem_cons.mp member with isBase | isElement
    · exact Or.inl isBase
    · split at isElement
      · obtain ⟨element, -, isName⟩ := List.mem_map.mp isElement
        exact Or.inr ⟨element, isName.symm⟩
      · cases isElement
  rcases cases' inFirst with rfl | ⟨element, rfl⟩
  · rcases cases' inSecond with isBase | ⟨element, isElement⟩
    · exact isBase
    · exact absurd isElement (plain.ne_elementName _ _)
  · rcases cases' inSecond with isBase | ⟨element', isElement⟩
    · exact absurd isBase.symm (plain'.ne_elementName _ _)
    · exact (elementName_inj isElement).1

variable {kept : List DeclaredUniform}

theorem name_mem_flatMap_namesOf {declared : DeclaredUniform} (plain : IsPlain declared.name)
    (allPlain : ∀ one ∈ kept, IsPlain one.name) :
    declared.name ∈ kept.flatMap namesOf ↔ declared.name ∈ kept.map (·.name) := by
  rw [List.mem_flatMap, List.mem_map]
  constructor
  · rintro ⟨one, isKept, inNames⟩
    exact ⟨one, isKept, name_eq_of_mem_namesOf (allPlain one isKept) plain inNames
      List.mem_cons_self⟩
  · rintro ⟨one, isKept, isName⟩
    exact ⟨one, isKept, isName ▸ List.mem_cons_self⟩

/-- Adding a declaration keeps the form of the layout. -/
theorem add_layoutOf {declared : DeclaredUniform} (plain : IsPlain declared.name)
    (allPlain : ∀ one ∈ kept, IsPlain one.name) :
    (layoutOf kept).add declared =
      if declared.name ∈ kept.map (·.name) then layoutOf kept
      else layoutOf (kept ++ [declared]) := by
  -- The table also holds the names of elements, but a plain name is none of them.
  have isTaken : ((layoutOf kept).location? declared.name).isSome ↔
      declared.name ∈ kept.map (·.name) := by
    rw [location?, List.lookup_isSome_iff, ← name_mem_flatMap_namesOf plain allPlain,
      ← map_fst_tableFrom 0, List.mem_map]
    exact exists_congr fun entry => and_congr_right fun _ => by rw [beq_iff_eq, eq_comm]
  unfold add
  by_cases taken : declared.name ∈ kept.map (·.name)
  · rw [if_pos (isTaken.mpr taken), if_pos taken]
  · have isNext : (total (kept ++ [declared])).toUInt32 =
        (total kept).toUInt32 + declared.size := by
      rw [total_append, total, total, Nat.add_zero, Nat.toUInt32_eq, Nat.toUInt32_eq,
        UInt32.ofNat_add, UInt32.ofNat_toNat]
    have isTable : tableFrom 0 (kept ++ [declared]) =
        tableFrom 0 kept ++ entriesOf declared (total kept) := by
      rw [tableFrom_append, Nat.zero_add, tableFrom, tableFrom, List.append_nil]
    rw [if_neg (mt isTaken.mp taken), if_neg taken, layoutOf, layoutOf, isNext, isTable,
      List.map_append]
    rfl

/-- Declarations of new names are added one after another. -/
theorem foldl_add_layoutOf {declared : List DeclaredUniform}
    (plain : ∀ one ∈ declared, IsPlain one.name) (allPlain : ∀ one ∈ kept, IsPlain one.name) :
    declared.foldl add (layoutOf kept) =
      layoutOf (kept ++ (firstDeclarations declared).filter (·.name ∉ kept.map (·.name))) := by
  induction declared generalizing kept with
  | nil => simp [firstDeclarations]
  | cons one rest ih =>
      obtain ⟨plainOne, plainRest⟩ := List.forall_mem_cons.mp plain
      rw [List.foldl_cons, add_layoutOf plainOne allPlain, firstDeclarations]
      by_cases taken : one.name ∈ kept.map (·.name)
      · rw [if_pos taken, ih plainRest allPlain, List.filter_cons_of_neg (by simpa using taken),
          List.filter_filter]
        -- Later declarations of the name are passed over because it is taken already.
        generalize kept.map (·.name) = names at taken ⊢
        refine congrArg (layoutOf <| kept ++ ·) (List.filter_congr fun other _ => ?_)
        by_cases isOne : other.name = one.name
        · simp [isOne, taken]
        · simp [isOne]
      · have allPlain' : ∀ other ∈ kept ++ [one], IsPlain other.name := by
          simpa [or_imp, forall_and] using ⟨allPlain, plainOne⟩
        rw [if_neg taken, ih plainRest allPlain', List.filter_cons_of_pos (by simpa using taken),
          List.filter_filter, List.append_assoc, List.singleton_append, List.map_append]
        generalize kept.map (·.name) = names
        refine congrArg (layoutOf <| kept ++ one :: ·) (List.filter_congr fun other _ => ?_)
        simp [not_or]

theorem isPlain_of_mem_declarations {stages : List (Stage × String)} {one : DeclaredUniform}
    (member : one ∈ declarations stages) : IsPlain one.name := by
  obtain ⟨stage, -, inStage⟩ := List.mem_flatMap.mp member
  exact isPlain_of_mem_declaredUniforms inStage

theorem ofStages_eq_layoutOf (stages : List (Stage × String)) :
    ofStages stages = layoutOf (firstDeclarations (declarations stages)) := by
  have plain : ∀ one ∈ declarations stages, IsPlain one.name :=
    fun _ => isPlain_of_mem_declarations
  have folded := foldl_add_layoutOf plain (List.forall_mem_nil _)
  rw [List.nil_append, List.filter_eq_self.mpr (by simp)] at folded
  exact folded

end Table

section Ranges

def startOf (kept : List DeclaredUniform) (index : Nat) : Nat :=
  total (kept.take index)

/-- The name is one of those of the uniform at the index. -/
def Owns (kept : List DeclaredUniform) (index : Nat) (name : String) : Prop :=
  ∃ one, kept[index]? = some one ∧ name ∈ namesOf one

/-- The name is found at the location with the number. -/
def Located (layout : UniformLayout) (name : String) (number : Nat) : Prop :=
  ∃ location, layout.location? name = some location ∧ location.number.toNat = number

/-- The uniforms are reported in their order, each range of locations starts where the
one before it ends, and every name of the table leads into the range of its uniform. -/
structure LaysOut (kept : List DeclaredUniform) (layout : UniformLayout) : Prop where
  reports : layout.uniforms = kept.map reported
  starts : ∀ index one, kept[index]? = some one →
    Located layout one.name (startOf kept index) ∧
      Located layout (reported one).name (startOf kept index)
  elements : ∀ index one element, kept[index]? = some one → 1 < one.size →
    element < one.size.toNat →
      Located layout (elementName one.name element) (startOf kept index + element)
  apart : ∀ index later one, kept[index]? = some one → index < later →
    startOf kept index + one.size.toNat ≤ startOf kept later
  once : (layout.locations.map Prod.fst).Nodup
  owned : ∀ name location, layout.location? name = some location →
    (∃! index, Owns kept index name) ∧ ∀ index one, kept[index]? = some one →
      name ∈ namesOf one → startOf kept index ≤ location.number.toNat ∧
        location.number.toNat < startOf kept index + one.size.toNat

variable {kept : List DeclaredUniform}

theorem startOf_succ {index : Nat} {one : DeclaredUniform} (atIndex : kept[index]? = some one) :
    startOf kept (index + 1) = startOf kept index + one.size.toNat := by
  rw [startOf, startOf, List.take_add_one, atIndex, total_append]
  rfl

theorem startOf_mono {index later : Nat} (le : index ≤ later) :
    startOf kept index ≤ startOf kept later := by
  have isTake : kept.take later = kept.take index ++ (kept.take later).drop index := by
    conv_lhs => rw [← List.take_append_drop index (kept.take later), List.take_take,
      Nat.min_eq_left le]
  rw [startOf, startOf, isTake, total_append]
  exact Nat.le_add_right _ _

theorem startOf_le_total (kept : List DeclaredUniform) (index : Nat) :
    startOf kept index ≤ total kept := by
  conv_rhs => rw [← List.take_append_drop index kept, total_append]
  exact Nat.le_add_right _ _

theorem mem_tableFrom {start : Nat} {entry : String × UniformLocation} :
    entry ∈ tableFrom start kept ↔
      ∃ index one, kept[index]? = some one ∧
        entry ∈ entriesOf one (start + startOf kept index) := by
  induction kept generalizing start with
  | nil => simp [tableFrom]
  | cons first rest ih =>
      rw [tableFrom, List.mem_append, ih]
      constructor
      · rintro (inFirst | ⟨index, one, atIndex, inOne⟩)
        · exact ⟨0, first, rfl, inFirst⟩
        · refine ⟨index + 1, one, atIndex, ?_⟩
          rwa [startOf, List.take_succ_cons, total, ← Nat.add_assoc]
      · rintro ⟨index, one, atIndex, inOne⟩
        cases index with
        | zero =>
            obtain rfl : first = one := by simpa using atIndex
            exact Or.inl inOne
        | succ index =>
            rw [startOf, List.take_succ_cons, total, ← Nat.add_assoc] at inOne
            exact Or.inr ⟨index, one, atIndex, inOne⟩

theorem nodup_namesOf {one : DeclaredUniform} (plain : IsPlain one.name) :
    (namesOf one).Nodup := by
  unfold namesOf
  split
  · refine List.nodup_cons.mpr ⟨?_, ?_⟩
    · rintro inElements
      obtain ⟨element, -, isName⟩ := List.mem_map.mp inElements
      exact plain.ne_elementName _ _ isName.symm
    · exact List.nodup_range.map fun _ _ same => (elementName_inj same).2
  · exact List.nodup_singleton _

theorem nodup_flatMap_namesOf (plain : ∀ one ∈ kept, IsPlain one.name)
    (once : (kept.map (·.name)).Nodup) : (kept.flatMap namesOf).Nodup := by
  refine List.nodup_flatMap.mpr ⟨fun one member => nodup_namesOf (plain one member), ?_⟩
  refine (List.pairwise_map.mp once).imp_of_mem ?_
  intro first second isFirst isSecond otherName name inFirst inSecond
  exact otherName (name_eq_of_mem_namesOf (plain _ isFirst) (plain _ isSecond) inFirst inSecond)

theorem lookup_eq_some_iff_mem {table : List (String × UniformLocation)}
    (once : (table.map Prod.fst).Nodup) {name : String} {location : UniformLocation} :
    table.lookup name = some location ↔ (name, location) ∈ table := by
  induction table with
  | nil => simp
  | cons entry rest ih =>
      obtain ⟨key, value⟩ := entry
      obtain ⟨notInRest, onceInRest⟩ := List.nodup_cons.mp once
      rw [List.lookup_cons, List.mem_cons, Prod.mk.injEq]
      by_cases isKey : name = key
      · subst isKey
        have notIn : (name, location) ∉ rest := fun inRest =>
          notInRest (List.mem_map.mpr ⟨_, inRest, rfl⟩)
        simp [notIn, eq_comm]
      · have otherKey : (name == key) = false := by simpa using isKey
        simp only [otherKey, isKey, false_and, false_or]
        exact ih onceInRest

theorem mem_entriesOf {one : DeclaredUniform} {start : Nat} {name : String}
    {location : UniformLocation} :
    (name, location) ∈ entriesOf one start ↔
      (name = one.name ∧ location = ⟨start.toUInt32⟩) ∨
        (1 < one.size ∧ ∃ element < one.size.toNat, name = elementName one.name element ∧
          location = ⟨(start + element).toUInt32⟩) := by
  have isSum : ∀ element : Nat, start.toUInt32 + element.toUInt32 = (start + element).toUInt32 :=
    fun element => (UInt32.ofNat_add start element).symm
  simp only [entriesOf, elementLocations, isSum, List.mem_cons, Prod.mk.injEq]
  refine or_congr_right ?_
  by_cases isArray : 1 < one.size
  · rw [if_pos isArray, List.mem_map, and_iff_right isArray]
    refine exists_congr fun element => and_congr List.mem_range ?_
    rw [Prod.mk.injEq]
    exact and_congr eq_comm eq_comm
  · simp [isArray]

/-- Uniforms of different plain names, each with an element, that fit into the numbers. -/
structure IsFitting (kept : List DeclaredUniform) : Prop where
  plain : ∀ one ∈ kept, IsPlain one.name
  once : (kept.map (·.name)).Nodup
  nonempty : ∀ one ∈ kept, 1 ≤ one.size
  fits : total kept < UInt32.size

namespace IsFitting

variable (fitting : IsFitting kept) {index : Nat} {one : DeclaredUniform}
include fitting

theorem nodup_locations : ((layoutOf kept).locations.map Prod.fst).Nodup := by
  rw [layoutOf, map_fst_tableFrom]
  exact nodup_flatMap_namesOf fitting.plain fitting.once

theorem location?_eq_some_iff {name : String} {location : UniformLocation} :
    (layoutOf kept).location? name = some location ↔
      ∃ index one, kept[index]? = some one ∧
        (name, location) ∈ entriesOf one (startOf kept index) := by
  rw [location?, lookup_eq_some_iff_mem fitting.nodup_locations, layoutOf, mem_tableFrom]
  simp only [Nat.zero_add]

theorem number_eq {offset : Nat} (atIndex : kept[index]? = some one)
    (inside : offset < one.size.toNat) :
    (startOf kept index + offset).toUInt32.toNat = startOf kept index + offset := by
  have ends := startOf_le_total kept (index + 1)
  rw [startOf_succ atIndex] at ends
  have fits := fitting.fits
  exact UInt32.toNat_ofNat_of_lt' (by omega)

theorem size_pos (atIndex : kept[index]? = some one) : 0 < one.size.toNat :=
  UInt32.le_iff_toNat_le.mp (fitting.nonempty one (List.mem_of_getElem? atIndex))

theorem located_name (atIndex : kept[index]? = some one) :
    Located (layoutOf kept) one.name (startOf kept index) :=
  ⟨_, fitting.location?_eq_some_iff.mpr ⟨index, one, atIndex, mem_entriesOf.mpr (.inl ⟨rfl, rfl⟩)⟩,
    fitting.number_eq atIndex (fitting.size_pos atIndex)⟩

theorem located_element {element : Nat} (atIndex : kept[index]? = some one)
    (isArray : 1 < one.size) (inside : element < one.size.toNat) :
    Located (layoutOf kept) (elementName one.name element) (startOf kept index + element) :=
  ⟨_, fitting.location?_eq_some_iff.mpr ⟨index, one, atIndex,
    mem_entriesOf.mpr (.inr ⟨isArray, element, inside, rfl, rfl⟩)⟩,
    fitting.number_eq atIndex inside⟩

theorem located_reported (atIndex : kept[index]? = some one) :
    Located (layoutOf kept) (reported one).name (startOf kept index) := by
  unfold reported
  by_cases isArray : 1 < one.size
  · rw [if_pos isArray]
    exact fitting.located_element atIndex isArray (fitting.size_pos atIndex)
  · rw [if_neg isArray]
    exact fitting.located_name atIndex

/-- A name belongs to one uniform at most. -/
theorem owner_unique {name : String} {index' : Nat} (owner : Owns kept index name)
    (owner' : Owns kept index' name) : index = index' := by
  obtain ⟨one, atIndex, inNames⟩ := owner
  obtain ⟨one', atIndex', inNames'⟩ := owner'
  have sameName := name_eq_of_mem_namesOf (fitting.plain one (List.mem_of_getElem? atIndex))
    (fitting.plain one' (List.mem_of_getElem? atIndex')) inNames inNames'
  have inBounds : index < (kept.map (·.name)).length := by
    rw [List.length_map]
    exact (List.getElem?_eq_some_iff.mp atIndex).1
  refine (List.getElem?_inj inBounds fitting.once).mp ?_
  rw [List.getElem?_map, List.getElem?_map, atIndex, atIndex', Option.map_some, Option.map_some,
    sameName]

theorem in_range {name : String} {location : UniformLocation} (atIndex : kept[index]? = some one)
    (entry : (name, location) ∈ entriesOf one (startOf kept index)) :
    startOf kept index ≤ location.number.toNat ∧
      location.number.toNat < startOf kept index + one.size.toNat := by
  have range : ∀ offset, offset < one.size.toNat →
      location = ⟨(startOf kept index + offset).toUInt32⟩ →
      startOf kept index ≤ location.number.toNat ∧
        location.number.toNat < startOf kept index + one.size.toNat := by
    rintro offset inside rfl
    rw [fitting.number_eq atIndex inside]
    exact ⟨Nat.le_add_right _ _, Nat.add_lt_add_left inside _⟩
  rcases mem_entriesOf.mp entry with ⟨-, isStart⟩ | ⟨-, element, inside, -, isElement⟩
  · exact range 0 (fitting.size_pos atIndex) isStart
  · exact range element inside isElement

theorem laysOut : LaysOut kept (layoutOf kept) where
  reports := rfl
  starts _ _ atIndex := ⟨fitting.located_name atIndex, fitting.located_reported atIndex⟩
  elements _ _ _ atIndex isArray inside := fitting.located_element atIndex isArray inside
  apart _ _ _ atIndex before := startOf_succ atIndex ▸ startOf_mono before
  once := fitting.nodup_locations
  owned := by
    intro name location isLocation
    obtain ⟨index, one, atIndex, entry⟩ := fitting.location?_eq_some_iff.mp isLocation
    have inNames : name ∈ namesOf one := by
      rw [← map_fst_entriesOf one (startOf kept index)]
      exact List.mem_map.mpr ⟨_, entry, rfl⟩
    have owner : Owns kept index name := ⟨one, atIndex, inNames⟩
    refine ⟨⟨index, owner, fun other owns => fitting.owner_unique owns owner⟩, ?_⟩
    intro other one' atOther inOther
    obtain rfl := fitting.owner_unique owner ⟨one', atOther, inOther⟩
    obtain rfl : one = one' := Option.some.inj (atIndex.symm.trans atOther)
    exact fitting.in_range atIndex entry

end IsFitting

end Ranges

section Order

variable {stages : List (Stage × String)}

/-- The texts of vertex stages before those of fragment stages. -/
def vertexFirst (stages : List (Stage × String)) : List (Stage × String) :=
  stages.filter (·.1 = .vertex) ++ stages.filter (·.1 = .fragment)

/-- No vertex stage stands behind a fragment stage. -/
def IsVertexFirst (stages : List (Stage × String)) : Prop :=
  stages.Pairwise fun earlier later => later.1 = .vertex → earlier.1 = .vertex

theorem vertexFirst_eq_self (ordered : IsVertexFirst stages) : vertexFirst stages = stages := by
  induction stages with
  | nil => rfl
  | cons stage rest ih =>
      obtain ⟨behind, orderedRest⟩ := List.pairwise_cons.mp ordered
      obtain ⟨kind, text⟩ := stage
      cases kind with
      | vertex => simpa [vertexFirst] using ih orderedRest
      | fragment =>
          have allFragment : ∀ later ∈ rest, later.1 = .fragment := by
            intro later member
            cases isKind : later.1 with
            | vertex => cases behind later member isKind
            | fragment => rfl
          have noVertex : rest.filter (·.1 = .vertex) = [] :=
            List.filter_eq_nil_iff.mpr fun later member => by simp [allFragment later member]
          have all : rest.filter (·.1 = .fragment) = rest :=
            List.filter_eq_self.mpr fun later member => by simp [allFragment later member]
          simp [vertexFirst, noVertex, all]

theorem isFitting_firstDeclarations (nonempty : ∀ one ∈ declarations stages, 1 ≤ one.size)
    (fits : total (firstDeclarations (declarations stages)) < UInt32.size) :
    IsFitting (firstDeclarations (declarations stages)) := by
  have areFirst := areFirst_firstDeclarations (declarations stages)
  exact {
    plain := fun _ isKept => isPlain_of_mem_declarations (areFirst.inOrder.subset isKept)
    once := areFirst.once
    nonempty := fun one isKept => nonempty one (areFirst.inOrder.subset isKept)
    fits }

/-- The first declarations of linked texts are laid out in the order in which the stages
were linked, which is vertex stage first only if no vertex stage was linked behind a
fragment stage. -/
theorem ofStages_lays_out (stages : List (Stage × String))
    (nonempty : ∀ one ∈ declarations stages, 1 ≤ one.size)
    (fits : total (firstDeclarations (declarations stages)) < UInt32.size) :
    AreFirst (declarations stages) (firstDeclarations (declarations stages)) ∧
      LaysOut (firstDeclarations (declarations stages)) (ofStages stages) ∧
      (IsVertexFirst stages →
        LaysOut (firstDeclarations (declarations (vertexFirst stages))) (ofStages stages)) := by
  have laysOut := (isFitting_firstDeclarations nonempty fits).laysOut
  rw [← ofStages_eq_layoutOf] at laysOut
  refine ⟨areFirst_firstDeclarations _, laysOut, fun ordered => ?_⟩
  rwa [vertexFirst_eq_self ordered]

/-- Both stages declare one name, with different sizes. -/
def sharedTint : List (Stage × String) :=
  [(.vertex, "uniform mat4 bones[3];uniform vec4 tint;"),
    (.fragment, "uniform vec4 tint[2], glow;")]

theorem ofStages_lays_out_sharedTint :
    (∀ one ∈ declarations sharedTint, 1 ≤ one.size) ∧
      total (firstDeclarations (declarations sharedTint)) < UInt32.size ∧
      IsVertexFirst sharedTint ∧
      AreFirst (declarations sharedTint) (firstDeclarations (declarations sharedTint)) ∧
      LaysOut (firstDeclarations (declarations (vertexFirst sharedTint)))
        (ofStages sharedTint) := by
  have nonempty : ∀ one ∈ declarations sharedTint, 1 ≤ one.size := by decide +kernel
  have fits : total (firstDeclarations (declarations sharedTint)) < UInt32.size := by
    decide +kernel
  have ordered : IsVertexFirst sharedTint := by simp [IsVertexFirst, sharedTint]
  obtain ⟨areFirst, -, laysOut⟩ := ofStages_lays_out sharedTint nonempty fits
  exact ⟨nonempty, fits, ordered, areFirst, laysOut ordered⟩

/-- The fragment stage is linked before the vertex stage. -/
def fragmentBefore : List (Stage × String) :=
  [(.fragment, "uniform vec4 tint;"), (.vertex, "uniform mat4 mvp;")]

/-- The uniforms of a fragment stage that is linked first are reported first. -/
theorem fragment_uniforms_first :
    (∀ one ∈ declarations fragmentBefore, 1 ≤ one.size) ∧
      total (firstDeclarations (declarations fragmentBefore)) < UInt32.size ∧
      ¬ LaysOut (firstDeclarations (declarations (vertexFirst fragmentBefore)))
        (ofStages fragmentBefore) := by
  refine ⟨by decide +kernel, by decide +kernel, fun laysOut => ?_⟩
  exact absurd laysOut.reports (by decide +kernel)

end Order

end UniformLayout

end ShaderPipeline.Software
