import ShaderPipeline.Proofs.Software.Source

/-!
# The words of a statement

Brackets and commas are set apart from the words beside them.  So a word of a
statement is either such a mark or a piece of the text that holds none.  The name of a
declared uniform is one of these words, and a statement without the keyword declares
nothing.
-/

namespace ShaderPipeline.Software

open Text

/-- The characters that are words of their own. -/
def isMark (character : Char) : Bool :=
  character == '[' || character == ']' || character == ','

theorem isMark_iff (character : Char) :
    isMark character ↔ character = '[' ∨ character = ']' ∨ character = ',' := by
  simp [isMark, or_assoc]

theorem spaceOut_cons_mark {character : Char} (mark : isMark character) (text : List Char) :
    spaceOut (character :: text) = ' ' :: character :: ' ' :: spaceOut text := by
  rw [spaceOut, List.flatMap_cons, if_pos ((isMark_iff character).mp mark)]
  rfl

theorem spaceOut_cons {character : Char} (notMark : isMark character = false) (text : List Char) :
    spaceOut (character :: text) = character :: spaceOut text := by
  have noMark : ¬ (character = '[' ∨ character = ']' ∨ character = ',') := by
    rw [← isMark_iff, notMark]
    exact Bool.false_ne_true
  rw [spaceOut, List.flatMap_cons, if_neg noMark]
  rfl

/-- Setting marks apart adds them to the parts between blanks and marks. -/
theorem splitAt_spaceOut (text : List Char) :
    ∃ first others others', splitAt isBlank (spaceOut text) = first :: others ∧
      splitAt (fun character => isBlank character || isMark character) text = first :: others' ∧
      ∀ part ∈ others, part ∈ others' ∨ ∃ mark, isMark mark ∧ part = [mark] := by
  induction text with
  | nil => exact ⟨[], [], [], rfl, rfl, by simp⟩
  | cons character text ih =>
      obtain ⟨first, others, others', isSpaced, isSplit, found⟩ := ih
      cases isMark' : isMark character with
      | true =>
          have notBlank : isBlank character = false := by
            rcases (isMark_iff character).mp isMark' with rfl | rfl | rfl <;> rfl
          have behind : splitAt isBlank (' ' :: spaceOut text) = [] :: first :: others := by
            rw [splitAt_cons_cut rfl, isSpaced]
          refine ⟨[], [character] :: first :: others, first :: others', ?_, ?_, ?_⟩
          · rw [spaceOut_cons_mark isMark', splitAt_cons_cut rfl,
              splitAt_cons_of_not notBlank behind]
          · rw [splitAt_cons_cut (by simp [isMark']), isSplit]
          · intro part member
            rcases List.mem_cons.mp member with rfl | inside
            · exact Or.inr ⟨character, isMark', rfl⟩
            rcases List.mem_cons.mp inside with rfl | inOthers
            · exact Or.inl List.mem_cons_self
            · exact (found part inOthers).imp_left (List.mem_cons_of_mem _)
      | false =>
          rw [spaceOut_cons isMark']
          cases isBlank' : isBlank character with
          | true =>
              refine ⟨[], first :: others, first :: others', ?_, ?_, ?_⟩
              · rw [splitAt_cons_cut isBlank', isSpaced]
              · rw [splitAt_cons_cut (by simp [isBlank']), isSplit]
              · intro part member
                rcases List.mem_cons.mp member with rfl | inOthers
                · exact Or.inl List.mem_cons_self
                · exact (found part inOthers).imp_left (List.mem_cons_of_mem _)
          | false =>
              refine ⟨character :: first, others, others', ?_, ?_, found⟩
              · exact splitAt_cons_of_not isBlank' isSpaced
              · exact splitAt_cons_of_not (by simp [isBlank', isMark']) isSplit

/-- A word of a statement is a mark, or it holds none and stands in the text as it is. -/
theorem mem_words_spaceOut {text word : List Char} (member : word ∈ words (spaceOut text)) :
    (∃ mark, isMark mark ∧ word = [mark]) ∨
      (∀ character ∈ word, isMark character = false) ∧ word <:+: text := by
  obtain ⟨first, others, others', isSpaced, isSplit, found⟩ := splitAt_spaceOut text
  have inParts : word ∈ first :: others := by
    rw [← isSpaced]
    exact (List.mem_filter.mp member).1
  have isPart : word ∈ first :: others' ∨ ∃ mark, isMark mark ∧ word = [mark] := by
    rcases List.mem_cons.mp inParts with rfl | inOthers
    · exact Or.inl List.mem_cons_self
    · exact (found word inOthers).imp_left (List.mem_cons_of_mem _)
  rcases isPart with isPart | isMark'
  · rw [← isSplit] at isPart
    refine Or.inr ⟨fun character inWord => ?_, infix_of_mem_splitAt.2 word isPart⟩
    exact (Bool.or_eq_false_iff.mp (cut_notMem_splitAt isPart character inWord)).2
  · exact Or.inl isMark'

def statementWords (statement : List Char) : List String :=
  (words (spaceOut statement)).map String.ofList

def wordUniforms (words : List String) : List DeclaredUniform :=
  match ((words.dropWhile (· != "uniform")).drop 1).dropWhile isPrecision with
  | [] => []
  | keyword :: rest =>
      match UniformType.ofKeyword? keyword with
      | some type => declaredNames type rest
      | none => []

theorem statementUniforms_eq (statement : List Char) :
    statementUniforms statement = wordUniforms (statementWords statement) :=
  rfl

/-- Words in front of the keyword are passed over. -/
theorem wordUniforms_append {before : List String} (noUniform : "uniform" ∉ before)
    (behind : List String) : wordUniforms (before ++ behind) = wordUniforms behind := by
  have passed : ∀ word ∈ before, (word != "uniform") = true := by
    intro word member
    rw [bne_iff_ne]
    rintro rfl
    exact noUniform member
  rw [wordUniforms, List.dropWhile_append_of_pos passed]
  rfl

theorem mem_of_mem_declaredNames {type : UniformType} {words : List String}
    {declared : DeclaredUniform} (member : declared ∈ declaredNames type words) :
    declared.name ∈ words := by
  fun_induction declaredNames type words <;> grind

/-- The name of a declared uniform is a word of its statement. -/
theorem name_mem_of_mem_wordUniforms {words : List String} {declared : DeclaredUniform}
    (member : declared ∈ wordUniforms words) : declared.name ∈ words := by
  unfold wordUniforms at member
  split at member
  · cases member
  · next keyword rest isRest =>
      split at member
      · next type _ =>
          have inRest : declared.name ∈ keyword :: rest :=
            List.mem_cons_of_mem _ (mem_of_mem_declaredNames member)
          rw [← isRest] at inRest
          have inDropped := List.mem_of_mem_drop ((List.dropWhile_suffix _).subset inRest)
          exact (List.dropWhile_suffix _).subset inDropped
      · cases member

def uniformWord : List Char :=
  ['u', 'n', 'i', 'f', 'o', 'r', 'm']

theorem uniform_notMem_statementWords {statement : List Char}
    (noUniform : ¬ uniformWord <:+: statement) : "uniform" ∉ statementWords statement := by
  intro member
  obtain ⟨word, inWords, isUniform⟩ := List.mem_map.mp member
  have isWord : word = uniformWord := by
    rw [← String.toList_ofList (l := word), isUniform]
    rfl
  rcases mem_words_spaceOut inWords with ⟨mark, -, isMark⟩ | ⟨-, inside⟩
  · rw [isWord] at isMark
    cases isMark
  · exact noUniform (isWord ▸ inside)

theorem statementUniforms_eq_nil {statement : List Char}
    (noUniform : ¬ uniformWord <:+: statement) : statementUniforms statement = [] := by
  have passed := wordUniforms_append (uniform_notMem_statementWords noUniform) []
  rwa [List.append_nil] at passed

theorem statementWords_append_blank (before : List Char) {blank : Char} (isBlank' : isBlank blank)
    (behind : List Char) : statementWords (before ++ blank :: behind) =
      statementWords before ++ statementWords behind := by
  have alone : spaceOut [blank] = [blank] := spaceOut_of_blank (by simpa using isBlank')
  rw [statementWords, ← List.singleton_append, spaceOut_append, spaceOut_append, alone,
    List.singleton_append, words_append_blank isBlank', List.map_append]
  rfl

end ShaderPipeline.Software
