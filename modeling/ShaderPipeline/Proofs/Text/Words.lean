import Mathlib.Data.List.Forall2
import Mathlib.Data.List.TakeWhile
import ShaderPipeline.Text.Blank

/-!
# Texts that differ in their blanks

The blanks between two words can be written in many ways.  `Respaced` relates two
texts that keep their words apart at the same places and break their lines
between the same words.  Such texts have the same words, in each of their
statements and in each of their lines.
-/

namespace ShaderPipeline.Text

section SplitAt

variable {cuts : Char → Bool} {character : Char}

theorem splitAt_cons_cut (cut : cuts character) (text : List Char) :
    splitAt cuts (character :: text) = [] :: splitAt cuts text := by
  rw [splitAt, if_pos cut]

theorem exists_splitAt (cuts : Char → Bool) (text : List Char) :
    ∃ part parts, splitAt cuts text = part :: parts := by
  cases text with
  | nil => exact ⟨[], [], rfl⟩
  | cons character text =>
      rw [splitAt]
      split
      · exact ⟨_, _, rfl⟩
      · split <;> exact ⟨_, _, rfl⟩

theorem splitAt_cons_of_not (notCut : cuts character = false) {text part : List Char}
    {parts : List (List Char)} (isSplit : splitAt cuts text = part :: parts) :
    splitAt cuts (character :: text) = (character :: part) :: parts := by
  rw [splitAt, if_neg (by simp [notCut]), isSplit]

theorem splitAt_append_of_not {start : List Char}
    (uncut : ∀ character ∈ start, cuts character = false) {text part : List Char}
    {parts : List (List Char)} (isSplit : splitAt cuts text = part :: parts) :
    splitAt cuts (start ++ text) = (start ++ part) :: parts := by
  induction start with
  | nil => exact isSplit
  | cons character start ih =>
      exact splitAt_cons_of_not (uncut character List.mem_cons_self)
        (ih fun character member => uncut character (List.mem_cons_of_mem _ member))

/-- A text without a character is not cut there. -/
theorem uncut_of_notMem {cut : Char} {text : List Char} (notMem : cut ∉ text) :
    ∀ character ∈ text, (character == cut) = false := by
  intro character member
  rw [beq_eq_false_iff_ne]
  rintro rfl
  exact notMem member

theorem splitAt_of_uncut {text : List Char} (uncut : ∀ character ∈ text, cuts character = false) :
    splitAt cuts text = [text] := by
  have alone := splitAt_append_of_not uncut (rfl : splitAt cuts [] = [[]])
  rwa [List.append_nil] at alone

/-- The last part of the front and the first part of what stands behind it become one. -/
theorem splitAt_append {text text' last first : List Char} {before behind : List (List Char)}
    (isSplit : splitAt cuts text = before ++ [last])
    (isSplit' : splitAt cuts text' = first :: behind) :
    splitAt cuts (text ++ text') = before ++ (last ++ first) :: behind := by
  induction text generalizing before last with
  | nil =>
      have isAlone : ([] : List (List Char)) ++ [[]] = before ++ [last] := isSplit
      obtain ⟨rfl, rfl⟩ := List.append_singleton_inj.mp isAlone
      exact isSplit'
  | cons character text ih =>
      rw [List.cons_append]
      cases isCut : cuts character with
      | true =>
          rw [splitAt_cons_cut isCut] at isSplit ⊢
          cases before with
          | nil =>
              obtain ⟨part, parts, isRest⟩ := exists_splitAt cuts text
              simp [isRest] at isSplit
          | cons start before =>
              obtain ⟨rfl, isRest⟩ := List.cons_eq_cons.mp isSplit
              rw [ih isRest]
              rfl
      | false =>
          obtain ⟨part, parts, isRest⟩ := exists_splitAt cuts text
          rw [splitAt_cons_of_not isCut isRest] at isSplit
          cases before with
          | nil =>
              obtain ⟨rfl, rfl⟩ := List.cons_eq_cons.mp isSplit
              have isRest : splitAt cuts text = [] ++ [part] := isRest
              exact splitAt_cons_of_not isCut (ih isRest)
          | cons start before =>
              obtain ⟨rfl, rfl⟩ := List.cons_eq_cons.mp isSplit
              have isRest : splitAt cuts text = (part :: before) ++ [last] := isRest
              exact splitAt_cons_of_not isCut (ih isRest)

theorem cut_notMem_splitAt {text part : List Char} (member : part ∈ splitAt cuts text) :
    ∀ character ∈ part, cuts character = false := by
  induction text generalizing part with
  | nil =>
      rw [List.mem_singleton.mp member]
      simp
  | cons first text ih =>
      cases isCut : cuts first with
      | true =>
          rw [splitAt_cons_cut isCut] at member
          rcases List.mem_cons.mp member with rfl | inRest
          · simp
          · exact ih inRest
      | false =>
          obtain ⟨start, parts, isRest⟩ := exists_splitAt cuts text
          rw [splitAt_cons_of_not isCut isRest] at member
          rw [isRest] at ih
          rcases List.mem_cons.mp member with rfl | inRest
          · exact List.forall_mem_cons.mpr ⟨isCut, ih List.mem_cons_self⟩
          · exact ih (List.mem_cons_of_mem _ inRest)

theorem exists_splitAt_last (cuts : Char → Bool) (text : List Char) :
    ∃ before last, splitAt cuts text = before ++ [last] := by
  obtain ⟨part, parts, isSplit⟩ := exists_splitAt cuts text
  exact ⟨_, _, (List.dropLast_append_getLast (isSplit ▸ List.cons_ne_nil _ _)).symm⟩

/-- Every part stands in the text as it is, and the first one at its start. -/
theorem infix_of_mem_splitAt {text : List Char} :
    (∀ part ∈ (splitAt cuts text).head?, part <+: text) ∧
      ∀ part ∈ splitAt cuts text, part <:+: text := by
  induction text with
  | nil => simp [splitAt]
  | cons character text ih =>
      cases isCut : cuts character with
      | true =>
          rw [splitAt_cons_cut isCut]
          refine ⟨by simp, List.forall_mem_cons.mpr ⟨List.nil_infix, ?_⟩⟩
          exact fun part member => List.infix_cons (ih.2 part member)
      | false =>
          obtain ⟨first, parts, isRest⟩ := exists_splitAt cuts text
          rw [isRest] at ih
          have isPrefix : character :: first <+: character :: text :=
            List.cons_prefix_cons.mpr ⟨rfl, ih.1 first rfl⟩
          rw [splitAt_cons_of_not isCut isRest]
          refine ⟨by simpa using isPrefix, List.forall_mem_cons.mpr ⟨isPrefix.isInfix, ?_⟩⟩
          exact fun part member => List.infix_cons (ih.2 part (List.mem_cons_of_mem _ member))

theorem splitAt_append_cut (cut : cuts character) (before behind : List Char) :
    splitAt cuts (before ++ character :: behind) = splitAt cuts before ++ splitAt cuts behind := by
  obtain ⟨start, last, isSplit⟩ := exists_splitAt_last cuts before
  rw [splitAt_append isSplit (splitAt_cons_cut cut behind), isSplit, List.append_nil,
    List.append_assoc, List.singleton_append]

/-- A text that was cut at one character only can be joined again. -/
theorem intercalate_splitAt {cut : Char}
    (only : ∀ character, cuts character → character = cut) (text : List Char) :
    [cut].intercalate (splitAt cuts text) = text := by
  induction text with
  | nil => rfl
  | cons character text ih =>
      obtain ⟨part, parts, isSplit⟩ := exists_splitAt cuts text
      rw [isSplit] at ih
      cases isCut : cuts character with
      | true =>
          rw [splitAt_cons_cut isCut, isSplit, List.intercalate_cons_cons, ih, only character isCut,
            List.nil_append, List.singleton_append]
      | false =>
          rw [splitAt_cons_of_not isCut isSplit]
          cases parts with
          | nil =>
              rw [List.intercalate_singleton] at ih ⊢
              rw [ih]
          | cons next parts =>
              rw [List.intercalate_cons_cons] at ih ⊢
              rw [← ih, List.cons_append, List.cons_append]

theorem length_splitAt (cuts : Char → Bool) (text : List Char) :
    (splitAt cuts text).length = text.countP cuts + 1 := by
  induction text with
  | nil => rfl
  | cons character text ih =>
      obtain ⟨part, parts, isSplit⟩ := exists_splitAt cuts text
      cases isCut : cuts character with
      | true => rw [splitAt_cons_cut isCut, List.length_cons, ih, List.countP_cons_of_pos isCut]
      | false =>
          rw [splitAt_cons_of_not isCut isSplit, List.countP_cons_of_neg (by simp [isCut]), ← ih,
            isSplit]
          rfl

/-- A part has as many cuts in front of it as parts. -/
theorem exists_of_getElem?_splitAt {text part : List Char} {index : Nat}
    (found : (splitAt cuts text)[index]? = some part) :
    ∃ before behind, text = before ++ (part ++ behind) ∧ before.countP cuts = index := by
  induction text generalizing index with
  | nil =>
      obtain ⟨rfl, rfl⟩ : index = 0 ∧ part = [] := by
        cases index with
        | zero => exact ⟨rfl, (Option.some.inj found).symm⟩
        | succ index => cases found
      exact ⟨[], [], rfl, rfl⟩
  | cons character text ih =>
      cases isCut : cuts character with
      | true =>
          rw [splitAt_cons_cut isCut] at found
          cases index with
          | zero =>
              cases found
              exact ⟨[], character :: text, rfl, rfl⟩
          | succ index =>
              obtain ⟨before, behind, rfl, isIndex⟩ := ih found
              exact ⟨character :: before, behind, rfl,
                by rw [List.countP_cons_of_pos isCut, isIndex]⟩
      | false =>
          obtain ⟨first, parts, isSplit⟩ := exists_splitAt cuts text
          rw [splitAt_cons_of_not isCut isSplit] at found
          cases index with
          | zero =>
              cases found
              obtain ⟨behind, isText⟩ := infix_of_mem_splitAt.1 first (by rw [isSplit]; rfl)
              exact ⟨[], behind, by rw [← isText]; rfl, rfl⟩
          | succ index =>
              rw [isSplit] at ih
              have inRest : (first :: parts)[index + 1]? = some part := found
              obtain ⟨before, behind, rfl, isIndex⟩ := ih inRest
              exact ⟨character :: before, behind, rfl,
                by rw [List.countP_cons_of_neg (by simp [isCut]), isIndex]⟩

/-- A stretch without a cut lies in the part that the cuts in front of it say. -/
theorem getElem?_splitAt_append {middle : List Char}
    (uncut : ∀ character ∈ middle, cuts character = false) (before behind : List Char) :
    ∃ front back, (splitAt cuts (before ++ (middle ++ behind)))[before.countP cuts]? =
      some (front ++ (middle ++ back)) := by
  obtain ⟨start, last, isBefore⟩ := exists_splitAt_last cuts before
  obtain ⟨first, parts, isBehind⟩ := exists_splitAt cuts behind
  have isIndex : before.countP cuts = start.length := by
    have whole := length_splitAt cuts before
    rw [isBefore, List.length_append, List.length_singleton] at whole
    omega
  refine ⟨last, first, ?_⟩
  rw [splitAt_append isBefore (splitAt_append_of_not uncut isBehind), isIndex,
    List.getElem?_append_right (Nat.le_refl _), Nat.sub_self]
  rfl

end SplitAt

theorem isDigit_of_mem_repr {number : Nat} {digit : Char}
    (member : digit ∈ (Nat.repr number).toList) : digit.isDigit := by
  rw [Nat.repr, String.toList_ofList] at member
  exact Nat.isDigit_of_mem_toDigits (by decide) (by decide) member

/-- Blanks and nothing else, but at least one of them. -/
structure IsGap (gap : List Char) : Prop where
  ne_nil : gap ≠ []
  blank : ∀ character ∈ gap, isBlank character

section Words

theorem words_nil : words [] = [] :=
  rfl

theorem words_append_blank {character : Char} (blank : isBlank character)
    (before behind : List Char) :
    words (before ++ character :: behind) = words before ++ words behind := by
  rw [words, splitAt_append_cut blank, List.filter_append]
  rfl

theorem words_cons_blank {character : Char} (blank : isBlank character) (text : List Char) :
    words (character :: text) = words text :=
  words_append_blank blank [] text

theorem words_blanks_append {blanks : List Char} (areBlank : ∀ character ∈ blanks, isBlank character)
    (text : List Char) : words (blanks ++ text) = words text := by
  induction blanks with
  | nil => rfl
  | cons character blanks ih =>
      rw [List.cons_append, words_cons_blank (areBlank character List.mem_cons_self),
        ih fun character member => areBlank character (List.mem_cons_of_mem _ member)]

theorem words_append_gap {gap : List Char} (isGap : IsGap gap) (before behind : List Char) :
    words (before ++ (gap ++ behind)) = words before ++ words behind := by
  obtain ⟨character, blanks, rfl⟩ := List.exists_cons_of_ne_nil isGap.ne_nil
  rw [List.cons_append, words_append_blank (isGap.blank character List.mem_cons_self),
    words_blanks_append fun character member => isGap.blank character (List.mem_cons_of_mem _ member)]

theorem words_append_blanks {blanks : List Char}
    (areBlank : ∀ character ∈ blanks, isBlank character) (text : List Char) :
    words (text ++ blanks) = words text := by
  cases blanks with
  | nil => rw [List.append_nil]
  | cons character blanks =>
      have isGap : IsGap (character :: blanks) := ⟨List.cons_ne_nil _ _, areBlank⟩
      have atEnd := words_append_gap isGap text []
      rwa [List.append_nil, words_nil, List.append_nil] at atEnd

theorem words_of_word {word : List Char} (notEmpty : word ≠ [])
    (solid : ∀ character ∈ word, isBlank character = false) : words word = [word] := by
  rw [words, splitAt_of_uncut solid]
  simp [notEmpty]

/-- The first word ends where the first blank stands. -/
theorem words_cons {first : Char} (notBlank : isBlank first = false) (text : List Char) :
    words (first :: text) =
      (first :: text.takeWhile (!isBlank ·)) :: words (text.dropWhile (!isBlank ·)) := by
  have solid : ∀ character ∈ first :: text.takeWhile (!isBlank ·), isBlank character = false := by
    intro character member
    rcases List.mem_cons.mp member with rfl | inside
    · exact notBlank
    · simpa using List.mem_takeWhile_imp inside
  have isWord := words_of_word (List.cons_ne_nil _ _) solid
  have stops := List.head?_dropWhile_not (!isBlank ·) text
  have whole : text = text.takeWhile (!isBlank ·) ++ text.dropWhile (!isBlank ·) :=
    List.takeWhile_append_dropWhile.symm
  generalize text.takeWhile (!isBlank ·) = word at whole isWord ⊢
  generalize text.dropWhile (!isBlank ·) = rest at whole stops ⊢
  rw [whole, ← List.cons_append]
  cases rest with
  | nil => rw [List.append_nil, isWord, words_nil]
  | cons character rest =>
      have blank : isBlank character := by simpa using stops
      rw [words_append_blank blank, isWord, words_cons_blank blank]
      rfl

end Words

section Lines

theorem lines_of_splitAt {text last : List Char} {before : List (List Char)}
    (isSplit : splitAt (· == '\n') text = before ++ [last]) :
    lines text = before.map dropCarriageReturn ++ [last].filter (!·.isEmpty) := by
  rw [lines, isSplit, List.dropLast_concat, List.getLast?_concat]
  cases last <;> simp

/-- A line feed ends a line. -/
theorem lines_append_feed {line : List Char} (onLine : '\n' ∉ line) (rest : List Char) :
    lines (line ++ '\n' :: rest) = dropCarriageReturn line :: lines rest := by
  obtain ⟨before, last, isRest⟩ := exists_splitAt_last (· == '\n') rest
  have isSplit : splitAt (· == '\n') (line ++ '\n' :: rest) = (line :: before) ++ [last] := by
    rw [splitAt_append_cut rfl, isRest, splitAt_of_uncut (uncut_of_notMem onLine)]
    rfl
  rw [lines_of_splitAt isSplit, lines_of_splitAt isRest]
  rfl

/-- Lines that end with line feeds are cut apart again. -/
theorem splitAt_flatMap_feed {lines : List (List Char)} (onLine : ∀ line ∈ lines, '\n' ∉ line) :
    splitAt (· == '\n') (lines.flatMap (· ++ ['\n'])) = lines ++ [[]] := by
  induction lines with
  | nil => rfl
  | cons line lines ih =>
      obtain ⟨onFirst, onRest⟩ := List.forall_mem_cons.mp onLine
      rw [List.flatMap_cons, List.append_assoc, List.singleton_append, splitAt_append_cut rfl,
        splitAt_of_uncut (uncut_of_notMem onFirst), ih onRest]
      rfl

end Lines

/-- The words of every line that has any. -/
def wordLines (text : List Char) : List (List (List Char)) :=
  ((splitAt (· == '\n') text).map words).filter (!·.isEmpty)

section WordLines

theorem notMem_concat {text : List Char} (onLine : '\n' ∉ text) {character : Char}
    (notFeed : character ≠ '\n') : '\n' ∉ text ++ [character] := by
  simpa using ⟨onLine, notFeed.symm⟩

theorem wordLines_nil : wordLines [] = [] :=
  rfl

theorem wordLines_append_feed (before behind : List Char) :
    wordLines (before ++ '\n' :: behind) = wordLines before ++ wordLines behind := by
  rw [wordLines, splitAt_append_cut rfl, List.map_append, List.filter_append]
  rfl

theorem wordLines_append {start text part : List Char} {parts : List (List Char)}
    (onLine : '\n' ∉ start) (isSplit : splitAt (· == '\n') text = part :: parts) :
    wordLines (start ++ text) =
      (words (start ++ part) :: parts.map words).filter (!·.isEmpty) := by
  rw [wordLines, splitAt_append_of_not (uncut_of_notMem onLine) isSplit]
  rfl

theorem wordLines_of_onLine {text : List Char} (onLine : '\n' ∉ text) :
    wordLines text = [words text].filter (!·.isEmpty) := by
  have alone := wordLines_append onLine (rfl : splitAt (· == '\n') [] = [[]])
  rwa [List.append_nil] at alone

theorem wordLines_concat_blank {text : List Char} (onLine : '\n' ∉ text) {character : Char}
    (blank : isBlank character) (notFeed : character ≠ '\n') :
    wordLines (text ++ [character]) = wordLines text := by
  rw [wordLines_of_onLine (notMem_concat onLine notFeed), wordLines_of_onLine onLine,
    words_append_blanks (by simpa using blank)]

theorem wordLines_blanks_append {blanks : List Char}
    (areBlank : ∀ character ∈ blanks, isBlank character) (text : List Char) :
    wordLines (blanks ++ text) = wordLines text := by
  induction blanks with
  | nil => rfl
  | cons character blanks ih =>
      rw [← ih fun character member => areBlank character (List.mem_cons_of_mem _ member),
        List.cons_append]
      by_cases isFeed : character = '\n'
      · rw [isFeed]
        exact wordLines_append_feed [] _
      · obtain ⟨part, parts, isSplit⟩ := exists_splitAt (· == '\n') (blanks ++ text)
        have alone : '\n' ∉ [character] := by simpa using Ne.symm isFeed
        have blank := areBlank character List.mem_cons_self
        have before := wordLines_append alone isSplit
        have behind := wordLines_append List.not_mem_nil isSplit
        rw [List.singleton_append, List.singleton_append, words_cons_blank blank] at before
        exact before.trans behind.symm

/-- A gap with a line feed ends the line. -/
theorem wordLines_append_gap {gap : List Char} (areBlank : ∀ character ∈ gap, isBlank character)
    (crosses : '\n' ∈ gap) {start : List Char} (onLine : '\n' ∉ start) (text : List Char) :
    wordLines (start ++ (gap ++ text)) = wordLines start ++ wordLines text := by
  induction gap generalizing start with
  | nil => cases crosses
  | cons character gap ih =>
      have areBlank' : ∀ character ∈ gap, isBlank character :=
        fun character member => areBlank character (List.mem_cons_of_mem _ member)
      by_cases isFeed : character = '\n'
      · rw [isFeed, List.cons_append, wordLines_append_feed, wordLines_blanks_append areBlank']
      · have crosses' : '\n' ∈ gap := by
          rcases List.mem_cons.mp crosses with isFeed' | inside
          · exact absurd isFeed'.symm isFeed
          · exact inside
        have moved := ih areBlank' crosses' (notMem_concat onLine isFeed)
        rw [wordLines_concat_blank onLine (areBlank character List.mem_cons_self) isFeed,
          List.append_assoc] at moved
        exact moved

/-- Gaps inside a line do not matter. -/
theorem wordLines_swap_gap {gap gap' : List Char} (isGap : IsGap gap) (isGap' : IsGap gap')
    {start : List Char} (onLine : '\n' ∉ start ++ gap) (onLine' : '\n' ∉ start ++ gap')
    (text : List Char) :
    wordLines (start ++ gap ++ text) = wordLines (start ++ gap' ++ text) := by
  obtain ⟨part, parts, isSplit⟩ := exists_splitAt (· == '\n') text
  rw [wordLines_append onLine isSplit, wordLines_append onLine' isSplit, List.append_assoc,
    List.append_assoc, words_append_gap isGap, words_append_gap isGap']

theorem wordLines_append_blanks {blanks : List Char}
    (areBlank : ∀ character ∈ blanks, isBlank character) {start : List Char}
    (onLine : '\n' ∉ start) : wordLines (start ++ blanks) = wordLines start := by
  by_cases crosses : '\n' ∈ blanks
  · have atEnd := wordLines_append_gap areBlank crosses onLine []
    rwa [List.append_nil, wordLines_nil, List.append_nil] at atEnd
  · have onLine' : '\n' ∉ start ++ blanks := by simp [onLine, crosses]
    rw [wordLines_of_onLine onLine', wordLines_of_onLine onLine, words_append_blanks areBlank]

end WordLines

/-- The second text has the words of the first, with gaps between them where the first has some.
A gap crosses a line in both of them or in neither.  Blanks at the end are left out. -/
inductive Respaced : List Char → List Char → Prop
  | ended {blanks : List Char} (areBlank : ∀ character ∈ blanks, isBlank character) :
      Respaced blanks []
  | same (character : Char) {text text' : List Char} (respaced : Respaced text text') :
      Respaced (character :: text) (character :: text')
  | gap {gap gap' text text' : List Char} (isGap : IsGap gap) (isGap' : IsGap gap')
      (crosses : '\n' ∈ gap ↔ '\n' ∈ gap') (respaced : Respaced text text') :
      Respaced (gap ++ text) (gap' ++ text')

namespace Respaced

variable {text text' : List Char}

theorem append (common : List Char) (respaced : Respaced text text') :
    Respaced (common ++ text) (common ++ text') := by
  induction common with
  | nil => exact respaced
  | cons character common ih => exact .same character ih

theorem words_append (respaced : Respaced text text') (before : List Char) :
    words (before ++ text) = words (before ++ text') := by
  induction respaced generalizing before with
  | ended areBlank => rw [words_append_blanks areBlank, List.append_nil]
  | @same character text text' respaced ih =>
      have moved := ih (before ++ [character])
      rwa [List.append_assoc, List.append_assoc] at moved
  | @gap gap gap' text text' isGap isGap' crosses respaced ih =>
      rw [words_append_gap isGap, words_append_gap isGap']
      exact congrArg (words before ++ ·) (ih [])

theorem words_eq (respaced : Respaced text text') : words text = words text' :=
  respaced.words_append []

theorem splitAt {cuts : Char → Bool} (uncut : ∀ character, isBlank character → cuts character = false)
    (respaced : Respaced text text') :
    List.Forall₂ Respaced (splitAt cuts text) (splitAt cuts text') := by
  induction respaced with
  | @ended blanks areBlank =>
      rw [splitAt_of_uncut fun character member => uncut character (areBlank character member)]
      exact .cons (.ended areBlank) .nil
  | @same character text text' respaced ih =>
      cases isCut : cuts character with
      | true =>
          rw [splitAt_cons_cut isCut, splitAt_cons_cut isCut]
          exact .cons (.ended (by rintro _ ⟨⟩)) ih
      | false =>
          obtain ⟨part, parts, isSplit⟩ := exists_splitAt cuts text
          obtain ⟨part', parts', isSplit'⟩ := exists_splitAt cuts text'
          rw [isSplit, isSplit'] at ih
          rw [splitAt_cons_of_not isCut isSplit, splitAt_cons_of_not isCut isSplit']
          cases ih with
          | cons first rest => exact .cons (.same character first) rest
  | @gap gap gap' text text' isGap isGap' crosses respaced ih =>
      obtain ⟨part, parts, isSplit⟩ := exists_splitAt cuts text
      obtain ⟨part', parts', isSplit'⟩ := exists_splitAt cuts text'
      rw [isSplit, isSplit'] at ih
      rw [splitAt_append_of_not (fun character member => uncut _ (isGap.blank _ member)) isSplit,
        splitAt_append_of_not (fun character member => uncut _ (isGap'.blank _ member)) isSplit']
      cases ih with
      | cons first rest => exact .cons (.gap isGap isGap' crosses first) rest

theorem wordLines_append (respaced : Respaced text text') {start : List Char}
    (onLine : '\n' ∉ start) : wordLines (start ++ text) = wordLines (start ++ text') := by
  induction respaced generalizing start with
  | ended areBlank => rw [wordLines_append_blanks areBlank onLine, List.append_nil]
  | @same character text text' respaced ih =>
      by_cases isFeed : character = '\n'
      · have rest : wordLines text = wordLines text' := ih List.not_mem_nil
        rw [isFeed, wordLines_append_feed, wordLines_append_feed, rest]
      · have moved := ih (notMem_concat onLine isFeed)
        rwa [List.append_assoc, List.append_assoc] at moved
  | @gap gap gap' text text' isGap isGap' crosses respaced ih =>
      by_cases breaks : '\n' ∈ gap
      · have rest : wordLines text = wordLines text' := ih List.not_mem_nil
        rw [wordLines_append_gap isGap.blank breaks onLine,
          wordLines_append_gap isGap'.blank (crosses.mp breaks) onLine, rest]
      · have onLine' : '\n' ∉ start ++ gap := by simp [onLine, breaks]
        have onLine'' : '\n' ∉ start ++ gap' := by simp [onLine, ← crosses, breaks]
        rw [← List.append_assoc, ← List.append_assoc, ih onLine',
          wordLines_swap_gap isGap isGap' onLine' onLine'']

theorem wordLines_eq (respaced : Respaced text text') : wordLines text = wordLines text' :=
  respaced.wordLines_append List.not_mem_nil

end Respaced

end ShaderPipeline.Text
